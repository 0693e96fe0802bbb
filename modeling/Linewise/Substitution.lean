import Linewise.Text.Word
import Linewise.Variable.Basic

/-!
References to variables in text. After `@` a name stands for the variable's value and after `?` for
its type; a name that no variable has stays as it is. The reserved name END, in any letter case,
stands for the two characters that later become a line feed.
-/

namespace Linewise

/-- What a reference asks for. -/
inductive Reference
  | value
  | type
deriving DecidableEq, Repr

namespace Reference

def ofMark? : Char → Option Reference
  | '@' => some value
  | '?' => some type
  | _ => none

end Reference

def isReserved (name : Text) : Bool := Text.lower name = "end".toList

private def reservedText : Reference → Text
  | .value => ['\\', 'n']
  | .type => DataType.text.name

/-- The text that replaces a reference; `none` if no variable has the name. -/
def Bindings.referenceText? (bindings : Bindings) (reference : Reference) (name : Text) :
    Option (Except Fault Text) :=
  if isReserved name then some (.ok (reservedText reference))
  else
    (bindings name).map fun stored =>
      match reference with
      | .value => stored.mention
      | .type => .ok stored.type

/-- The name at the start of a text; it begins with an ASCII letter or an underscore. -/
def leadingName (text : Text) : Text :=
  match text with
  | [] => []
  | head :: _ =>
      if Text.isAsciiLetter head || head = '_' then text.takeWhile Text.isWord else []

/-- The replacement of a reference that begins with `mark`, and the number of characters after the
mark that it covers. -/
def Bindings.referenceAt? (bindings : Bindings) (mark : Char) (text : Text) :
    Option (Except Fault Text × Nat) := do
  let reference ← Reference.ofMark? mark
  let name := leadingName text
  if name.isEmpty then none
  else
    let replacement ← bindings.referenceText? reference name
    return (replacement, name.length)

def substituteFrom (bindings : Bindings) : Nat → Text → Except Fault Text
  | _, [] => .ok []
  | skipped + 1, _ :: tail => substituteFrom bindings skipped tail
  | 0, head :: tail =>
      match bindings.referenceAt? head tail with
      | some (replacement, length) => do
          let replacement ← replacement
          return replacement ++ (← substituteFrom bindings length tail)
      | none => do return head :: (← substituteFrom bindings 0 tail)

def substitute (bindings : Bindings) (text : Text) : Except Fault Text :=
  substituteFrom bindings 0 text

/-- What a scan for marks takes along after one: letters, numbers and underscores, whichever comes
first. -/
def isTakenAlong (char : Char) : Bool := Text.isAlphanumeric char || char = '_'

/-- As above, but inside `quote`, if one is open, nothing is replaced. Outside, a mark and what is
taken along with it are cut out, and the references in this part alone are replaced. -/
def substituteOutside (bindings : Bindings) :
    Option Char → Nat → Text → Except Fault Text
  | _, _, [] => .ok []
  | some quote, _, head :: tail => do
      let next := if head = quote then none else some quote
      return head :: (← substituteOutside bindings next 0 tail)
  | none, skipped + 1, _ :: tail => substituteOutside bindings none skipped tail
  | none, 0, head :: tail =>
      if head = '"' ∨ head = '\'' then do
        return head :: (← substituteOutside bindings (some head) 0 tail)
      else if (Reference.ofMark? head).isSome then do
        let along := tail.takeWhile isTakenAlong
        let replaced ← substitute bindings (head :: along)
        return replaced ++ (← substituteOutside bindings none along.length tail)
      else do return head :: (← substituteOutside bindings none 0 tail)

/-- Replace every reference outside quotes; a quote that is never closed reaches to the end. -/
def substituteUnquoted (bindings : Bindings) (text : Text) : Except Fault Text :=
  substituteOutside bindings none 0 text

private theorem substituteOutside_of_unmarked (bindings : Bindings) (quote : Option Char)
    {text : Text} (unmarked : ∀ char ∈ text, Reference.ofMark? char = none) :
    substituteOutside bindings quote 0 text = .ok text := by
  induction text generalizing quote with
  | nil => cases quote <;> rfl
  | cons head tail induction =>
      rw [List.forall_mem_cons] at unmarked
      cases quote with
      | some opened =>
          rw [substituteOutside, induction _ unmarked.2]
          rfl
      | none =>
          rw [substituteOutside, unmarked.1, Option.isSome_none, if_neg Bool.false_ne_true]
          split <;> (rw [induction _ unmarked.2]; rfl)

theorem substituteUnquoted_of_unmarked (bindings : Bindings) {text : Text}
    (unmarked : ∀ char ∈ text, Reference.ofMark? char = none) :
    substituteUnquoted bindings text = .ok text :=
  substituteOutside_of_unmarked bindings none unmarked

end Linewise
