import Linewise.Error
import Linewise.Text.Blank
import Linewise.Text.Case

/-!
Blocks among the lines of a program: where the block of a header ends, and where its alternative
begins. Comments are not taken into account here.
-/

namespace Linewise.Block

/-- What a line means for the nesting of blocks. -/
inductive Mark
  | opening
  | closing
  | alternative
  | other
deriving DecidableEq, Repr

def ifStart : Text := "if ".toList

def whileStart : Text := "while ".toList

def endWord : Text := "endo".toList

def elseWord : Text := "else".toList

def markOf (line : Text) : Mark :=
  let line := Text.lower (Text.strip line)
  if Text.startsWith line ifStart || Text.startsWith line whileStart then .opening
  else if line = endWord then .closing
  else if line = elseWord then .alternative
  else .other

/-- Cut lines at the end of the block that is open at their start, with `depth` more blocks open
inside it: the lines before the end, and the lines after it. -/
def cutEnd? : Nat → List Text → Option (List Text × List Text)
  | _, [] => none
  | depth, line :: rest =>
      let continued (depth : Nat) : Option (List Text × List Text) :=
        (cutEnd? depth rest).map fun (body, after) => (line :: body, after)
      match markOf line with
      | .opening => continued (depth + 1)
      | .closing =>
          match depth with
          | 0 => some ([], rest)
          | depth + 1 => continued depth
      | _ => continued depth

/-- Cut the lines of a block at its alternative, if it has one: the first that stands at depth
zero. -/
def cutElse : Int → List Text → List Text × Option (List Text)
  | _, [] => ([], none)
  | depth, line :: rest =>
      let continued (depth : Int) : List Text × Option (List Text) :=
        let (body, alternative) := cutElse depth rest
        (line :: body, alternative)
      match markOf line with
      | .opening => continued (depth + 1)
      | .closing => continued (depth - 1)
      | .alternative => if depth = 0 then ([], some rest) else continued depth
      | .other => continued depth

/-- The lines of a block as a program of their own: without blanks at their ends, and without
blank lines. -/
def inner (lines : List Text) : List Text :=
  (lines.map Text.strip).filter fun line => !line.isEmpty

theorem length_cutEnd? {depth : Nat} {lines body after : List Text}
    (found : cutEnd? depth lines = some (body, after)) :
    body.length + after.length < lines.length := by
  induction lines generalizing depth body after with
  | nil => simp [cutEnd?] at found
  | cons line rest induction =>
      have step : ∀ deeper, ((cutEnd? deeper rest).map fun (body, after) =>
          (line :: body, after)) = some (body, after) →
          body.length + after.length < (line :: rest).length := by
        intro deeper equal
        obtain ⟨⟨inside, outside⟩, part, pair⟩ := Option.map_eq_some_iff.mp equal
        have shorter := induction part
        cases pair
        simp only [List.length_cons]
        omega
      unfold cutEnd? at found
      split at found
      · exact step _ found
      · split at found
        · cases found
          simp
        · exact step _ found
      · exact step _ found

theorem length_cutElse (depth : Int) (lines : List Text) :
    (cutElse depth lines).1.length + ((cutElse depth lines).2.getD []).length ≤ lines.length := by
  induction lines generalizing depth with
  | nil => simp [cutElse]
  | cons line rest induction =>
      have step : ∀ deeper, (line :: (cutElse deeper rest).1).length
          + ((cutElse deeper rest).2.getD []).length ≤ (line :: rest).length := by
        intro deeper
        have shorter := induction deeper
        simp only [List.length_cons]
        omega
      rw [cutElse]
      split
      · exact step _
      · exact step _
      · split
        · simp
        · exact step _
      · exact step _

theorem length_inner (lines : List Text) : (inner lines).length ≤ lines.length := by
  simpa [inner] using List.length_filter_le (fun line => !line.isEmpty) (lines.map Text.strip)

end Linewise.Block
