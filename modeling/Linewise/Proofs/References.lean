import Linewise.Proofs.Pasting

/-!
References in a text. The replacing works from the left and never looks beyond a character that is
part of no name, so that the text around a reference does not matter. It can only fail for a
reference to a value that cannot be written.
-/

namespace Linewise

/-! ## Where names end -/

section Ends

variable {rest : Text} (ended : rest.head?.any Text.isWord = false)

include ended

theorem takeWhile_isWord_append (text : Text) :
    (text ++ rest).takeWhile Text.isWord = text.takeWhile Text.isWord := by
  induction text with
  | nil =>
      cases rest with
      | nil => rfl
      | cons next after => exact List.takeWhile_cons_of_neg (Bool.eq_false_iff.mp ended)
  | cons head tail induction =>
      rw [List.cons_append, List.takeWhile_cons, List.takeWhile_cons, induction]

theorem dropWhile_isWord_append (text : Text) :
    (text ++ rest).dropWhile Text.isWord = text.dropWhile Text.isWord ++ rest := by
  have whole := List.takeWhile_append_dropWhile (p := Text.isWord) (l := text ++ rest)
  have parts := List.takeWhile_append_dropWhile (p := Text.isWord) (l := text)
  rw [takeWhile_isWord_append ended] at whole
  have same : text.takeWhile Text.isWord ++ (text ++ rest).dropWhile Text.isWord =
      text.takeWhile Text.isWord ++ (text.dropWhile Text.isWord ++ rest) := by
    rw [whole, ← List.append_assoc, parts]
  exact List.append_cancel_left same

theorem leadingName_append_ended (text : Text) : leadingName (text ++ rest) = leadingName text := by
  have stops := takeWhile_isWord_append ended
  cases text with
  | nil =>
      cases rest with
      | nil => rfl
      | cons next after =>
          change leadingName (next :: after) = []
          rw [leadingName]
          split
          · exact stops []
          · rfl
  | cons head tail => rw [List.cons_append, leadingName, leadingName, ← List.cons_append, stops]

end Ends

theorem head?_dropWhile_isWord (text : Text) :
    (text.dropWhile Text.isWord).head?.any Text.isWord = false := by
  have stopped := List.head?_dropWhile_not Text.isWord text
  cases after : text.dropWhile Text.isWord with
  | nil => rfl
  | cons head tail =>
      rw [after] at stopped
      simpa using stopped

theorem drop_length_takeWhile (text : Text) :
    text.drop (text.takeWhile Text.isWord).length = text.dropWhile Text.isWord := by
  have whole := List.takeWhile_append_dropWhile (p := Text.isWord) (l := text)
  calc text.drop (text.takeWhile Text.isWord).length
    _ = (text.takeWhile Text.isWord ++ text.dropWhile Text.isWord).drop
          (text.takeWhile Text.isWord).length := by rw [whole]
    _ = text.dropWhile Text.isWord := List.drop_left

theorem leadingName_takeWhile (text : Text) :
    leadingName (text.takeWhile Text.isWord) = leadingName text := by
  have same := leadingName_append_ended (head?_dropWhile_isWord text) (text.takeWhile Text.isWord)
  rw [List.takeWhile_append_dropWhile] at same
  exact same.symm

/-! ## What may fail

Only a reference to a value can fail, if the value cannot be written. -/

/-- The names that follow the marks of values outside quotes, with `quote` open at the start. -/
private def namesOutside : Option Char → Text → List Text
  | _, [] => []
  | some quote, head :: tail => namesOutside (if head = quote then none else some quote) tail
  | none, head :: tail =>
      if head = '"' ∨ head = '\'' then namesOutside (some head) tail
      else if head = '@' then leadingName tail :: namesOutside none tail
      else namesOutside none tail

/-- The names whose values a text refers to outside quotes; a mark without a name has an empty
one. -/
def unquotedNames (text : Text) : List Text := namesOutside none text

def Bindings.mentionFault? (bindings : Bindings) (name : Text) : Option Fault :=
  if name.isEmpty then none
  else
    match bindings.referenceText? .value name with
    | some (.error cause) => some cause
    | _ => none

private def fault? : Except Fault Text → Option Fault
  | .ok _ => none
  | .error cause => some cause

private theorem fault?_map (change : Text → Text) (result : Except Fault Text) :
    fault? (do return change (← result)) = fault? result := by
  cases result <;> rfl

private theorem namesOutside_append {name : Text} (inner : ∀ char ∈ name, Text.isWord char = true)
    (rest : Text) : namesOutside none (name ++ rest) = namesOutside none rest := by
  induction name with
  | nil => rfl
  | cons head tail induction =>
      rw [List.forall_mem_cons] at inner
      have unquoted : ¬(head = '"' ∨ head = '\'') := by
        rintro (rfl | rfl) <;> cases inner.1
      have unmarked : head ≠ '@' := by
        rintro rfl
        cases inner.1
      rw [List.cons_append, namesOutside, if_neg unquoted, if_neg unmarked, induction inner.2]

private theorem length_leadingName_le (text : Text) : (leadingName text).length ≤ text.length := by
  cases text with
  | nil => exact Nat.le_refl 0
  | cons head tail =>
      rw [leadingName]
      split
      · have start : (head :: tail).takeWhile Text.isWord <+: head :: tail :=
          List.takeWhile_prefix Text.isWord
        exact start.length_le
      · exact Nat.zero_le _

/-- What is taken along has no marks in it, so that it does not matter whether it is passed over. -/
private theorem namesOutside_drop (text : Text) :
    namesOutside none (text.drop (text.takeWhile Text.isWord).length) = namesOutside none text := by
  have inner : ∀ char ∈ text.takeWhile Text.isWord, Text.isWord char = true :=
    fun char member => List.mem_takeWhile_imp member
  have whole := List.takeWhile_append_dropWhile (p := Text.isWord) (l := text)
  rw [drop_length_takeWhile, ← namesOutside_append inner, whole]

private theorem fault?_typeText {bindings : Bindings} {name : Text}
    {replacement : Except Fault Text}
    (replaced : bindings.referenceText? .type name = some replacement) :
    fault? replacement = none := by
  unfold Bindings.referenceText? at replaced
  split at replaced
  · cases replaced
    rfl
  · obtain ⟨stored, _, rfl⟩ := Option.map_eq_some_iff.mp replaced
    rfl

private def faultAt? (bindings : Bindings) (head : Char) (tail : Text) : Option Fault :=
  if head = '@' then bindings.mentionFault? (leadingName tail) else none

private theorem fault?_of_found {bindings : Bindings} {head : Char} {tail : Text}
    {replacement : Except Fault Text} {length : Nat}
    (found : bindings.referenceAt? head tail = some (replacement, length)) :
    length = (leadingName tail).length ∧ fault? replacement = faultAt? bindings head tail := by
  simp only [Bindings.referenceAt?, Option.bind_eq_bind, Option.bind_eq_some_iff] at found
  obtain ⟨reference, mark, found⟩ := found
  split at found
  · cases found
  · next named =>
      obtain ⟨text, replaced, equal⟩ := Option.bind_eq_some_iff.mp found
      cases equal
      refine ⟨rfl, ?_⟩
      unfold Reference.ofMark? at mark
      split at mark <;> cases mark
      · rw [faultAt?, if_pos rfl, Bindings.mentionFault?, if_neg named, replaced]
        cases replacement <;> rfl
      · exact fault?_typeText replaced

private theorem faultAt?_of_unfound {bindings : Bindings} {head : Char} {tail : Text}
    (unfound : bindings.referenceAt? head tail = none) : faultAt? bindings head tail = none := by
  unfold faultAt?
  split
  · next mark =>
      subst mark
      unfold Bindings.mentionFault?
      split
      · rfl
      · next named =>
          cases replaced : bindings.referenceText? .value (leadingName tail) with
          | none => rfl
          | some replacement =>
              simp [Bindings.referenceAt?, Reference.ofMark?, named, replaced] at unfound
  · rfl

private theorem findSome?_namesOutside (bindings : Bindings) {head : Char}
    (unquoted : ¬(head = '"' ∨ head = '\'')) (tail : Text) :
    (namesOutside none (head :: tail)).findSome? bindings.mentionFault? =
      (faultAt? bindings head tail).or
        ((namesOutside none tail).findSome? bindings.mentionFault?) := by
  rw [namesOutside, if_neg unquoted, faultAt?]
  split
  · rw [List.findSome?_cons]
    cases bindings.mentionFault? (leadingName tail) <;> rfl
  · rfl

theorem isTakenAlong_eq : isTakenAlong = Text.isWord := by
  funext char
  exact (Text.isWord_eq char).symm

private theorem fault?_substituteFrom_of_unmarked (bindings : Bindings) {text : Text}
    (unmarked : ∀ char ∈ text, Reference.ofMark? char = none) (skipped : Nat) :
    fault? (substituteFrom bindings skipped text) = none := by
  induction text generalizing skipped with
  | nil => cases skipped <;> rfl
  | cons head tail induction =>
      rw [List.forall_mem_cons] at unmarked
      cases skipped with
      | succ skipped => exact induction unmarked.2 skipped
      | zero =>
          have alone : bindings.referenceAt? head tail = none := by
            rw [Bindings.referenceAt?, unmarked.1]
            rfl
          rw [substituteFrom, alone]
          exact (fault?_map _ _).trans (induction unmarked.2 0)

private theorem fault?_taken (bindings : Bindings) (mark : Char) (tail : Text) :
    fault? (substitute bindings (mark :: tail.takeWhile Text.isWord)) =
      faultAt? bindings mark tail := by
  have inner : ∀ char ∈ tail.takeWhile Text.isWord, Reference.ofMark? char = none :=
    fun char member => unmarked_of_isWord (List.mem_takeWhile_imp member)
  have same : bindings.referenceAt? mark (tail.takeWhile Text.isWord) =
      bindings.referenceAt? mark tail := by
    simp only [Bindings.referenceAt?, leadingName_takeWhile]
  rw [substitute, substituteFrom, same]
  split
  · next replacement length found =>
      rw [← (fault?_of_found found).2]
      cases replacement with
      | error cause => rfl
      | ok shown =>
          exact (fault?_map _ _).trans (fault?_substituteFrom_of_unmarked bindings inner length)
  · next unfound =>
      rw [faultAt?_of_unfound unfound]
      exact (fault?_map _ _).trans (fault?_substituteFrom_of_unmarked bindings inner 0)

private theorem fault?_bind {first : Except Fault Text} {next : Except Fault Text} :
    fault? (do
      let shown ← first
      return shown ++ (← next)) = (fault? first).or (fault? next) := by
  cases first with
  | error cause => rfl
  | ok shown => exact fault?_map _ next

private theorem fault?_substituteOutside (bindings : Bindings) (text : Text) :
    (∀ skipped, fault? (substituteOutside bindings none skipped text) =
      (namesOutside none (text.drop skipped)).findSome? bindings.mentionFault?) ∧
    ∀ quote, fault? (substituteOutside bindings (some quote) 0 text) =
      (namesOutside (some quote) text).findSome? bindings.mentionFault? := by
  induction text with
  | nil => exact ⟨fun skipped => by cases skipped <;> rfl, fun quote => rfl⟩
  | cons head tail induction =>
      obtain ⟨outside, inside⟩ := induction
      constructor
      · intro skipped
        cases skipped with
        | succ skipped => exact outside skipped
        | zero =>
            rw [substituteOutside, List.drop_zero]
            split
            · next quotes => rw [fault?_map, inside, namesOutside, if_pos quotes]
            · next unquoted =>
                rw [findSome?_namesOutside bindings unquoted]
                split
                · simp only [isTakenAlong_eq]
                  rw [fault?_bind, fault?_taken, outside, namesOutside_drop]
                · next unmarked =>
                    have plain : faultAt? bindings head tail = none := by
                      apply if_neg
                      rintro rfl
                      exact unmarked rfl
                    rw [fault?_map, outside, plain]
                    rfl
      · intro quote
        rw [substituteOutside, fault?_map, namesOutside]
        split
        · exact outside 0
        · exact inside quote

/-- The replacing fails at the first name whose value cannot be written. -/
theorem substituteUnquoted_eq_error_iff {bindings : Bindings} {text : Text} {cause : Fault} :
    substituteUnquoted bindings text = .error cause ↔
      (unquotedNames text).findSome? bindings.mentionFault? = some cause := by
  have same := (fault?_substituteOutside bindings text).1 0
  rw [List.drop_zero] at same
  rw [unquotedNames, ← same, substituteUnquoted]
  cases substituteOutside bindings none 0 text <;> simp [fault?]

/-! ## What is around a reference -/

section Surroundings

variable {rest : Text} (ended : rest.head?.any Text.isWord = false)

include ended

theorem substituteFrom_append (bindings : Bindings) (text : Text) {skipped : Nat}
    (within : skipped ≤ text.length) :
    substituteFrom bindings skipped (text ++ rest) =
      (substituteFrom bindings skipped text).bind fun shown =>
        (substitute bindings rest).map (shown ++ ·) := by
  induction text generalizing skipped with
  | nil =>
      cases Nat.le_zero.mp within
      rw [List.nil_append, ← substitute]
      cases substitute bindings rest <;> rfl
  | cons head tail induction =>
      cases skipped with
      | succ skipped => exact induction (Nat.le_of_succ_le_succ within)
      | zero =>
          have same : bindings.referenceAt? head (tail ++ rest) =
              bindings.referenceAt? head tail := by
            simp only [Bindings.referenceAt?, leadingName_append_ended ended]
          rw [List.cons_append, substituteFrom, substituteFrom, same]
          cases found : bindings.referenceAt? head tail with
          | none =>
              have next := induction (Nat.zero_le tail.length)
              simp only [next]
              cases substituteFrom bindings 0 tail <;> cases substitute bindings rest <;> rfl
          | some covered =>
              obtain ⟨replacement, length⟩ := covered
              obtain ⟨rfl, _⟩ := fault?_of_found found
              have next := induction (length_leadingName_le tail)
              simp only [next]
              cases replacement with
              | error cause => rfl
              | ok text =>
                  cases substituteFrom bindings (leadingName tail).length tail <;>
                    cases substitute bindings rest <;>
                    simp [bind, Except.bind, pure, Except.pure, Except.map]

/-- A text that ends where no name goes on is replaced by itself, and then what comes after it. -/
theorem substitute_append_ended (bindings : Bindings) (text : Text) :
    substitute bindings (text ++ rest) =
      (substitute bindings text).bind fun shown => (substitute bindings rest).map (shown ++ ·) :=
  substituteFrom_append ended bindings text (Nat.zero_le _)

end Surroundings

theorem isWord_mark {mark : Char} {reference : Reference}
    (marks : Reference.ofMark? mark = some reference) : Text.isWord mark = false := by
  rw [← Bool.not_eq_true]
  intro word
  rw [unmarked_of_isWord word] at marks
  cases marks

/-- A reference is replaced, or stays if its name stands for nothing, and all around it is replaced
as it would be by itself. -/
theorem substitute_around (bindings : Bindings) {mark : Char} {reference : Reference}
    (marks : Reference.ofMark? mark = some reference) {name : Text} (referable : IsReferable name)
    (before : Text) {rest : Text} (ended : rest.head?.any Text.isWord = false) :
    substitute bindings (before ++ mark :: (name ++ rest)) = (do
      let shown ← substitute bindings before
      let text ← (bindings.referenceText? reference name).getD (.ok (mark :: name))
      let others ← substitute bindings rest
      return shown ++ (text ++ others)) := by
  have apart : (mark :: (name ++ rest)).head?.any Text.isWord = false := isWord_mark marks
  rw [substitute_append_ended apart, substitute_reference marks referable ended]
  cases substitute bindings before with
  | error cause => rfl
  | ok shown =>
      cases (bindings.referenceText? reference name).getD (.ok (mark :: name)) with
      | error cause => rfl
      | ok text => cases substitute bindings rest <;> rfl

def Variable.shownBy (stored : Variable) : Reference → Except Fault Text
  | .value => stored.mention
  | .type => .ok stored.type

theorem Bindings.referenceText?_eq {bindings : Bindings} {name : Text} {stored : Variable}
    (unreserved : isReserved name = false) (found : bindings name = some stored)
    (reference : Reference) :
    bindings.referenceText? reference name = some (stored.shownBy reference) := by
  rw [referenceText?, unreserved, found]
  cases reference <;> rfl

theorem Bindings.referenceText?_eq_none {bindings : Bindings} {name : Text}
    (unreserved : isReserved name = false) (unbound : bindings name = none)
    (reference : Reference) : bindings.referenceText? reference name = none := by
  rw [referenceText?, unreserved, unbound]
  rfl

end Linewise
