import Linewise.Block
import Linewise.Proofs.Text

/-!
Cutting lines into blocks. A cut loses nothing but the line at which it is made, and the lines of a
block, put together as a text, are read as the same lines again.
-/

namespace Linewise.Block

/-! ## What one line means for a cut -/

theorem markOf_strip (line : Text) : markOf (Text.strip line) = markOf line := by
  rw [markOf, markOf, Text.strip_strip]

theorem markOf_blank {line : Text} (blank : Text.strip line = []) : markOf line = .other := by
  rw [markOf, blank]
  decide

theorem strip_ne_nil_of_mark {line : Text} (mark : markOf line ≠ .other) : Text.strip line ≠ [] :=
  fun blank => mark (markOf_blank blank)

section Marks

variable {line : Text} (depth : Nat) (level : Int) (rest : List Text)

theorem cutEnd?_opening (mark : markOf line = .opening) :
    cutEnd? depth (line :: rest) =
      (cutEnd? (depth + 1) rest).map fun (body, after) => (line :: body, after) := by
  cases depth <;> rw [cutEnd?, mark]

theorem cutEnd?_closing_zero (mark : markOf line = .closing) :
    cutEnd? 0 (line :: rest) = some ([], rest) := by
  rw [cutEnd?, mark]

theorem cutEnd?_closing_succ (mark : markOf line = .closing) :
    cutEnd? (depth + 1) (line :: rest) =
      (cutEnd? depth rest).map fun (body, after) => (line :: body, after) := by
  rw [cutEnd?, mark]

theorem cutEnd?_inside (notOpening : markOf line ≠ .opening) (notClosing : markOf line ≠ .closing) :
    cutEnd? depth (line :: rest) =
      (cutEnd? depth rest).map fun (body, after) => (line :: body, after) := by
  rw [cutEnd?.eq_def]
  cases mark : markOf line with
  | opening => exact absurd mark notOpening
  | closing => exact absurd mark notClosing
  | alternative => simp only [mark]
  | other => simp only [mark]

theorem cutElse_opening (mark : markOf line = .opening) :
    cutElse level (line :: rest) =
      (line :: (cutElse (level + 1) rest).1, (cutElse (level + 1) rest).2) := by
  rw [cutElse, mark]

theorem cutElse_closing (mark : markOf line = .closing) :
    cutElse level (line :: rest) =
      (line :: (cutElse (level - 1) rest).1, (cutElse (level - 1) rest).2) := by
  rw [cutElse, mark]

theorem cutElse_other (mark : markOf line = .other) :
    cutElse level (line :: rest) = (line :: (cutElse level rest).1, (cutElse level rest).2) := by
  rw [cutElse, mark]

theorem cutElse_alternative_zero (mark : markOf line = .alternative) :
    cutElse 0 (line :: rest) = ([], some rest) := by
  rw [cutElse, mark]
  rfl

theorem cutElse_alternative_of_ne {level : Int} (mark : markOf line = .alternative)
    (deeper : level ≠ 0) :
    cutElse level (line :: rest) = (line :: (cutElse level rest).1, (cutElse level rest).2) := by
  rw [cutElse, mark]
  exact if_neg deeper

end Marks

/-! ## Parts of a cut -/

theorem append_of_cutEnd? {depth : Nat} {lines body after : List Text}
    (found : cutEnd? depth lines = some (body, after)) :
    ∃ finish, lines = body ++ finish :: after ∧ markOf finish = .closing := by
  induction lines generalizing depth body after with
  | nil => simp [cutEnd?] at found
  | cons line rest induction =>
      have step : ∀ deeper, ((cutEnd? deeper rest).map fun (body, after) =>
          (line :: body, after)) = some (body, after) →
          ∃ finish, line :: rest = body ++ finish :: after ∧ markOf finish = .closing := by
        intro deeper equal
        obtain ⟨⟨inside, outside⟩, part, pair⟩ := Option.map_eq_some_iff.mp equal
        obtain ⟨finish, whole, mark⟩ := induction part
        cases pair
        exact ⟨finish, by rw [whole, List.cons_append], mark⟩
      cases mark : markOf line with
      | opening =>
          rw [cutEnd?_opening _ _ mark] at found
          exact step _ found
      | closing =>
          cases depth with
          | zero =>
              rw [cutEnd?_closing_zero _ mark] at found
              cases found
              exact ⟨line, rfl, mark⟩
          | succ depth =>
              rw [cutEnd?_closing_succ _ _ mark] at found
              exact step _ found
      | alternative =>
          rw [cutEnd?_inside _ _ (by simp [mark]) (by simp [mark])] at found
          exact step _ found
      | other =>
          rw [cutEnd?_inside _ _ (by simp [mark]) (by simp [mark])] at found
          exact step _ found

theorem append_of_cutElse (level : Int) (lines : List Text) :
    match cutElse level lines with
    | (body, none) => lines = body
    | (body, some other) =>
        ∃ middle, lines = body ++ middle :: other ∧ markOf middle = .alternative := by
  induction lines generalizing level with
  | nil => rfl
  | cons line rest induction =>
      have step : ∀ deeper, match (line :: (cutElse deeper rest).1, (cutElse deeper rest).2) with
          | (body, none) => line :: rest = body
          | (body, some other) =>
              ∃ middle, line :: rest = body ++ middle :: other ∧ markOf middle = .alternative := by
        intro deeper
        have part := induction deeper
        generalize cutElse deeper rest = cut at part
        obtain ⟨body, alternative⟩ := cut
        cases alternative with
        | none => exact congrArg (line :: ·) part
        | some other =>
            obtain ⟨middle, whole, mark⟩ := part
            exact ⟨middle, by rw [whole, List.cons_append], mark⟩
      cases mark : markOf line with
      | opening =>
          rw [cutElse_opening _ _ mark]
          exact step _
      | closing =>
          rw [cutElse_closing _ _ mark]
          exact step _
      | alternative =>
          by_cases zero : level = 0
          · subst zero
            rw [cutElse_alternative_zero _ mark]
            exact ⟨line, rfl, mark⟩
          · rw [cutElse_alternative_of_ne _ mark zero]
            exact step _
      | other =>
          rw [cutElse_other _ _ mark]
          exact step _

theorem mem_of_mem_cutElse {level : Int} {lines : List Text} {line : Text}
    (member : line ∈ (cutElse level lines).1 ∨ line ∈ (cutElse level lines).2.getD []) :
    line ∈ lines := by
  have whole := append_of_cutElse level lines
  generalize cutElse level lines = cut at whole member
  obtain ⟨body, alternative⟩ := cut
  cases alternative with
  | none =>
      rcases member with member | member
      · exact whole ▸ member
      · cases member
  | some other =>
      obtain ⟨middle, whole, _⟩ := whole
      rw [whole]
      rcases member with member | member
      · exact List.mem_append_left _ member
      · exact List.mem_append_right _ (List.mem_cons_of_mem middle member)

/-! ## The lines of a block -/

theorem inner_append (left right : List Text) :
    inner (left ++ right) = inner left ++ inner right := by
  simp [inner]

theorem inner_cons_blank {line : Text} (blank : Text.strip line = []) (rest : List Text) :
    inner (line :: rest) = inner rest := by
  simp [inner, blank]

theorem inner_cons {line : Text} (present : Text.strip line ≠ []) (rest : List Text) :
    inner (line :: rest) = Text.strip line :: inner rest := by
  simp [inner, present]

/-- A block ends at the same line, whether its blank lines are there or not. -/
theorem cutEnd?_inner (depth : Nat) (lines : List Text) :
    cutEnd? depth (inner lines) =
      (cutEnd? depth lines).map fun (body, after) => (inner body, inner after) := by
  induction lines generalizing depth with
  | nil => rfl
  | cons line rest induction =>
      by_cases blank : Text.strip line = []
      · have mark := markOf_blank blank
        rw [inner_cons_blank blank, induction, cutEnd?_inside _ _ (by simp [mark]) (by simp [mark]),
          Option.map_map]
        congr 1
        funext (body, after)
        exact congrArg (·, inner after) (inner_cons_blank blank body).symm
      · have step : ∀ deeper,
            ((cutEnd? deeper (inner rest)).map fun (body, after) =>
              (Text.strip line :: body, after)) =
              ((cutEnd? deeper rest).map fun (body, after) => (line :: body, after)).map
                fun (body, after) => (inner body, inner after) := by
          intro deeper
          rw [induction, Option.map_map, Option.map_map]
          congr 1
          funext (body, after)
          exact congrArg (·, inner after) (inner_cons blank body).symm
        have same := markOf_strip line
        rw [inner_cons blank]
        cases mark : markOf line with
        | opening =>
            rw [cutEnd?_opening _ _ mark, cutEnd?_opening _ _ (same.trans mark)]
            exact step _
        | closing =>
            cases depth with
            | zero =>
                rw [cutEnd?_closing_zero _ mark, cutEnd?_closing_zero _ (same.trans mark)]
                rfl
            | succ depth =>
                rw [cutEnd?_closing_succ _ _ mark, cutEnd?_closing_succ _ _ (same.trans mark)]
                exact step _
        | alternative | other =>
            rw [cutEnd?_inside _ (inner rest) (by simp [same, mark]) (by simp [same, mark]),
              cutEnd?_inside _ _ (by simp [mark]) (by simp [mark])]
            exact step _

theorem cutElse_inner (level : Int) (lines : List Text) :
    cutElse level (inner lines) =
      (inner (cutElse level lines).1, (cutElse level lines).2.map inner) := by
  induction lines generalizing level with
  | nil => rfl
  | cons line rest induction =>
      by_cases blank : Text.strip line = []
      · rw [inner_cons_blank blank, induction, cutElse_other _ _ (markOf_blank blank),
          inner_cons_blank blank]
      · have same := markOf_strip line
        rw [inner_cons blank]
        cases mark : markOf line with
        | opening =>
            rw [cutElse_opening _ _ mark, cutElse_opening _ _ (same.trans mark), induction,
              inner_cons blank]
        | closing =>
            rw [cutElse_closing _ _ mark, cutElse_closing _ _ (same.trans mark), induction,
              inner_cons blank]
        | alternative =>
            by_cases zero : level = 0
            · subst zero
              rw [cutElse_alternative_zero _ mark, cutElse_alternative_zero _ (same.trans mark)]
              rfl
            · rw [cutElse_alternative_of_ne _ mark zero,
                cutElse_alternative_of_ne _ (same.trans mark) zero, induction, inner_cons blank]
        | other =>
            rw [cutElse_other _ _ mark, cutElse_other _ _ (same.trans mark), induction,
              inner_cons blank]

theorem exists_of_mem_inner {lines : List Text} {line : Text} (member : line ∈ inner lines) :
    ∃ original ∈ lines, line = Text.strip original ∧ line ≠ [] := by
  obtain ⟨stripped, nonempty⟩ := List.mem_filter.mp member
  obtain ⟨original, present, rfl⟩ := List.mem_map.mp stripped
  exact ⟨original, present, rfl, by simpa using nonempty⟩

end Linewise.Block
