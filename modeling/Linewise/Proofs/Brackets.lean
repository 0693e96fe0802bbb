import Linewise.Proofs.Decimal

/-!
Which texts are taken for arithmetic. Matching brackets are told in two ways: by counting how many
are open, and by the grammar of balanced texts. A text of which some brackets are open already is
one that closes them one after another, with balanced texts in between.
-/

namespace Linewise.Expression

/-- The texts that `S → ε | opening S closing S` generates. -/
inductive Balanced (opening closing : Char) : Text → Prop
  | empty : Balanced opening closing []
  | group {inside rest : Text} (inner : Balanced opening closing inside)
      (next : Balanced opening closing rest) :
      Balanced opening closing (opening :: (inside ++ closing :: rest))

def brackets (opening closing : Char) (text : Text) : Text :=
  text.filter fun char => char = opening || char = closing

/-- The text closes so many brackets that are open before it, and is balanced otherwise. -/
inductive Closes (opening closing : Char) : Nat → Text → Prop
  | balanced {text : Text} (whole : Balanced opening closing text) : Closes opening closing 0 text
  | closing {depth : Nat} {before after : Text} (first : Balanced opening closing before)
      (next : Closes opening closing depth after) :
      Closes opening closing (depth + 1) (before ++ closing :: after)

section Brackets

variable {opening closing : Char}

theorem closes_nil_iff {depth : Nat} : Closes opening closing depth [] ↔ depth = 0 := by
  constructor
  · intro closes
    cases depth with
    | zero => rfl
    | succ depth =>
        generalize empty : ([] : Text) = text at closes
        cases closes
        exact absurd empty.symm (by simp)
  · rintro rfl
    exact .balanced .empty

variable (apart : opening ≠ closing)

include apart

theorem Balanced.head_ne {text : Text} (balanced : Balanced opening closing text) :
    text.head? ≠ some closing := by
  cases balanced with
  | empty => exact nofun
  | group => simpa using apart

theorem closes_closing_iff {depth : Nat} {text : Text} :
    Closes opening closing depth (closing :: text) ↔
      ∃ less, depth = less + 1 ∧ Closes opening closing less text := by
  constructor
  · intro closes
    generalize start : closing :: text = whole at closes
    cases closes with
    | balanced whole => exact absurd (by rw [← start]; rfl) (whole.head_ne apart)
    | @closing less before after first next =>
        cases before with
        | nil =>
            cases start
            exact ⟨less, rfl, next⟩
        | cons head tail =>
            rw [List.cons_append, List.cons.injEq] at start
            exact absurd (by rw [start.1]; rfl) (first.head_ne apart)
  · rintro ⟨less, rfl, closes⟩
    exact .closing .empty closes

theorem closes_opening_iff {depth : Nat} {text : Text} :
    Closes opening closing depth (opening :: text) ↔ Closes opening closing (depth + 1) text := by
  -- The group that the bracket opens is what the text closes first.
  have opened : ∀ {whole : Text}, Balanced opening closing whole → ∀ {tail : Text},
      whole = opening :: tail → ∃ inside rest, tail = inside ++ closing :: rest ∧
        Balanced opening closing inside ∧ Balanced opening closing rest := by
    intro whole balanced tail start
    cases balanced with
    | empty => cases start
    | group inner next =>
        cases start
        exact ⟨_, _, rfl, inner, next⟩
  constructor
  · intro closes
    generalize start : opening :: text = whole at closes
    cases closes with
    | balanced balanced =>
        rcases opened balanced start.symm with ⟨inside, rest, rfl, inner, next⟩
        exact .closing inner (.balanced next)
    | @closing less before after first next =>
        cases before with
        | nil => exact absurd (List.cons.inj start).1 apart
        | cons head tail =>
            rw [List.cons_append, List.cons.injEq] at start
            rcases start with ⟨rfl, rfl⟩
            rcases opened first rfl with ⟨inside, rest, rfl, inner, remaining⟩
            rw [List.append_assoc, List.cons_append]
            exact .closing inner (.closing remaining next)
  · intro closes
    cases closes with
    | @closing _ before after first next =>
        cases next with
        | balanced whole => exact .balanced (.group first whole)
        | @closing less between rest second others =>
            have group : Balanced opening closing (opening :: (before ++ closing :: between)) :=
              .group first second
            have whole := Closes.closing group others
            rwa [List.cons_append, List.append_assoc, List.cons_append] at whole

/-- Counting finds that so many open brackets are closed just if the brackets close them. -/
theorem isBalanced_iff_closes (depth : Nat) (text : Text) :
    isBalanced opening closing depth text = true ↔
      Closes opening closing depth (brackets opening closing text) := by
  induction text generalizing depth with
  | nil =>
      rw [isBalanced, decide_eq_true_iff]
      exact closes_nil_iff.symm
  | cons head tail induction =>
      rw [isBalanced.eq_def]
      simp only
      by_cases opens : head = opening
      · have kept : brackets opening closing (head :: tail) =
            opening :: brackets opening closing tail := by
          simp [brackets, opens]
        rw [if_pos opens, kept, induction, closes_opening_iff apart]
      · by_cases closes : head = closing
        · have kept : brackets opening closing (head :: tail) =
              closing :: brackets opening closing tail := by
            simp [brackets, closes]
          rw [if_neg opens, if_pos closes, kept, closes_closing_iff apart]
          cases depth with
          | zero => simp
          | succ depth => simp [induction]
        · have dropped : brackets opening closing (head :: tail) =
              brackets opening closing tail := by
            simp [brackets, opens, closes]
          rw [if_neg opens, if_neg closes, dropped, induction]

theorem isBalanced_iff (text : Text) :
    isBalanced opening closing 0 text = true ↔
      Balanced opening closing (brackets opening closing text) := by
  rw [isBalanced_iff_closes apart]
  constructor
  · rintro ⟨whole⟩
    exact whole
  · exact .balanced

end Brackets

/-- A text is taken for arithmetic just if its round brackets are balanced by themselves and its
curly brackets by themselves, and it holds an operator or a round bracket or is a number. -/
theorem looksArithmetic_iff (source : Text) :
    looksArithmetic source = true ↔
      Balanced '(' ')' (brackets '(' ')' source) ∧
      Balanced '\x7b' '\x7d' (brackets '\x7b' '\x7d' source) ∧
      ((∃ char ∈ source, char ∈ ['+', '-', '*', '/', '%', '(', ')']) ∨
        Number.IsFloatLiteral source) := by
  have operator : source.any operatorChars.contains = true ↔
      ∃ char ∈ source, char ∈ ['+', '-', '*', '/', '%', '(', ')'] := by
    simp only [List.any_eq_true, List.contains_iff_mem]
    rfl
  rw [looksArithmetic, Bool.and_eq_true, Bool.and_eq_true, Bool.or_eq_true, operator,
    Number.readFloat?_isSome_iff, isBalanced_iff (by decide), isBalanced_iff (by decide), and_assoc,
    or_comm]

end Linewise.Expression
