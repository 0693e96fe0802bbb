import Linewise.Text.Blank
import Linewise.Text.Case
import Mathlib.Data.List.DropRight

/-!
What cutting a text into words and lines, taking off the blanks at its ends and lowering its
letters have to do with putting a text together.
-/

namespace Linewise.Text

/-! ## Ends of a text -/

theorem trim_eq_rdropWhile (inClass : Char → Bool) (text : Text) :
    trim inClass text = (text.dropWhile inClass).rdropWhile inClass := rfl

theorem trim_trim (inClass : Char → Bool) (text : Text) :
    trim inClass (trim inClass text) = trim inClass text := by
  rw [trim_eq_rdropWhile, trim_eq_rdropWhile]
  generalize equal : text.dropWhile inClass = rest
  have settled : rest.dropWhile inClass = rest := by
    rw [← equal, List.dropWhile_idempotent]
  have start : (rest.rdropWhile inClass).dropWhile inClass = rest.rdropWhile inClass := by
    rw [List.dropWhile_eq_self_iff] at settled ⊢
    intro positive
    have initial := List.rdropWhile_prefix inClass rest
    have longer := initial.length_le
    rw [initial.getElem positive]
    exact settled (by omega)
  rw [start, List.rdropWhile_idempotent]

@[simp] theorem strip_strip (text : Text) : strip (strip text) = strip text :=
  trim_trim isBlank text

theorem strip_initial {part text : Text} (initial : part <+: strip text) :
    strip part <+: strip text := by
  have settled : (strip text).dropWhile isBlank = strip text := by
    have whole := congrArg List.length (strip_strip text)
    rw [strip, trim_eq_rdropWhile] at whole
    have bound := (List.rdropWhile_prefix isBlank ((strip text).dropWhile isBlank)).length_le
    exact (List.dropWhile_suffix isBlank).eq_of_length_le (by omega)
  have start : part.dropWhile isBlank = part := by
    rw [List.dropWhile_eq_self_iff] at settled ⊢
    intro positive
    have longer := initial.length_le
    rw [initial.getElem positive]
    exact settled (by omega)
  have shorter : strip part <+: part := by
    rw [strip, trim_eq_rdropWhile, start]
    exact List.rdropWhile_prefix isBlank part
  exact shorter.trans initial

theorem mem_of_mem_trim {inClass : Char → Bool} {char : Char} {text : Text}
    (member : char ∈ trim inClass text) : char ∈ text := by
  rw [trim_eq_rdropWhile] at member
  have inside := (List.rdropWhile_prefix inClass _).subset member
  exact (List.dropWhile_suffix inClass).subset inside

theorem mem_of_mem_strip {char : Char} {text : Text} (member : char ∈ strip text) :
    char ∈ text :=
  mem_of_mem_trim member

theorem trim_eq_self {inClass : Char → Bool} {text : Text}
    (start : ∀ char ∈ text.head?, inClass char = false)
    (finish : ∀ char ∈ text.getLast?, inClass char = false) : trim inClass text = text := by
  have first : text.dropWhile inClass = text := by
    cases text with
    | nil => rfl
    | cons head tail => rw [List.dropWhile_cons_of_neg (by simp [start head rfl])]
  rw [trim_eq_rdropWhile, first, List.rdropWhile_eq_self_iff]
  intro nonempty
  rw [Bool.not_eq_true]
  exact finish _ (List.getLast?_eq_some_getLast nonempty)

theorem trim_eq_self_of_forall {inClass : Char → Bool} {text : Text}
    (outside : ∀ char ∈ text, inClass char = false) : trim inClass text = text := by
  apply trim_eq_self
  · exact fun char first => outside char (List.mem_of_mem_head? first)
  · exact fun char last => outside char (List.mem_of_mem_getLast? last)

theorem trim_append_left {inClass : Char → Bool} {left : Text}
    (passed : ∀ char ∈ left, inClass char = true) (text : Text) :
    trim inClass (left ++ text) = trim inClass text := by
  rw [trim_eq_rdropWhile, trim_eq_rdropWhile, List.dropWhile_append_of_pos passed]

theorem trim_append_right {inClass : Char → Bool} {right : Text}
    (passed : ∀ char ∈ right, inClass char = true) (text : Text) :
    trim inClass (text ++ right) = trim inClass text := by
  induction right using List.reverseRecOn with
  | nil => rw [List.append_nil]
  | append_singleton right last induction =>
      rw [List.forall_mem_append, List.forall_mem_singleton] at passed
      rw [← List.append_assoc, ← induction passed.1, trim_eq_rdropWhile, trim_eq_rdropWhile,
        List.dropWhile_append]
      split
      · next empty =>
          rw [List.isEmpty_iff.mp empty, List.dropWhile_cons_of_pos passed.2]
          rfl
      · rw [List.rdropWhile_concat_pos _ _ _ passed.2]

/-- A text is what is left without the characters of a class at its ends, and these characters. -/
theorem exists_eq_append_trim (inClass : Char → Bool) (text : Text) :
    ∃ left right, (∀ char ∈ left, inClass char = true) ∧ (∀ char ∈ right, inClass char = true) ∧
      text = left ++ (trim inClass text ++ right) := by
  refine ⟨text.takeWhile inClass, (text.dropWhile inClass).rtakeWhile inClass,
    fun char => List.mem_takeWhile_imp, fun char => List.mem_rtakeWhile_imp, ?_⟩
  rw [trim_eq_rdropWhile, List.rdropWhile_append_rtakeWhile, List.takeWhile_append_dropWhile]

theorem strip_before_strip {mark : Char} (visible : isBlank mark = false) (text : Text) :
    strip (before mark (strip text)) = strip (before mark text) := by
  rcases exists_eq_append_trim isBlank text with ⟨left, right, leftBlank, rightBlank, whole⟩
  have passes : ∀ char, isBlank char = true → (char != mark) = true := by
    intro char blank
    rw [bne_iff_ne]
    rintro rfl
    rw [visible] at blank
    cases blank
  change text = left ++ (strip text ++ right) at whole
  generalize strip text = inside at whole
  subst whole
  rw [before, before,
    List.takeWhile_append_of_pos fun char member => passes char (leftBlank char member),
    strip, strip, trim_append_left leftBlank, List.takeWhile_append]
  split
  · next unmarked =>
      rw [(List.takeWhile_prefix _).eq_of_length unmarked]
      apply (trim_append_right _ inside).symm
      exact fun char member => rightBlank char ((List.takeWhile_prefix _).subset member)
  · rfl

theorem notMem_before (mark : Char) (text : Text) : mark ∉ before mark text := by
  intro member
  have other := List.mem_takeWhile_imp member
  simp at other

theorem before_eq_self {mark : Char} {text : Text} (absent : mark ∉ text) :
    before mark text = text := by
  rw [before, List.takeWhile_eq_self_iff]
  intro char member
  have different : char ≠ mark := fun equal => absent (equal ▸ member)
  simpa using different

/-! ## Words -/

def IsSolid (text : Text) : Prop := text ≠ [] ∧ ∀ char ∈ text, isBlank char = false

-- Characters can also be gone through as a whole, so the list is named.
instance (text : Text) : Decidable (IsSolid text) :=
  @instDecidableAnd _ _ _ (List.decidableBAll _ text)

theorem words_solid_append {word : Text} (solid : IsSolid word) (rest : Text)
    (ended : ∀ char ∈ rest.head?, isBlank char = true) :
    words (word ++ rest) = word :: words rest := by
  obtain ⟨nonempty, blankless⟩ := solid
  induction word with
  | nil => exact absurd rfl nonempty
  | cons head tail induction =>
      have headSolid := blankless head List.mem_cons_self
      cases tail with
      | nil =>
          cases rest with
          | nil => simp [words, headSolid]
          | cons next after =>
              have nextBlank : isBlank next = true := ended next rfl
              simp [words, headSolid, nextBlank]
      | cons next after =>
          have nextSolid := blankless next (by simp)
          have shorter := induction (by simp) fun char member =>
            blankless char (List.mem_cons_of_mem head member)
          rw [List.cons_append, List.cons_append] at *
          rw [words]
          simp [headSolid, nextSolid, shorter]

theorem words_join {parts : List Text} (solid : ∀ part ∈ parts, IsSolid part) :
    words (join [' '] parts) = parts := by
  induction parts with
  | nil => rfl
  | cons part rest induction =>
      have partSolid := solid part List.mem_cons_self
      have restSolid : ∀ other ∈ rest, IsSolid other := fun other member =>
        solid other (List.mem_cons_of_mem part member)
      cases rest with
      | nil =>
          have single := words_solid_append partSolid [] (by simp)
          simpa [join, words] using single
      | cons next others =>
          have space : isBlank ' ' = true := by decide
          rw [join, List.intercalate_cons_cons, List.append_assoc,
            words_solid_append partSolid _ (by simp [space])]
          have remaining := induction restSolid
          rw [join] at remaining
          simp [words, space, remaining]

private theorem head?_join {parts : List Text} (solid : ∀ part ∈ parts, IsSolid part) :
    ∀ char ∈ (join [' '] parts).head?, isBlank char = false := by
  cases parts with
  | nil => exact nofun
  | cons part rest =>
      have whole := solid part List.mem_cons_self
      obtain ⟨head, tail, rfl⟩ := List.exists_cons_of_ne_nil whole.1
      have start : (join [' '] ((head :: tail) :: rest)).head? = some head := by
        cases rest with
        | nil => rfl
        | cons next others => rfl
      rw [start]
      rintro char ⟨⟩
      exact whole.2 head List.mem_cons_self

private theorem getLast?_join {parts : List Text} (solid : ∀ part ∈ parts, IsSolid part) :
    ∀ char ∈ (join [' '] parts).getLast?, isBlank char = false := by
  induction parts with
  | nil => exact nofun
  | cons part rest induction =>
      cases rest with
      | nil =>
          intro char member
          rw [join, List.intercalate_singleton] at member
          exact (solid part List.mem_cons_self).2 char (List.mem_of_getLast? member)
      | cons next others =>
          have restSolid : ∀ other ∈ next :: others, IsSolid other :=
            fun other member => solid other (List.mem_cons_of_mem part member)
          have present : join [' '] (next :: others) ≠ [] := by
            intro empty
            have words := words_join restSolid
            rw [empty] at words
            cases words
          have parted : join [' '] (part :: next :: others) =
              part ++ [' '] ++ join [' '] (next :: others) := List.intercalate_cons_cons
          rw [parted, List.getLast?_append_of_ne_nil _ present]
          exact induction restSolid

theorem strip_join {parts : List Text} (solid : ∀ part ∈ parts, IsSolid part) :
    strip (join [' '] parts) = join [' '] parts :=
  trim_eq_self (head?_join solid) (getLast?_join solid)

theorem mem_join {separator : Text} {parts : List Text} {char : Char}
    (member : char ∈ join separator parts) :
    char ∈ separator ∨ ∃ part ∈ parts, char ∈ part := by
  induction parts with
  | nil => cases member
  | cons part rest induction =>
      cases rest with
      | nil =>
          rw [join, List.intercalate_singleton] at member
          exact .inr ⟨part, List.mem_cons_self, member⟩
      | cons next others =>
          rw [join, List.intercalate_cons_cons, List.mem_append, List.mem_append] at member
          rcases member with (member | member) | member
          · exact .inr ⟨part, List.mem_cons_self, member⟩
          · exact .inl member
          · rcases induction member with inside | ⟨other, present, inside⟩
            · exact .inl inside
            · exact .inr ⟨other, List.mem_cons_of_mem part present, inside⟩

/-! ## Lines -/

def IsOneLine (text : Text) : Prop := ∀ char ∈ text, isLineBreak char = false

instance (text : Text) : Decidable (IsOneLine text) := List.decidableBAll _ text

theorem isBlank_of_isLineBreak {char : Char} (ends : isLineBreak char = true) :
    isBlank char = true := by
  simp only [isLineBreak, lineBreakRanges, isBlank, blankRanges, CodeRanges.has] at ends ⊢
  grind

theorem IsSolid.isOneLine {text : Text} (solid : IsSolid text) : IsOneLine text := by
  intro char member
  rw [← Bool.not_eq_true]
  intro ends
  have blank := isBlank_of_isLineBreak ends
  rw [solid.2 char member] at blank
  cases blank

private theorem lines_cons {head : Char} {tail : Text} (inside : isLineBreak head = false) :
    lines (head :: tail) =
      match lines tail with
      | [] => [[head]]
      | line :: rest => (head :: line) :: rest := by
  have apart : ∀ after, head = '\r' → tail = '\n' :: after → False := by
    rintro after rfl
    exact absurd inside (by decide)
  exact (lines.eq_3 head tail apart).trans (if_neg (by simp [inside]))

private theorem lines_ended {line : Text} (whole : IsOneLine line) (rest : Text) :
    lines (line ++ '\n' :: rest) = line :: lines rest := by
  induction line with
  | nil =>
      have ends : isLineBreak '\n' = true := by decide
      rw [List.nil_append, lines]
      · simp [ends]
      · intro after equal
        cases equal
  | cons head tail induction =>
      have shorter := induction fun char member => whole char (List.mem_cons_of_mem head member)
      rw [List.cons_append, lines_cons (whole head List.mem_cons_self), shorter]

theorem lines_flatMap {parts : List Text} (whole : ∀ part ∈ parts, IsOneLine part) :
    lines (parts.flatMap (· ++ ['\n'])) = parts := by
  induction parts with
  | nil => rfl
  | cons part rest induction =>
      rw [List.flatMap_cons, List.append_assoc, List.singleton_append,
        lines_ended (whole part List.mem_cons_self),
        induction fun other member => whole other (List.mem_cons_of_mem part member)]

private theorem lines_single {line : Text} (whole : IsOneLine line) (present : line ≠ []) :
    lines line = [line] := by
  induction line with
  | nil => exact absurd rfl present
  | cons head tail induction =>
      rw [lines_cons (whole head List.mem_cons_self)]
      by_cases last : tail = []
      · rw [last, lines]
      · rw [induction (fun char member => whole char (List.mem_cons_of_mem head member)) last]

theorem lines_join {parts : List Text} (whole : ∀ part ∈ parts, IsOneLine part)
    (present : ∀ part ∈ parts, part ≠ []) : lines (join ['\n'] parts) = parts := by
  induction parts with
  | nil => rfl
  | cons part rest induction =>
      rw [List.forall_mem_cons] at whole present
      cases rest with
      | nil =>
          rw [join, List.intercalate_singleton]
          exact lines_single whole.1 present.1
      | cons next others =>
          rw [join, List.intercalate_cons_cons, List.append_assoc, List.singleton_append,
            lines_ended whole.1, ← join, induction whole.2 present.2]

theorem isOneLine_of_mem_lines {text line : Text} (member : line ∈ lines text) :
    IsOneLine line := by
  fun_induction lines text generalizing line with
  | case1 => cases member
  | case2 tail induction =>
      rcases List.mem_cons.mp member with rfl | later
      · exact nofun
      · exact induction later
  | case3 head tail apart ends induction =>
      rcases List.mem_cons.mp member with rfl | later
      · exact nofun
      · exact induction later
  | case4 head tail apart inside last induction =>
      rw [List.mem_singleton.mp member]
      simpa [IsOneLine] using inside
  | case5 head tail apart inside first rest after induction =>
      rw [after] at induction
      rcases List.mem_cons.mp member with rfl | later
      · have start := induction List.mem_cons_self
        exact List.forall_mem_cons.mpr ⟨Bool.eq_false_iff.mpr inside, start⟩
      · exact induction (List.mem_cons_of_mem first later)

/-! ## Letter case -/

/-- The text is the word, in any letter case. The word is in lower case. -/
def Spells (word text : Text) : Prop := text.map Char.toLower = word

instance (word text : Text) : Decidable (Spells word text) :=
  inferInstanceAs (Decidable (_ = _))

def IsKeyword (word : Text) : Prop :=
  word ≠ [] ∧ ∀ char ∈ word, 97 ≤ char.toNat ∧ char.toNat ≤ 122

instance (word : Text) : Decidable (IsKeyword word) :=
  @instDecidableAnd _ _ _ (List.decidableBAll _ word)

private theorem letter_of_toLower {char : Char} (least : 97 ≤ char.toLower.toNat)
    (most : char.toLower.toNat ≤ 122) : 65 ≤ char.toNat ∧ char.toNat ≤ 122 := by
  by_cases capital : char.val ≥ 'A'.val ∧ char.val ≤ 'Z'.val
  · have low : 65 ≤ char.toNat := UInt32.le_iff_toNat_le.mp capital.1
    have high : char.toNat ≤ 90 := UInt32.le_iff_toNat_le.mp capital.2
    omega
  · have same : char.toLower = char := dif_neg capital
    rw [same] at least most
    omega

section Spelling

variable {word text : Text} (keyword : IsKeyword word) (spelled : Spells word text)

include keyword spelled

private theorem Spells.letter {char : Char} (member : char ∈ text) :
    65 ≤ char.toNat ∧ char.toNat ≤ 122 := by
  have inside : char.toLower ∈ word := spelled ▸ List.mem_map_of_mem member
  obtain ⟨least, most⟩ := keyword.2 _ inside
  exact letter_of_toLower least most

theorem Spells.isSolid : IsSolid text := by
  constructor
  · rintro rfl
    exact keyword.1 spelled.symm
  · intro char member
    obtain ⟨least, most⟩ := spelled.letter keyword member
    simp only [isBlank, blankRanges, CodeRanges.has]
    grind

theorem Spells.notMem_comment : '#' ∉ text := by
  intro member
  have least : 65 ≤ '#'.toNat := (spelled.letter keyword member).1
  exact absurd least (by decide)

theorem Spells.ascii : ∀ char ∈ text, char.toNat < 128 := by
  intro char member
  have most := (spelled.letter keyword member).2
  omega

end Spelling

theorem lowerFrom_ascii_append (preceding text rest : Text)
    (ascii : ∀ char ∈ text, char.toNat < 128) :
    lowerFrom preceding (text ++ rest) =
      text.map Char.toLower ++ lowerFrom (text.reverse ++ preceding) rest := by
  induction text generalizing preceding with
  | nil => rfl
  | cons head tail induction =>
      have small := ascii head List.mem_cons_self
      have different : head ≠ 'Σ' := by
        intro equal
        subst equal
        exact absurd small (by decide)
      have form : lowerChar head = [head.toLower] := by
        rw [lowerChar, if_pos small]
      have shorter := induction (head :: preceding) fun char member =>
        ascii char (List.mem_cons_of_mem head member)
      rw [List.cons_append, lowerFrom]
      simp [different, form, shorter]

theorem lower_of_ascii {text : Text} (ascii : ∀ char ∈ text, char.toNat < 128) :
    lower text = text.map Char.toLower := by
  have parts := lowerFrom_ascii_append [] text [] ascii
  rw [List.append_nil] at parts
  rw [lower, parts, lowerFrom, List.append_nil]

theorem upper_of_ascii {text : Text} (ascii : ∀ char ∈ text, char.toNat < 128) :
    upper text = text.map Char.toUpper := by
  induction text with
  | nil => rfl
  | cons head tail induction =>
      rw [List.forall_mem_cons] at ascii
      have first : upperChar head = [head.toUpper] := if_pos ascii.1
      have rest := induction ascii.2
      rw [upper] at rest ⊢
      rw [List.flatMap_cons, first, rest]
      rfl

theorem Spells.lower_eq {word text : Text} (keyword : IsKeyword word)
    (spelled : Spells word text) : lower text = word :=
  (lower_of_ascii (spelled.ascii keyword)).trans spelled

theorem Spells.lower_append {word text : Text} (keyword : IsKeyword word)
    (spelled : Spells word text) (rest : Text) :
    ∃ lowered, lower (text ++ ' ' :: rest) = word ++ ' ' :: lowered := by
  have parts := lowerFrom_ascii_append [] (text ++ [' ']) rest (by
    intro char member
    rcases List.mem_append.mp member with member | member
    · exact spelled.ascii keyword char member
    · rw [List.mem_singleton] at member
      subst member
      decide)
  refine ⟨lowerFrom ((text ++ [' ']).reverse ++ []) rest, ?_⟩
  have space : ' '.toLower = ' ' := by decide
  rw [List.append_assoc, List.singleton_append] at parts
  rw [lower, parts, List.map_append, spelled, List.map_singleton, space, List.append_assoc,
    List.singleton_append]

/-! ## Numbers -/

theorem ofNat_injective : Function.Injective ofNat := by
  intro left right same
  have read := congrArg (fun digits => Nat.ofDigitChars 10 digits 0) same
  simpa only [ofNat, Nat.ofDigitChars_ten_toDigits] using read

end Linewise.Text
