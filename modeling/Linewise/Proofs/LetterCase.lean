import Linewise.Proofs.Line
import Linewise.Proofs.Text
import Linewise.Program

/-!
Texts that differ only in the case of ASCII letters. Such texts have the same blanks, words and
comments at the same places, and the same lower case; so they make the same words of the language
and the same marks of blocks. A text in lower case has no capital letter of ASCII.
-/

namespace Linewise

namespace Text

/-- The text with its ASCII letters in lower case. -/
def uncased (text : Text) : Text := text.map Char.toLower

theorem lower_uncased (text : Text) : lower (uncased text) = lower text := lower_map_toLower text

theorem beq_toLower {mark : Char} (noLetter : mark.isAlpha = false) (char : Char) :
    (mark == char.toLower) = (mark == char) := by
  rw [Bool.eq_iff_iff, beq_iff_eq, beq_iff_eq, eq_comm, toLower_eq_iff noLetter, eq_comm]

/-! ## Cutting -/

theorem strip_uncased (text : Text) : strip (uncased text) = uncased (strip text) := by
  have blank : isBlank ∘ Char.toLower = isBlank := funext isBlank_toLower
  rw [strip, trim, uncased, List.dropWhile_map, blank, ← List.map_reverse, List.dropWhile_map,
    blank, ← List.map_reverse]
  rfl

theorem before_uncased (text : Text) : before '#' (uncased text) = uncased (before '#' text) := by
  have comment : (· != '#') ∘ Char.toLower = (· != '#') := by
    funext char
    simp [bne, toLower_eq_iff (show '#'.isAlpha = false by decide)]
  rw [before, uncased, List.takeWhile_map, comment]
  rfl

theorem words_uncased (text : Text) : words (uncased text) = (words text).map uncased := by
  induction text with
  | nil => rfl
  | cons head tail induction =>
      rw [uncased, List.map_cons, ← uncased, words.eq_def, words.eq_def (head :: tail)]
      simp only [isBlank_toLower, induction]
      split
      · rfl
      · cases tail with
        | nil => rfl
        | cons next after =>
            simp only [uncased, List.map_cons, isBlank_toLower]
            split
            · rfl
            · cases words (next :: after) <;> rfl

/-! ## Lower case -/

theorem toLower_of_mem_lowerChar {char image : Char} (member : image ∈ lowerChar char) :
    image.toLower = image := by
  by_cases small : image.toNat < 128
  · have fixed := (of_mem_lowerChar member).1
    rw [lowerChar, if_pos small] at fixed
    exact List.singleton_inj.mp fixed
  · exact toLower_beyond (Nat.le_of_not_lt small)

theorem uncased_lowerFrom (preceding text : Text) :
    uncased (lowerFrom preceding text) = lowerFrom preceding text := by
  induction text generalizing preceding with
  | nil => rfl
  | cons head tail induction =>
      have form : ∀ image ∈ lowerChar head, image.toLower = image :=
        fun image => toLower_of_mem_lowerChar
      rw [lowerFrom, uncased, List.map_append, ← uncased, ← uncased, induction]
      congr 1
      split
      · decide
      · exact (List.map_congr_left form).trans (List.map_id _)

theorem uncased_lower (text : Text) : uncased (lower text) = lower text := uncased_lowerFrom [] text

theorem lowerFrom_eq_nil {preceding text : Text} (empty : lowerFrom preceding text = []) :
    text = [] := by
  cases text with
  | nil => rfl
  | cons head tail =>
      rw [lowerFrom, List.append_eq_nil_iff] at empty
      have form := empty.1
      split at form
      · cases form
      · rcases lowerChar_cases head with other | other | other | ⟨_, other, _⟩ <;>
          (rw [other] at form; cases form)

/-- A lower case that begins in ASCII begins with that of the first character, unless it is the sign
of the kelvin or the start of a dotted I. -/
theorem toLower_of_lowerFrom {preceding tail remaining : Text} {head first : Char}
    (start : lowerFrom preceding (head :: tail) = first :: remaining) (ascii : first.toNat < 128)
    (kelvin : first ≠ 'k') (dotless : first = 'i' → remaining.head? ≠ some '\u0307') :
    head.toLower = first ∧ lowerFrom (head :: preceding) tail = remaining := by
  rw [lowerFrom] at start
  split at start
  · cases start
    exact absurd ascii (by decide)
  · rcases lowerChar_cases head with form | form | form | ⟨other, form, beyond⟩
    · rw [form, List.singleton_append, List.cons.injEq] at start
      exact start
    · rw [form, List.singleton_append, List.cons.injEq] at start
      exact absurd start.1.symm kelvin
    · rw [form, List.cons_append, List.singleton_append, List.cons.injEq] at start
      exact absurd (congrArg List.head? start.2).symm (dotless start.1.symm)
    · rw [form, List.singleton_append, List.cons.injEq] at start
      rw [start.1] at beyond
      omega

/-- What becomes an ASCII word in lower case is the word in some letter case. -/
theorem exists_spelled {word preceding text remaining : Text}
    (ascii : ∀ char ∈ word, char.toNat < 128 ∧ char ≠ 'k')
    (dotless : word.getLast? = some 'i' → remaining.head? ≠ some '\u0307')
    (start : lowerFrom preceding text = word ++ remaining) :
    ∃ spelled rest others, text = spelled ++ rest ∧ Spells word spelled ∧
      lowerFrom others rest = remaining := by
  induction word generalizing preceding text with
  | nil => exact ⟨[], text, preceding, rfl, rfl, start⟩
  | cons first word induction =>
      rw [List.forall_mem_cons] at ascii
      cases text with
      | nil => cases start
      | cons head tail =>
          -- Inside the word no dot can follow, since the next letter is in ASCII.
          have undotted : first = 'i' → (word ++ remaining).head? ≠ some '\u0307' := by
            rintro rfl
            cases word with
            | nil => exact dotless rfl
            | cons next after =>
                rintro ⟨⟩
                exact absurd (ascii.2 _ List.mem_cons_self).1 (by decide)
          have further : word.getLast? = some 'i' → remaining.head? ≠ some '\u0307' := by
            cases word with
            | nil => exact nofun
            | cons next after => exact fun last => dotless (List.getLast?_cons_cons.trans last)
          obtain ⟨same, next⟩ := toLower_of_lowerFrom start ascii.1.1 ascii.1.2 undotted
          obtain ⟨spelled, rest, others, rfl, spells, last⟩ := induction ascii.2 further next
          refine ⟨head :: spelled, rest, others, rfl, ?_, last⟩
          rw [Spells, List.map_cons, same, spells]

section Keywords

variable {word : Text} (keyword : IsKeyword word) (kelvin : 'k' ∉ word)

include keyword kelvin

theorem ascii_of_keyword {char : Char} (member : char ∈ word) : char.toNat < 128 ∧ char ≠ 'k' := by
  have most := (keyword.2 char member).2
  exact ⟨by omega, fun equal => kelvin (equal ▸ member)⟩

theorem spells_of_lower_eq {text : Text} (equal : lower text = word) : Spells word text := by
  obtain ⟨spelled, rest, _, rfl, spells, last⟩ :=
    exists_spelled (fun _ => ascii_of_keyword keyword kelvin) (fun _ => by simp)
      (equal.trans (List.append_nil word).symm)
  rw [lowerFrom_eq_nil last, List.append_nil]
  exact spells

/-- A text whose lower case begins with a word and a space has that word as its first word. -/
theorem words_of_lower_start {text : Text}
    (start : startsWith (lower text) (word ++ [' ']) = true) :
    ∃ first rest, words text = first :: rest ∧ lower first = word := by
  have ascii : ∀ char ∈ word ++ [' '], char.toNat < 128 ∧ char ≠ 'k' := by
    intro char member
    rcases List.mem_append.mp member with inside | space
    · exact ascii_of_keyword keyword kelvin inside
    · rw [List.mem_singleton.mp space]
      decide
  have last : (word ++ [' ']).getLast? ≠ some 'i' := by
    rw [List.getLast?_concat]
    decide
  obtain ⟨remaining, equal⟩ := List.isPrefixOf_iff_prefix.mp start
  obtain ⟨spelled, rest, _, rfl, spells, _⟩ :=
    exists_spelled ascii (fun absent => absurd absent last) equal.symm
  obtain ⟨first, after, rfl, firstSpells, afterSpells⟩ := List.map_eq_append_iff.mp spells
  obtain ⟨blank, rfl, isSpace⟩ := List.map_eq_singleton_iff.mp afterSpells
  have isBlank : isBlank blank = true := by
    rw [← isBlank_toLower, isSpace]
    decide
  have cut := words_solid_append (Spells.isSolid keyword firstSpells) (blank :: rest)
    (by simp [isBlank])
  refine ⟨first, words (blank :: rest), ?_, Spells.lower_eq keyword firstSpells⟩
  rw [List.append_assoc]
  exact cut

end Keywords

theorem startsWith_lower_append {start text : Text}
    (ascii : ∀ char ∈ start, char.toNat < 128 ∧ char ≠ 'k') (dotless : start.getLast? ≠ some 'i')
    (starts : startsWith (lower text) start = true) (rest : Text) :
    startsWith (lower (text ++ rest)) start = true := by
  rcases List.isPrefixOf_iff_prefix.mp starts with ⟨remaining, equal⟩
  rcases exists_spelled ascii (fun last => absurd last dotless) equal.symm with
    ⟨spelled, others, _, rfl, spells, _⟩
  have small : ∀ char ∈ spelled, char.toNat < 128 := by
    intro char member
    by_contra beyond
    have image : char.toLower ∈ start := by
      rw [← show spelled.map Char.toLower = start from spells]
      exact List.mem_map_of_mem member
    rw [toLower_beyond (by omega)] at image
    exact beyond (ascii char image).1
  rw [lower, List.append_assoc, lowerFrom_ascii_append [] spelled _ small, spells]
  exact List.isPrefixOf_iff_prefix.mpr (List.prefix_append start _)

/-! ## Texts that differ only in letter case -/

section Alike

variable {first second : Text} (same : uncased first = uncased second)

include same

theorem lower_eq_of_uncased : lower first = lower second := by
  rw [← lower_uncased first, same, lower_uncased]

theorem length_eq_of_uncased : first.length = second.length := by
  simpa [uncased] using congrArg List.length same

theorem eq_nil_iff_of_uncased : first = [] ↔ second = [] := by
  rw [← List.length_eq_zero_iff, length_eq_of_uncased same, List.length_eq_zero_iff]

theorem uncased_strip : uncased (strip first) = uncased (strip second) := by
  rw [← strip_uncased, same, strip_uncased]

theorem words_map_lower : (words first).map lower = (words second).map lower := by
  have lowered : lower ∘ uncased = lower := funext lower_uncased
  rw [← lowered, ← List.map_map, ← List.map_map, ← words_uncased, same, words_uncased]

end Alike

end Text

section Alike

variable {first second : Text} (same : Text.uncased first = Text.uncased second)

include same

theorem Line.uncased_code : Text.uncased (code first) = Text.uncased (code second) := by
  apply Text.uncased_strip
  rw [← Text.before_uncased, same, Text.before_uncased]

theorem Line.startsWith_commentMark_eq :
    Text.startsWith first commentMark = Text.startsWith second commentMark := by
  have mark : ∀ text, Text.startsWith (Text.uncased text) commentMark =
      Text.startsWith text commentMark := by
    have view := Text.beq_toLower (show '#'.isAlpha = false by decide)
    intro text
    match text with
    | [] => rfl
    | [head] => simp [Text.uncased, Text.startsWith, commentMark, List.isPrefixOf]
    | head :: next :: rest =>
        simp [Text.uncased, Text.startsWith, commentMark, List.isPrefixOf, view]
  rw [← mark first, same, mark]

theorem Block.markOf_eq : markOf first = markOf second := by
  rw [markOf, markOf, Text.lower_eq_of_uncased (Text.uncased_strip same)]

theorem Program.Header.command?_eq : command? first = command? second := by
  rw [command?, command?, Text.lower_eq_of_uncased same]

end Alike

theorem Program.Header.words_of_command? {code : Text} {command : Command}
    (opens : command? code = some command) :
    ∃ first rest, Text.words code = first :: rest ∧ Text.lower first = command.word := by
  unfold command? at opens
  simp only at opens
  split at opens
  · next start =>
      cases opens
      exact Text.words_of_lower_start (by decide) (by decide) start
  · split at opens
    · next start =>
        cases opens
        exact Text.words_of_lower_start (by decide) (by decide) start
    · cases opens

theorem Line.strip_eq_code_append (line : Text) :
    ∃ rest, Text.strip line = code (Text.strip line) ++ rest := by
  have initial : Text.before '#' (Text.strip line) <+: Text.strip line := List.takeWhile_prefix _
  rcases Text.strip_initial initial with ⟨rest, whole⟩
  exact ⟨rest, whole.symm⟩

theorem Program.Header.starts_of_command? {line : Text} {command : Command}
    (opens : command? (Line.code (Text.strip line)) = some command) :
    (command = .branch ∧
        Text.startsWith (Text.lower (Text.strip line)) Block.ifStart = true) ∨
      (command = .loop ∧
        Text.startsWith (Text.lower (Text.strip line)) Block.whileStart = true) := by
  rcases Line.strip_eq_code_append line with ⟨rest, whole⟩
  have starts : ∀ start ∈ [Block.ifStart, Block.whileStart],
      Text.startsWith (Text.lower (Line.code (Text.strip line))) start = true →
      Text.startsWith (Text.lower (Text.strip line)) start = true := by
    intro start member begins
    rw [whole]
    have plain : ∀ start ∈ [Block.ifStart, Block.whileStart],
        start.all (fun char => char.toNat < 128 && char != 'k') = true ∧
          start.getLast? ≠ some 'i' := by decide
    rcases plain start member with ⟨ascii, dotless⟩
    apply Text.startsWith_lower_append _ dotless begins
    intro char inside
    simpa using List.all_eq_true.mp ascii char inside
  simp only [command?] at opens
  split at opens
  · next begins => exact .inl ⟨(Option.some.inj opens).symm, starts _ (by simp) begins⟩
  · split at opens
    · next begins => exact .inr ⟨(Option.some.inj opens).symm, starts _ (by simp) begins⟩
    · cases opens

theorem isReserved_lower_eq_false {name : Text} :
    isReserved (Text.lower name) = false ↔ Text.lower name ≠ "end".toList := by
  rw [isReserved, Text.lower_lower, decide_eq_false_iff_not]

end Linewise
