import Linewise.Text.Blank
import Linewise.Text.CaseTable
import Linewise.Text.Word

/-!
Upper and lower case of a text. The case of a character may be several characters, and a capital
sigma has two lower-case forms: one for the end of a word and one for all other places.
-/

namespace Linewise.Text

namespace CaseRange

def covers (range : CaseRange) (code : Nat) : Bool :=
  range.first ≤ code && code ≤ range.last && (code - range.first) % range.step = 0

def otherCase (range : CaseRange) (code : Nat) : Char :=
  Char.ofNat (code + range.offset).toNat

end CaseRange

private def mapCase (expansions : List (Nat × List Nat)) (ranges : List CaseRange)
    (char : Char) : Text :=
  match expansions.lookup char.toNat with
  | some codes => codes.map Char.ofNat
  | none =>
      match ranges.find? (·.covers char.toNat) with
      | some range => [range.otherCase char.toNat]
      | none => [char]

def upperChar (char : Char) : Text :=
  if char.toNat < 128 then [char.toUpper] else mapCase upperExpansions upperRanges char

/-- The lower case of a character that is no capital sigma at the end of a word. -/
def lowerChar (char : Char) : Text :=
  if char.toNat < 128 then [char.toLower] else mapCase lowerExpansions lowerRanges char

def upper (text : Text) : Text := text.flatMap upperChar

private def nextCased (text : Text) : Bool :=
  match text.dropWhile fun char => passedOverRanges.has char.toNat with
  | [] => false
  | char :: _ => casedRanges.has char.toNat

/-- `preceding` holds the characters already passed, the last one first. -/
def lowerFrom (preceding : Text) : Text → Text
  | [] => []
  | head :: tail =>
      let form :=
        if head = 'Σ' && nextCased preceding && !nextCased tail then ['ς'] else lowerChar head
      form ++ lowerFrom (head :: preceding) tail

def lower (text : Text) : Text := lowerFrom [] text

example : lower "While X".toList = "while x".toList := by decide +kernel

example : upper "ab1ß".toList = "AB1SS".toList := by decide +kernel

example : lower "ΑΣ Σ".toList = "ας σ".toList := by decide +kernel

/-! ## Upper case twice

What the upper case of a text has in it is no lower-case letter of ASCII, and none of the few other
characters with an upper case in ASCII. -/

private def risesToAscii (code : Nat) : Bool :=
  (97 ≤ code && code ≤ 122) || code = 0xDF || code = 0x131 || code = 0x17F ||
    (0xFB00 ≤ code && code ≤ 0xFB06)

private theorem toUpper_ascii :
    ∀ code < 128, risesToAscii (Char.ofNat code).toUpper.toNat = false ∧
      (risesToAscii code = false → (Char.ofNat code).toUpper = Char.ofNat code) := by
  decide +kernel

private theorem upperExpansions_rise : ∀ entry ∈ upperExpansions,
    (∀ code ∈ entry.2, risesToAscii (Char.ofNat code).toNat = false) ∧
      (risesToAscii entry.1 = false → ∃ code ∈ entry.2, 128 ≤ (Char.ofNat code).toNat) := by
  decide +kernel

private theorem upperRanges_rise : ∀ range ∈ upperRanges,
    let low := (range.first + range.offset).toNat
    let high := (range.last + range.offset).toNat
    (high < 0xD800 ∨ 0xDFFF < low ∧ high < 0x110000) ∧
      (high < 97 ∨ 122 < low) ∧ (high < 0xDF ∨ 0xDF < low) ∧ (high < 0x131 ∨ 0x131 < low) ∧
      (high < 0x17F ∨ 0x17F < low) ∧ (high < 0xFB00 ∨ 0xFB06 < low) ∧
      (128 ≤ low ∨ range.first = range.last ∧ risesToAscii range.first = true) := by
  decide +kernel

private theorem CaseRange.toNat_otherCase {range : CaseRange} {code : Nat}
    (covered : range.covers code = true)
    (valid : (range.last + range.offset).toNat < 0xD800 ∨
      0xDFFF < (range.first + range.offset).toNat ∧
        (range.last + range.offset).toNat < 0x110000) :
    (range.otherCase code).toNat = (code + range.offset).toNat ∧
      (range.first + range.offset).toNat ≤ (code + range.offset).toNat ∧
      (code + range.offset).toNat ≤ (range.last + range.offset).toNat := by
  simp only [covers, Bool.and_eq_true, decide_eq_true_eq] at covered
  have isValid : (code + range.offset).toNat.isValidChar :=
    valid.imp (fun below => by omega) (fun above => by omega)
  refine ⟨?_, by omega, by omega⟩
  rw [otherCase, Char.ofNat, dif_pos isValid]
  rfl

private theorem risesToAscii_otherCase {range : CaseRange} (member : range ∈ upperRanges)
    {code : Nat} (covered : range.covers code = true) :
    risesToAscii (range.otherCase code).toNat = false ∧
      (risesToAscii code = false → 128 ≤ (range.otherCase code).toNat) := by
  obtain ⟨valid, letters, sharp, dotless, long, ligatures, rises⟩ := upperRanges_rise range member
  obtain ⟨same, least, most⟩ := CaseRange.toNat_otherCase covered valid
  simp only [CaseRange.covers, Bool.and_eq_true, decide_eq_true_eq] at covered
  rw [same]
  constructor
  · simp [risesToAscii]
    omega
  · intro still
    rcases rises with high | ⟨single, rises⟩
    · omega
    · have only : range.first = code := by omega
      rw [only, still] at rises
      cases rises

/-- What a character beyond ASCII is raised to does not rise to ASCII, and is not ASCII alone if the
character does not rise to ASCII. -/
private structure IsRaised (char : Char) (images : Text) : Prop where
  lands : ∀ image ∈ images, risesToAscii image.toNat = false
  stays : risesToAscii char.toNat = false → ∃ image ∈ images, 128 ≤ image.toNat

private theorem mem_of_lookup {expansions : List (Nat × List Nat)} {code : Nat} {codes : List Nat}
    (found : expansions.lookup code = some codes) : (code, codes) ∈ expansions := by
  obtain ⟨before, after, rfl, _⟩ := List.lookup_eq_some_iff.mp found
  exact List.mem_append_right _ List.mem_cons_self

private theorem mapped_of_rises :
    ∀ code ∈ [0xDF, 0x131, 0x17F, 0xFB00, 0xFB01, 0xFB02, 0xFB03, 0xFB04, 0xFB05, 0xFB06],
      upperExpansions.lookup code = none → upperRanges.find? (·.covers code) ≠ none := by
  decide +kernel

private theorem isRaised_mapCase {char : Char} (beyond : 128 ≤ char.toNat) :
    IsRaised char (mapCase upperExpansions upperRanges char) := by
  unfold mapCase
  split
  · next codes found =>
      obtain ⟨lands, rises⟩ := upperExpansions_rise _ (mem_of_lookup found)
      refine ⟨List.forall_mem_map.mpr lands, fun still => ?_⟩
      obtain ⟨code, member, high⟩ := rises still
      exact ⟨_, List.mem_map_of_mem member, high⟩
  · next unexpanded =>
      split
      · next range found =>
          have covered : range.covers char.toNat = true := by simpa using List.find?_some found
          have moved := risesToAscii_otherCase (List.mem_of_find?_eq_some found) covered
          refine ⟨List.forall_mem_singleton.mpr moved.1, fun still => ?_⟩
          exact ⟨_, List.mem_singleton_self _, moved.2 still⟩
      · next unmapped =>
          refine ⟨List.forall_mem_singleton.mpr ?_, fun _ => ⟨_, List.mem_singleton_self _, beyond⟩⟩
          rw [← Bool.not_eq_true]
          intro rises
          refine mapped_of_rises char.toNat ?_ unexpanded unmapped
          simp only [risesToAscii, Bool.or_eq_true, Bool.and_eq_true, decide_eq_true_eq] at rises
          simp only [List.mem_cons, List.not_mem_nil]
          omega

private theorem risesToAscii_of_mem {char image : Char} (member : image ∈ upperChar char) :
    risesToAscii image.toNat = false := by
  unfold upperChar at member
  split at member
  · next ascii =>
      have raised := (toUpper_ascii char.toNat ascii).1
      rw [Char.ofNat_toNat] at raised
      rw [List.mem_singleton.mp member]
      exact raised
  · next beyond => exact (isRaised_mapCase (Nat.le_of_not_lt beyond)).lands image member

private theorem upperChar_eq_self {char : Char} (still : risesToAscii char.toNat = false)
    (ascii : ∀ image ∈ upperChar char, image.toNat < 128) : upperChar char = [char] := by
  unfold upperChar at ascii ⊢
  split
  · next low =>
      have kept := (toUpper_ascii char.toNat low).2 still
      rw [Char.ofNat_toNat] at kept
      rw [kept]
  · next beyond =>
      rw [if_neg beyond] at ascii
      obtain ⟨image, member, high⟩ := (isRaised_mapCase (Nat.le_of_not_lt beyond)).stays still
      have low := ascii image member
      omega

theorem upper_upper {text : Text} (ascii : ∀ char ∈ upper (upper text), char.toNat < 128) :
    upper (upper text) = upper text := by
  have fixed : ∀ char ∈ upper text, upperChar char = [char] := by
    intro char member
    obtain ⟨source, _, image⟩ := List.mem_flatMap.mp member
    refine upperChar_eq_self (risesToAscii_of_mem image) fun raised inside => ?_
    exact ascii raised (List.mem_flatMap.mpr ⟨char, member, inside⟩)
  generalize upper text = raised at fixed
  unfold upper
  induction raised with
  | nil => rfl
  | cons head tail induction =>
      rw [List.forall_mem_cons] at fixed
      rw [List.flatMap_cons, fixed.1, induction fixed.2, List.singleton_append]

/-! ## Lower case

Letters of ASCII have the same lower case in either case. The lower case of a character beyond
ASCII is beyond ASCII, but for the sign of the kelvin, and for the capital I with a dot, whose dot
becomes a character of its own. -/

theorem toLower_beyond {char : Char} (beyond : 128 ≤ char.toNat) : char.toLower = char := by
  have other : ¬(char.val ≥ 'A'.val ∧ char.val ≤ 'Z'.val) := by
    intro capital
    have most : char.toNat ≤ 90 := UInt32.le_iff_toNat_le.mp capital.2
    omega
  exact dif_neg other

theorem view_toLower {View : Type} (view : Char → View)
    (ascii : ∀ code < 128, view (Char.ofNat code).toLower = view (Char.ofNat code))
    (char : Char) : view char.toLower = view char := by
  by_cases small : char.toNat < 128
  · have same := ascii char.toNat small
    rwa [Char.ofNat_toNat] at same
  · rw [toLower_beyond (Nat.le_of_not_lt small)]

theorem isBlank_toLower (char : Char) : isBlank char.toLower = isBlank char :=
  view_toLower isBlank (by decide +kernel) char

theorem toLower_eq_iff {mark : Char} (noLetter : mark.isAlpha = false) (char : Char) :
    char.toLower = mark ↔ char = mark := by
  by_cases capital : char.val ≥ 'A'.val ∧ char.val ≤ 'Z'.val
  · have least : 65 ≤ char.toNat := UInt32.le_iff_toNat_le.mp capital.1
    have most : char.toNat ≤ 90 := UInt32.le_iff_toNat_le.mp capital.2
    have letters : ∀ index < 26, (Char.ofNat (65 + index)).isAlpha = true ∧
        (Char.ofNat (65 + index)).toLower.isAlpha = true := by
      decide
    have letter := letters (char.toNat - 65) (by omega)
    rw [Nat.add_sub_cancel' least, Char.ofNat_toNat] at letter
    constructor
    · rintro rfl
      rw [letter.2] at noLetter
      cases noLetter
    · rintro rfl
      rw [letter.1] at noLetter
      cases noLetter
  · have same : char.toLower = char := dif_neg capital
    rw [same]

private theorem nextCased_map_toLower (text : Text) :
    nextCased (text.map Char.toLower) = nextCased text := by
  have passed : (fun char : Char => passedOverRanges.has char.toNat) ∘ Char.toLower =
      fun char : Char => passedOverRanges.has char.toNat :=
    funext (view_toLower (fun char => passedOverRanges.has char.toNat) (by decide +kernel))
  rw [nextCased, List.dropWhile_map, passed, nextCased]
  cases text.dropWhile fun char => passedOverRanges.has char.toNat with
  | nil => rfl
  | cons head tail =>
      exact view_toLower (fun char => casedRanges.has char.toNat) (by decide +kernel) head

private theorem lowerFrom_map_toLower (preceding text : Text) :
    lowerFrom (preceding.map Char.toLower) (text.map Char.toLower) = lowerFrom preceding text := by
  induction text generalizing preceding with
  | nil => rfl
  | cons head tail induction =>
      have sigma : decide (head.toLower = 'Σ') = decide (head = 'Σ') :=
        decide_eq_decide.mpr (toLower_eq_iff (by decide) head)
      rw [List.map_cons, lowerFrom, lowerFrom, nextCased_map_toLower, nextCased_map_toLower, sigma,
        view_toLower lowerChar (by decide +kernel) head, ← List.map_cons, induction]

theorem lower_map_toLower (text : Text) : lower (text.map Char.toLower) = lower text :=
  lowerFrom_map_toLower [] text

private theorem lowerRanges_fall : ∀ range ∈ lowerRanges,
    let low := (range.first + range.offset).toNat
    let high := (range.last + range.offset).toNat
    (high < 0xD800 ∨ 0xDFFF < low ∧ high < 0x110000) ∧
      (128 ≤ low ∨ low = 'k'.toNat ∧ high = 'k'.toNat) := by
  decide +kernel

private theorem lowerExpansions_fall :
    ∀ entry ∈ lowerExpansions, entry.2.map Char.ofNat = ['i', '\u0307'] := by
  decide +kernel

theorem lowerChar_cases (char : Char) :
    lowerChar char = [char.toLower] ∨ lowerChar char = ['k'] ∨ lowerChar char = ['i', '\u0307'] ∨
      ∃ image, lowerChar char = [image] ∧ 128 ≤ image.toNat := by
  by_cases small : char.toNat < 128
  · exact .inl (if_pos small)
  right
  rw [lowerChar, if_neg small, mapCase]
  split
  · next codes found => exact .inr (.inl (lowerExpansions_fall _ (mem_of_lookup found)))
  · split
    · next range found =>
        have covered : range.covers char.toNat = true := by simpa using List.find?_some found
        obtain ⟨valid, lands⟩ := lowerRanges_fall range (List.mem_of_find?_eq_some found)
        obtain ⟨same, least, most⟩ := CaseRange.toNat_otherCase covered valid
        rcases lands with high | ⟨first, last⟩
        · exact .inr (.inr ⟨_, rfl, by omega⟩)
        · have kelvin : (range.otherCase char.toNat).toNat = 'k'.toNat := by omega
          exact .inl (congrArg (fun image => [image]) (Char.toNat_inj.mp kelvin))
    · exact .inr (.inr ⟨char, rfl, Nat.le_of_not_lt small⟩)

/-! ## Lower case twice

No character of a lower case has another lower case. Capital and small letters may take turns in a
range, so that the ranges are compared code by code: sets of codes are numbers here, with a bit for
each code. -/

/-- A character that is its own lower case and no blank. -/
private structure IsSettled (char : Char) : Prop where
  lower : lowerChar char = [char]
  visible : isBlank char = false

private def bitsFrom (code step : Nat) : Nat → Nat
  | 0 => 0
  | count + 1 => 1 <<< code ||| bitsFrom (code + step) step count

private theorem testBit_bitsFrom {count index : Nat} (within : index < count) (code step : Nat) :
    (bitsFrom code step count).testBit (code + step * index) = true := by
  induction count generalizing code index with
  | zero => cases within
  | succ count induction =>
      rw [bitsFrom, Nat.testBit_or, Nat.one_shiftLeft, Nat.testBit_two_pow, Bool.or_eq_true]
      cases index with
      | zero => exact .inl (by simp)
      | succ index =>
          have later := induction (Nat.lt_of_succ_lt_succ within) (code + step)
          rw [Nat.add_assoc, Nat.add_comm step, ← Nat.mul_succ] at later
          exact .inr later

private def bitsOf (start : CaseRange → Nat) : List CaseRange → Nat
  | [] => 0
  | range :: rest =>
      bitsFrom (start range) range.step ((range.last - range.first) / range.step + 1) |||
        bitsOf start rest

private theorem testBit_bitsOf (start : CaseRange → Nat) {ranges : List CaseRange}
    {range : CaseRange} (member : range ∈ ranges) {code : Nat}
    (covered : range.covers code = true) :
    (bitsOf start ranges).testBit (start range + (code - range.first)) = true := by
  induction ranges with
  | nil => cases member
  | cons head tail induction =>
      rw [bitsOf, Nat.testBit_or, Bool.or_eq_true]
      rcases List.mem_cons.mp member with rfl | later
      · simp only [CaseRange.covers, Bool.and_eq_true, decide_eq_true_eq] at covered
        have whole := Nat.mul_div_cancel' (Nat.dvd_of_mod_eq_zero covered.2)
        have within : (code - range.first) / range.step ≤ (range.last - range.first) / range.step :=
          Nat.div_le_div_right (by omega)
        have found := testBit_bitsFrom (Nat.lt_succ_of_le within) (start range) range.step
        rw [whole] at found
        exact .inl found
      · exact .inr (induction later)

private def otherRanges : List CaseRange :=
  lowerExpansions.map (fun entry => ⟨entry.1, entry.1, 1, 0⟩) ++
    blankRanges.map fun run => ⟨run.1, run.2, 1, 0⟩

private theorem lowerRanges_apart :
    bitsOf (fun range => range.first) (lowerRanges ++ otherRanges) &&&
      bitsOf (fun range => (range.first + range.offset).toNat) lowerRanges = 0 := by
  decide +kernel

private theorem covers_lowered {range other : CaseRange} (member : range ∈ lowerRanges)
    (present : other ∈ lowerRanges ++ otherRanges) {code : Nat}
    (covered : range.covers code = true) (positive : 0 < (range.first + range.offset).toNat) :
    other.covers (code + range.offset).toNat = false := by
  rw [← Bool.not_eq_true]
  intro again
  have image := testBit_bitsOf (fun range => (range.first + range.offset).toNat) member covered
  have capital := testBit_bitsOf (fun range => range.first) present again
  have none := congrArg (Nat.testBit · (code + range.offset).toNat) lowerRanges_apart
  simp only [CaseRange.covers, Bool.and_eq_true, decide_eq_true_eq] at covered again
  have moved : (range.first + range.offset).toNat + (code - range.first) =
      (code + range.offset).toNat := by omega
  have back : other.first + ((code + range.offset).toNat - other.first) =
      (code + range.offset).toNat := by omega
  rw [moved] at image
  rw [back] at capital
  simp [image, capital] at none

private theorem lowerChar_eq_self {char : Char} (beyond : ¬char.toNat < 128)
    (unlisted : lowerExpansions.lookup char.toNat = none)
    (uncovered : lowerRanges.find? (·.covers char.toNat) = none) : lowerChar char = [char] := by
  rw [lowerChar, if_neg beyond, mapCase, unlisted]
  simp only [uncovered]

private theorem isSettled_otherCase {range : CaseRange} (member : range ∈ lowerRanges) {code : Nat}
    (covered : range.covers code = true) : IsSettled (range.otherCase code) := by
  rcases lowerRanges_fall range member with ⟨valid, lands⟩
  rcases CaseRange.toNat_otherCase covered valid with ⟨same, least, most⟩
  have positive : 0 < (range.first + range.offset).toNat := by
    rcases lands with high | ⟨first, _⟩
    · omega
    · rw [first]
      decide
  have outside {other : CaseRange} (present : other ∈ lowerRanges ++ otherRanges) :
      other.covers (range.otherCase code).toNat = false := by
    rw [same]
    exact covers_lowered member present covered positive
  have beside {first last : Nat} (present : (⟨first, last, 1, 0⟩ : CaseRange) ∈ otherRanges) :
      ¬(first ≤ (range.otherCase code).toNat ∧ (range.otherCase code).toNat ≤ last) := by
    simpa [CaseRange.covers, Nat.mod_one] using outside (List.mem_append_right _ present)
  constructor
  · rcases lands with high | ⟨first, last⟩
    · have unlisted : lowerExpansions.lookup (range.otherCase code).toNat = none := by
        rw [List.lookup_eq_none_iff]
        intro entry listed
        have apart := beside (List.mem_append_left _ (List.mem_map_of_mem listed))
        simp
        omega
      have uncovered : lowerRanges.find? (·.covers (range.otherCase code).toNat) = none := by
        rw [List.find?_eq_none]
        intro other found
        rw [outside (List.mem_append_left _ found)]
        exact Bool.false_ne_true
      exact lowerChar_eq_self (by omega) unlisted uncovered
    · have kelvin : (range.otherCase code).toNat = 'k'.toNat := by
        rw [same]
        omega
      rw [Char.toNat_inj.mp kelvin]
      rfl
  · rw [← Bool.not_eq_true, isBlank]
    intro blank
    rcases CodeRanges.exists_of_has blank with ⟨run, listed, inside⟩
    exact beside (List.mem_append_right _ (List.mem_map_of_mem listed)) inside

/-- What the lower case of a character is made of has no other lower case, and is a blank only
where the character is one. -/
theorem of_mem_lowerChar {char image : Char} (member : image ∈ lowerChar char) :
    lowerChar image = [image] ∧ (isBlank image = true → isBlank char = true) := by
  have settled (found : IsSettled image) :
      lowerChar image = [image] ∧ (isBlank image = true → isBlank char = true) :=
    ⟨found.lower, fun blank => by rw [found.visible] at blank; cases blank⟩
  by_cases small : char.toNat < 128
  · have ascii : ∀ code < 128,
        lowerChar (Char.ofNat code).toLower = [(Char.ofNat code).toLower] := by
      decide +kernel
    have fixed := ascii char.toNat small
    rw [Char.ofNat_toNat] at fixed
    rw [lowerChar, if_pos small, List.mem_singleton] at member
    rw [member, isBlank_toLower]
    exact ⟨fixed, id⟩
  · have form := member
    rw [lowerChar, if_neg small, mapCase] at form
    split at form
    · next codes found =>
        rw [lowerExpansions_fall _ (mem_of_lookup found), List.mem_cons, List.mem_singleton] at form
        rcases form with rfl | rfl
        · exact settled ⟨by decide +kernel, by decide +kernel⟩
        · exact settled ⟨by decide +kernel, by decide +kernel⟩
    · next unlisted =>
        split at form
        · next range found =>
            have covered : range.covers char.toNat = true := by simpa using List.find?_some found
            rw [List.mem_singleton.mp form] at settled ⊢
            exact settled (isSettled_otherCase (List.mem_of_find?_eq_some found) covered)
        · next uncovered =>
            rw [List.mem_singleton.mp form]
            exact ⟨lowerChar_eq_self small unlisted uncovered, id⟩

theorem of_mem_lowerFrom {preceding text : Text} {image : Char}
    (member : image ∈ lowerFrom preceding text) :
    image = 'ς' ∨ ∃ char ∈ text, image ∈ lowerChar char := by
  induction text generalizing preceding with
  | nil => cases member
  | cons head tail induction =>
      rw [lowerFrom, List.mem_append] at member
      rcases member with form | later
      · split at form
        · exact .inl (List.mem_singleton.mp form)
        · exact .inr ⟨head, List.mem_cons_self, form⟩
      · exact (induction later).imp id fun ⟨char, found, image⟩ =>
          ⟨char, List.mem_cons_of_mem head found, image⟩

private theorem lowerFrom_eq_self {preceding text : Text}
    (fixed : ∀ char ∈ text, lowerChar char = [char]) : lowerFrom preceding text = text := by
  induction text generalizing preceding with
  | nil => rfl
  | cons head tail induction =>
      rw [List.forall_mem_cons] at fixed
      have small : head ≠ 'Σ' := by
        rintro rfl
        exact absurd fixed.1 (by decide +kernel)
      rw [lowerFrom, induction fixed.2]
      simp [small, fixed.1]

theorem lower_lower (text : Text) : lower (lower text) = lower text := by
  apply lowerFrom_eq_self
  intro image member
  rcases of_mem_lowerFrom member with rfl | ⟨char, _, found⟩
  · decide +kernel
  · exact (of_mem_lowerChar found).1

end Linewise.Text
