import Linewise.Proofs.LetterCase
import Linewise.Proofs.Pasting

/-!
Integer literals. A literal of a number is first tried as an expression, and expressions have rules
of their own for zeros at the start, for underscores and for the digits of other scripts. Whatever
literal of an integer they accept, though, they give it the same value.
-/

namespace Linewise

open Expression Number

/-! ## Digits of every script -/

private theorem decimalRanges_increasing :
    Text.decimalRanges.Pairwise fun lower upper => lower.1 ≤ upper.1 := by
  decide +kernel

/-- Only one script has its digits in ASCII, and no digit may begin a name or is a blank. -/
private theorem decimalRanges_apart : ∀ range ∈ Text.decimalRanges,
    (range.1 < 128 → range = (48, 57)) ∧
      ∀ other ∈ Text.nameSymbolRanges ++ Text.blankRanges,
        other.2 < range.1 ∨ range.2 < other.1 := by
  decide +kernel

private theorem symbols_ascii :
    (foreignSymbols ++ symbols.map Prod.fst).all (·.all (·.toNat < 128)) = true := by
  decide +kernel

/-- The character stands in no word, no symbol and no quoted text, and not between tokens. -/
structure IsNumeric (char : Char) : Prop where
  nameless : Text.isNameStart char = false
  quoteless : isQuote char = false
  unsymbolic : isSymbolic char = false
  visible : isGap char = false
  solid : isSolid char = true

section Beyond

variable {char : Char} (beyond : 128 ≤ char.toNat)

include beyond

theorem ne_of_beyond {other : Char} (ascii : other.toNat < 128) : char ≠ other := by
  rintro rfl
  omega

theorem isSymbolic_of_beyond : isSymbolic char = false := by
  rw [← Bool.not_eq_true]
  intro symbolic
  have listed : ∃ sign ∈ foreignSymbols ++ symbols.map Prod.fst, char ∈ sign := by
    simp only [isSymbolic, Bool.or_eq_true, List.any_eq_true, List.contains_eq_mem,
      decide_eq_true_eq] at symbolic
    rcases symbolic with ⟨sign, member, inside⟩ | ⟨entry, member, inside⟩
    · exact ⟨sign, List.mem_append_left _ member, inside⟩
    · exact ⟨entry.1, List.mem_append_right _ (List.mem_map_of_mem member), inside⟩
  rcases listed with ⟨sign, member, inside⟩
  have ascii := List.all_eq_true.mp (List.all_eq_true.mp symbols_ascii sign member) char inside
  exact ne_of_beyond beyond (of_decide_eq_true ascii) rfl

theorem asciiDigit?_of_beyond : asciiDigit? char = none := by
  apply if_neg
  simp only [Text.isAsciiDigit, Bool.and_eq_true, decide_eq_true_eq]
  rintro ⟨_, most⟩
  have below : char.toNat ≤ 57 := UInt32.le_iff_toNat_le.mp (Char.le_def.mp most)
  omega

end Beyond

private theorem symbols_present : symbols.all (fun entry => !entry.1.isEmpty) = true := by
  decide

theorem scanSymbol_of_unsymbolic {head : Char} (unsymbolic : isSymbolic head = false)
    (tail : Text) : scanSymbol (head :: tail) = none := by
  have unfound : symbols.find? (fun entry => Text.startsWith (head :: tail) entry.1) = none := by
    rw [List.find?_eq_none]
    intro entry member starts
    have present := List.all_eq_true.mp symbols_present entry member
    simp only [isSymbolic, Bool.or_eq_false_iff, List.any_eq_false, List.contains_eq_mem,
      decide_eq_true_eq] at unsymbolic
    apply unsymbolic.2 entry member
    rcases entry with ⟨sign, symbol⟩
    cases sign with
    | nil => cases present
    | cons first rest =>
        have same := (List.cons_prefix_cons.mp (List.isPrefixOf_iff_prefix.mp starts)).1
        exact List.mem_cons.mpr (.inl same.symm)
  rw [scanSymbol, unfound]
  split <;> rfl

section Digits

variable {char : Char} {digit : Nat} (value : Text.digitValue? char = some digit)

include value

theorem exists_range_of_digitValue? :
    ∃ range ∈ Text.decimalRanges, range.1 ≤ char.toNat ∧ char.toNat ≤ range.2 ∧
      digit = (char.toNat - range.1) % 10 := by
  rcases Option.map_eq_some_iff.mp value with ⟨range, found, same⟩
  have within := List.find?_some found
  simp only [Bool.and_eq_true, decide_eq_true_eq] at within
  exact ⟨range, List.mem_of_find?_eq_some found, within.1, within.2, same.symm⟩

/-- A digit is one of ASCII, with the same value in expressions, or it is none in expressions. -/
theorem asciiDigit?_of_digitValue? :
    (char.isDigit = true ∧ asciiDigit? char = some digit) ∨
      (128 ≤ char.toNat ∧ asciiDigit? char = none) := by
  rcases exists_range_of_digitValue? value with ⟨range, member, least, most, rfl⟩
  by_cases ascii : char.toNat < 128
  · cases (decimalRanges_apart range member).1 (by omega)
    have isDigit : Text.isAsciiDigit char = true := by
      simp only [Text.isAsciiDigit, Bool.and_eq_true, decide_eq_true_eq]
      exact ⟨Char.le_def.mpr (UInt32.le_iff_toNat_le.mpr least),
        Char.le_def.mpr (UInt32.le_iff_toNat_le.mpr most)⟩
    have small : (char.toNat - 48) % 10 = char.toNat - 48 := by omega
    rw [small]
    exact .inl ⟨isDigit, if_pos isDigit⟩
  · have beyond : 128 ≤ char.toNat := Nat.not_lt.mp ascii
    exact .inr ⟨beyond, asciiDigit?_of_beyond beyond⟩

theorem has_eq_false_of_digitValue? {ranges : Text.CodeRanges}
    (listed : ranges ⊆ Text.nameSymbolRanges ++ Text.blankRanges) :
    ranges.has char.toNat = false := by
  rcases exists_range_of_digitValue? value with ⟨range, member, least, most, _⟩
  rw [← Bool.not_eq_true]
  intro found
  rcases Text.CodeRanges.exists_of_has found with ⟨other, inside, within⟩
  have apart := (decimalRanges_apart range member).2 other (listed inside)
  omega

theorem isNameStart_of_digitValue? : Text.isNameStart char = false := by
  rcases exists_range_of_digitValue? value with ⟨range, member, least, most, _⟩
  rcases asciiDigit?_of_digitValue? value with ⟨isDigit, _⟩ | ⟨beyond, _⟩
  · exact of_isDigit isDigit (by decide)
  · have decimal := Text.CodeRanges.has_of_mem decimalRanges_increasing member least most
    have noSymbol := has_eq_false_of_digitValue? value (List.subset_append_left _ _)
    rw [Text.isNameStart, if_neg (Nat.not_lt.mpr beyond), noSymbol, decimal]
    simp

theorem isBlank_of_digitValue? : Text.isBlank char = false :=
  has_eq_false_of_digitValue? value (List.subset_append_right _ _)

theorem isNumeric_of_digitValue? : IsNumeric char := by
  have nameless := isNameStart_of_digitValue? value
  rcases asciiDigit?_of_digitValue? value with ⟨isDigit, _⟩ | ⟨beyond, _⟩
  · have apart : isQuote char = false ∧ isSymbolic char = false ∧ isGap char = false ∧
        isSolid char = true := of_isDigit isDigit (by decide)
    exact ⟨nameless, apart.1, apart.2.1, apart.2.2.1, apart.2.2.2⟩
  · have other : ∀ known : Char, known.toNat < 128 → char ≠ known := fun _ => ne_of_beyond beyond
    refine ⟨nameless, ?_, isSymbolic_of_beyond beyond, ?_, ?_⟩
    · simp [isQuote, other '"' (by decide), other '\'' (by decide)]
    · simp [isGap, isSpace, other ' ' (by decide), other '\t' (by decide), other '\x0c' (by decide),
        other '#' (by decide), other '\n' (by decide), other '\\' (by decide)]
    · simp [isSolid, other '\x00' (by decide), other '\r' (by decide), other '\n' (by decide),
        other '\t' (by decide), other ' ' (by decide), other '#' (by decide)]

end Digits

/-! ## Numerals -/

/-- A text of digits, with single underscores between them, and their values. -/
inductive IsNumeral : Text → List Nat → Prop
  | single {head : Char} {digit : Nat} (value : Text.digitValue? head = some digit) :
      IsNumeral [head] [digit]
  | joined {head : Char} {digit : Nat} {tail : Text} {digits : List Nat}
      (value : Text.digitValue? head = some digit) (rest : IsNumeral tail digits) :
      IsNumeral (head :: tail) (digit :: digits)
  | parted {head : Char} {digit : Nat} {tail : Text} {digits : List Nat}
      (value : Text.digitValue? head = some digit) (rest : IsNumeral tail digits) :
      IsNumeral (head :: '_' :: tail) (digit :: digits)

namespace IsNumeral

variable {text : Text} {digits : List Nat}

theorem exists_head (numeral : IsNumeral text digits) :
    ∃ head tail digit, text = head :: tail ∧ Text.digitValue? head = some digit := by
  cases numeral with
  | single value | joined value _ | parted value _ => exact ⟨_, _, _, rfl, value⟩

theorem digits_ne_nil (numeral : IsNumeral text digits) : digits ≠ [] := by
  cases numeral <;> exact List.cons_ne_nil _ _

theorem unmarked (numeral : IsNumeral text digits) : ∀ after, text = '_' :: after → False := by
  rintro after rfl
  rcases numeral.exists_head with ⟨head, tail, digit, same, value⟩
  cases same
  have none : Text.digitValue? '_' = none := by decide
  rw [none] at value
  cases value

def Ends (rest : Text) : Prop :=
  ∀ char ∈ rest.head?, char ≠ '_' ∧ Text.digitValue? char = none

theorem ends_nil : Ends [] := nofun

theorem exists_of_readDigits {rest : Text} (read : readDigits text = some (digits, rest)) :
    ∃ numeral, text = numeral ++ rest ∧ IsNumeral numeral digits ∧ Ends rest := by
  induction text using readDigits.induct generalizing digits with
  | case1 => cases read
  | case2 head tail induction =>
      simp only [readDigits, Option.bind_eq_bind, Option.bind_eq_some_iff] at read
      rcases read with ⟨digit, value, ⟨more, after⟩, read, same⟩
      cases same
      rcases induction read with ⟨numeral, rfl, inner, ends⟩
      exact ⟨head :: '_' :: numeral, rfl, .parted value inner, ends⟩
  | case3 head tail plain induction =>
      rw [readDigits] at read
      · simp only [Option.bind_eq_bind, Option.bind_eq_some_iff] at read
        rcases read with ⟨digit, value, read⟩
        split at read
        · simp only [Option.bind_eq_some_iff] at read
          rcases read with ⟨⟨more, after⟩, read, same⟩
          cases same
          rcases induction read with ⟨numeral, rfl, inner, ends⟩
          exact ⟨head :: numeral, rfl, .joined value inner, ends⟩
        · next last =>
            cases read
            refine ⟨[head], rfl, .single value, fun next first => ?_⟩
            rw [show rest.head? = some next from first] at last
            refine ⟨?_, by simpa using last⟩
            rintro rfl
            rcases List.head?_eq_some_iff.mp first with ⟨after, rfl⟩
            exact plain after rfl
      · exact plain

theorem of_readDigits (read : readDigits text = some (digits, [])) : IsNumeral text digits := by
  rcases exists_of_readDigits read with ⟨numeral, rfl, inner, _⟩
  rw [List.append_nil]
  exact inner

theorem readDigits_append (numeral : IsNumeral text digits) {rest : Text} (ends : Ends rest) :
    readDigits (text ++ rest) = some (digits, rest) := by
  induction numeral with
  | @single head digit value =>
      have last : rest.head?.bind Text.digitValue? = none := by
        cases rest with
        | nil => rfl
        | cons next after => exact (ends next rfl).2
      rw [List.singleton_append, readDigits]
      · simp [value, last]
      · rintro after rfl
        exact (ends '_' rfl).1 rfl
  | @joined head digit tail digits value inner induction =>
      rcases inner.exists_head with ⟨next, after, second, rfl, following⟩
      rw [List.cons_append] at induction
      rw [List.cons_append, List.cons_append, readDigits]
      · simp [value, following, induction]
      · rintro others same
        exact inner.unmarked after ((List.cons.inj same).1 ▸ rfl)
  | parted value inner induction =>
      rw [List.cons_append, List.cons_append, readDigits, value, induction]
      rfl

theorem readDigits_eq (numeral : IsNumeral text digits) :
    readDigits text = some (digits, []) := by
  have read := numeral.readDigits_append ends_nil
  rwa [List.append_nil] at read

/-! ## Numerals as tokens -/

/-- What stops expressions from reading a number. -/
def IsForeign (rest : Text) : Prop := ∃ head tail, rest = head :: tail ∧ 128 ≤ head.toNat

/-- Expressions refuse the numeral, read all of its digits, or stop before a digit that is none for
them. -/
theorem scanDigits_cases (numeral : IsNumeral text digits) :
    scanDigits asciiDigit? text = none ∨ scanDigits asciiDigit? text = some (digits, []) ∨
      ∃ whole rest, scanDigits asciiDigit? text = some (whole, rest) ∧ IsForeign rest := by
  induction numeral with
  | @single head digit value =>
      have scanned : scanDigits asciiDigit? [head] = _ := scanDigits_cons nofun
      rcases asciiDigit?_of_digitValue? value with ⟨_, same⟩ | ⟨beyond, none⟩
      · rw [scanned, same]
        exact .inr (.inl rfl)
      · rw [scanned, none]
        exact .inr (.inr ⟨[], _, rfl, head, [], rfl, beyond⟩)
  | @joined head digit tail digits value rest induction =>
      have scanned : scanDigits asciiDigit? (head :: tail) = _ := scanDigits_cons rest.unmarked
      rcases asciiDigit?_of_digitValue? value with ⟨_, same⟩ | ⟨beyond, none⟩
      · rw [scanned, same]
        rcases induction with refused | read | ⟨whole, after, read, foreign⟩
        · rw [refused]
          exact .inl rfl
        · rw [read]
          exact .inr (.inl rfl)
        · rw [read]
          exact .inr (.inr ⟨digit :: whole, after, rfl, foreign⟩)
      · rw [scanned, none]
        exact .inr (.inr ⟨[], _, rfl, head, tail, rfl, beyond⟩)
  | @parted head digit tail digits value rest induction =>
      -- An underscore needs a digit after it that expressions know.
      rw [scanDigits]
      rcases asciiDigit?_of_digitValue? value with ⟨_, same⟩ | ⟨beyond, none⟩
      · rw [same]
        rcases induction with refused | read | ⟨whole, after, read, foreign⟩
        · rw [refused]
          exact .inl rfl
        · simp [read, rest.digits_ne_nil]
        · cases whole with
          | nil => simp [read]
          | cons first others =>
              simp only [read, Option.bind_eq_bind, Option.bind_some]
              exact .inr (.inr ⟨digit :: first :: others, after, rfl, foreign⟩)
      · rw [none]
        exact .inr (.inr ⟨[], _, rfl, head, '_' :: tail, rfl, beyond⟩)

theorem endsNumber_foreign {rest : Text} (foreign : IsForeign rest) : endsNumber rest = false := by
  rcases foreign with ⟨head, tail, rfl, beyond⟩
  have other : ∀ known : Char, known.toNat < 128 → known ≠ head :=
    fun _ ascii => (ne_of_beyond beyond ascii).symm
  simp [endsNumber, Text.startsWith, List.isPrefixOf, beyond, other 'a' (by decide),
    other 'e' (by decide), other 'f' (by decide), other 'i' (by decide), other 'o' (by decide),
    other 'n' (by decide)]

theorem scanFractional_foreign (whole : List Nat) {rest : Text} (foreign : IsForeign rest) :
    scanFractional whole rest = none := by
  have ends := endsNumber_foreign foreign
  rcases foreign with ⟨head, tail, rfl, beyond⟩
  have other : ∀ known : Char, known.toNat < 128 → head ≠ known := fun _ => ne_of_beyond beyond
  have exponent : scanExponent (head :: tail) = some (none, head :: tail) := by
    simp [scanExponent, other 'e' (by decide), other 'E' (by decide)]
  rw [scanFractional]
  · simp [finishDecimal, exponent, finishNumber, ends]
  · rintro after same
    exact other '.' (by decide) (List.cons.inj same).1

theorem mem_cases (numeral : IsNumeral text digits) {char : Char} (member : char ∈ text) :
    char = '_' ∨ ∃ digit, Text.digitValue? char = some digit := by
  induction numeral with
  | single value =>
      cases List.mem_singleton.mp member
      exact .inr ⟨_, value⟩
  | joined value rest induction =>
      rcases List.mem_cons.mp member with rfl | later
      · exact .inr ⟨_, value⟩
      · exact induction later
  | parted value rest induction =>
      rcases List.mem_cons.mp member with rfl | later
      · exact .inr ⟨_, value⟩
      · rcases List.mem_cons.mp later with rfl | later
        · exact .inl rfl
        · exact induction later

theorem notMem (numeral : IsNumeral text digits) {char : Char} (other : char ≠ '_')
    (noDigit : Text.digitValue? char = none) : char ∉ text := by
  intro member
  rcases numeral.mem_cases member with mark | ⟨digit, value⟩
  · exact other mark
  · rw [noDigit] at value
    cases value

theorem scanNumber_eq (numeral : IsNumeral text digits) :
    scanNumber text =
      (scanDigits asciiDigit? text).bind fun found => scanFractional found.1 found.2 := by
  unfold scanNumber
  split
  · next letter rest =>
      have absent : ∀ base ∈ ['x', 'X', 'o', 'O', 'b', 'B'], letter ≠ base := by
        rintro base listed rfl
        have unlisted : letter ≠ '_' ∧ Text.digitValue? letter = none := by
          simp only [List.mem_cons, List.not_mem_nil, or_false] at listed
          rcases listed with rfl | rfl | rfl | rfl | rfl | rfl <;> decide
        exact numeral.notMem unlisted.1 unlisted.2 (by simp)
      simp only [List.forall_mem_cons] at absent
      simp [absent]
  · rfl

theorem scanNumber_cases (numeral : IsNumeral text digits) :
    scanNumber text = none ∨
      scanNumber text = some (.number (.integer (ofDigits digits)), []) := by
  rw [numeral.scanNumber_eq]
  rcases numeral.scanDigits_cases with refused | read | ⟨whole, rest, read, foreign⟩
  · rw [refused]
    exact .inl rfl
  · rw [read, Option.bind_some, scanFractional_apart digits (.inl rfl)]
    repeat' split
    all_goals simp
  · rw [read, Option.bind_some, scanFractional_foreign whole foreign]
    exact .inl rfl

theorem nextToken_cases (numeral : IsNumeral text digits) :
    nextToken text = none ∨
      nextToken text = some (.number (.integer (ofDigits digits)), []) := by
  have scanned := numeral.scanNumber_cases
  rcases numeral.exists_head with ⟨head, tail, digit, rfl, value⟩
  have numeric := isNumeric_of_digitValue? value
  rw [nextToken, numeric.nameless, numeric.quoteless, if_neg Bool.false_ne_true,
    if_neg Bool.false_ne_true]
  rcases asciiDigit?_of_digitValue? value with ⟨isDigit, _⟩ | ⟨beyond, none⟩
  · have first : Text.isAsciiDigit head = true := isDigit
    rw [if_pos first]
    exact scanned
  · have noDigit : ¬Text.isAsciiDigit head = true := by
      intro first
      rw [asciiDigit?, if_pos first] at none
      cases none
    have noPoint : ¬(head = '.' ∧ tail.head?.any Text.isAsciiDigit = true) :=
      fun point => ne_of_beyond beyond (by decide) point.1
    rw [if_neg noDigit, if_neg noPoint]
    exact .inl (scanSymbol_of_unsymbolic numeric.unsymbolic tail)

/-- An expression that is a numeral is refused, or it is the number. -/
theorem tokensFrom_cases (numeral : IsNumeral text digits) :
    tokensFrom 0 text = none ∨
      tokensFrom 0 text = some [.number (.integer (ofDigits digits))] := by
  have next := numeral.nextToken_cases
  rcases numeral.exists_head with ⟨head, tail, digit, rfl, value⟩
  rw [tokensFrom_cons (isNumeric_of_digitValue? value).visible]
  rcases next with refused | read
  · rw [refused]
    exact .inl rfl
  · rw [read]
    right
    have ended : tokensFrom 0 [] = some [] := by rw [tokensFrom, if_pos rfl]
    simp [nesting?, ended]

theorem tokensFrom_signed (numeral : IsNumeral text digits) {symbol : Symbol}
    (sign : symbol = .minus ∨ symbol = .plus) :
    tokensFrom 0 (signText symbol ++ text) = none ∨
      tokensFrom 0 (signText symbol ++ text) =
        some [.symbol symbol, .number (.integer (ofDigits digits))] := by
  have clear : text.head?.any isSymbolic = false := by
    rcases numeral.exists_head with ⟨head, tail, digit, rfl, value⟩
    exact (isNumeric_of_digitValue? value).unsymbolic
  have level : nesting? 0 (.symbol symbol) = some 0 := by rcases sign with rfl | rfl <;> rfl
  have pointless : symbol = .dot → text.head?.any Text.isAsciiDigit = false := by
    rintro rfl
    rcases sign with sign | sign <;> cases sign
  rw [tokensFrom_sign 0 symbol clear pointless, level, Option.bind_some]
  rcases numeral.tokensFrom_cases with refused | read
  · rw [refused]
    exact .inl rfl
  · rw [read]
    exact .inr rfl

end IsNumeral

/-! ## Blanks around numbers -/

theorem isBlank_of_isMargin {char : Char} (margin : isMargin char = true) :
    Text.isBlank char = true :=
  (Bool.and_eq_true_iff.mp margin).1

theorem withoutMargins_eq_self {text : Text} (visible : ∀ char ∈ text, Text.isBlank char = false) :
    withoutMargins text = text := by
  apply Text.trim_eq_self_of_forall
  intro char member
  rw [isMargin, visible char member, Bool.false_and]

/-! ## Integers -/

/-- A numeral with a sign or without, the values of its digits, and the integer. -/
inductive IsInteger : Text → List Nat → Int → Prop
  | unsigned {text : Text} {digits : List Nat} (numeral : IsNumeral text digits) :
      IsInteger text digits (ofDigits digits)
  | negative {text : Text} {digits : List Nat} (numeral : IsNumeral text digits) :
      IsInteger ('-' :: text) digits (-(ofDigits digits : Int))
  | positive {text : Text} {digits : List Nat} (numeral : IsNumeral text digits) :
      IsInteger ('+' :: text) digits (ofDigits digits)

theorem IsNumeral.readSign_eq {text : Text} {digits : List Nat} (numeral : IsNumeral text digits) :
    readSign text = (false, text) := by
  unfold readSign
  split
  · exact absurd List.mem_cons_self (numeral.notMem (by decide) (by decide))
  · exact absurd List.mem_cons_self (numeral.notMem (by decide) (by decide))
  · rfl

theorem isInteger_of_readSign {literal text : Text} {negative : Bool} {digits : List Nat}
    (sign : readSign literal = (negative, text)) (numeral : IsNumeral text digits) :
    IsInteger literal digits (if negative then -(ofDigits digits : Int) else ofDigits digits) := by
  unfold readSign at sign
  split at sign
  · cases sign
    exact .negative numeral
  · cases sign
    exact .positive numeral
  · cases sign
    exact .unsigned numeral

theorem readInt_eq_ok_iff {literal : Text} {number : Int} :
    readInt literal = .ok number ↔ ∃ digits,
      IsInteger (withoutMargins literal) digits number ∧ digits.length ≤ Fault.mostDigits := by
  unfold readInt
  generalize withoutMargins literal = stripped
  constructor
  · intro read
    cases sign : readSign stripped with
    | mk negative text =>
        simp only [sign] at read
        split at read
        · next digits numeral =>
            split at read
            · cases read
            · next short =>
                cases read
                exact ⟨digits, isInteger_of_readSign sign (.of_readDigits numeral),
                  Nat.not_lt.mp short⟩
        · cases read
  · rintro ⟨digits, integer, short⟩
    have few : ¬Fault.mostDigits < digits.length := Nat.not_lt.mpr short
    cases integer with
    | unsigned numeral => simp [numeral.readSign_eq, numeral.readDigits_eq, few]
    | negative numeral | positive numeral => simp [readSign, numeral.readDigits_eq, few]

namespace IsInteger

variable {literal : Text} {digits : List Nat} {number : Int}

theorem mem_cases (integer : IsInteger literal digits number) {char : Char}
    (member : char ∈ literal) :
    char ∈ ['-', '+', '_'] ∨ ∃ digit, Text.digitValue? char = some digit := by
  cases integer with
  | unsigned numeral => exact (numeral.mem_cases member).imp_left (by simp [·])
  | negative numeral | positive numeral =>
      rcases List.mem_cons.mp member with rfl | member
      · exact .inl (by decide)
      · exact (numeral.mem_cases member).imp_left (by simp [·])

theorem isBlank_eq_false (integer : IsInteger literal digits number) :
    ∀ char ∈ literal, Text.isBlank char = false := by
  intro char member
  rcases integer.mem_cases member with sign | ⟨digit, value⟩
  · simp only [List.mem_cons, List.not_mem_nil, or_false] at sign
    rcases sign with rfl | rfl | rfl <;> decide
  · exact isBlank_of_digitValue? value

theorem ne_nil (integer : IsInteger literal digits number) : literal ≠ [] := by
  cases integer with
  | unsigned numeral =>
      rcases numeral.exists_head with ⟨head, tail, _, rfl, _⟩
      exact List.cons_ne_nil head tail
  | negative numeral | positive numeral => exact List.cons_ne_nil _ _

theorem tokens?_eq (integer : IsInteger literal digits number) :
    tokens? literal = tokensFrom 0 literal := by
  have solid : ∀ char ∈ literal, isSolid char = true := by
    intro char member
    rcases integer.mem_cases member with sign | ⟨digit, value⟩
    · simp only [List.mem_cons, List.not_mem_nil, or_false] at sign
      rcases sign with rfl | rfl | rfl <;> decide
    · exact (isNumeric_of_digitValue? value).solid
  apply Linewise.tokens?_eq _ fun char member => .inl (solid char member)
  cases literal with
  | nil => exact absurd rfl integer.ne_nil
  | cons head tail => exact solid head List.mem_cons_self

theorem evaluate_of_tokens (integer : IsInteger literal digits number) {tokens : List Token}
    (scanned : tokensFrom 0 literal = none ∨ tokensFrom 0 literal = some tokens) {expression : Expr}
    (read : readGroup (sufficientFuel tokens) tokens = some (expression, [])) {meaning : Meaning}
    {value : Value} (evaluated : (evaluatePlain literal meaning).result = some (.ok value)) :
    (expression.evaluation meaning).result = some (.ok value) := by
  unfold evaluatePlain read? at evaluated
  rw [integer.tokens?_eq] at evaluated
  rcases scanned with refused | scanned
  · rw [refused] at evaluated
    cases evaluated
  · simp only [scanned, Option.bind_eq_bind, Option.bind_some, read] at evaluated
    exact evaluated

/-- An integer has no other value as an expression. -/
theorem eq_of_evaluatePlain (integer : IsInteger literal digits number) {meaning : Meaning}
    {value : Value} (evaluated : (evaluatePlain literal meaning).result = some (.ok value)) :
    value = .integer number := by
  -- The few tokens that there are, if any, are read by computation.
  cases integer with
  | unsigned numeral =>
      have result := evaluate_of_tokens (.unsigned numeral) numeral.tokensFrom_cases rfl evaluated
      exact (Except.ok.inj (Option.some.inj result)).symm
  | negative numeral =>
      have result := evaluate_of_tokens (.negative numeral)
        (numeral.tokensFrom_signed (.inl rfl)) rfl evaluated
      exact (Except.ok.inj (Option.some.inj result)).symm
  | positive numeral =>
      have result := evaluate_of_tokens (.positive numeral)
        (numeral.tokensFrom_signed (.inr rfl)) rfl evaluated
      exact (Except.ok.inj (Option.some.inj result)).symm

theorem isBraced_eq (integer : IsInteger literal digits number) :
    Literal.isBraced literal = false := by
  have absent : '\x7b' ∉ literal := by
    intro member
    rcases integer.mem_cases member with sign | ⟨digit, value⟩
    · exact absurd sign (by decide)
    · have none : Text.digitValue? '\x7b' = none := by decide
      rw [none] at value
      cases value
  have start : Text.startsWith literal ['\x7b'] = false := by
    rw [← Bool.not_eq_true]
    intro starts
    exact absent ((List.isPrefixOf_iff_prefix.mp starts).subset List.mem_cons_self)
  rw [Literal.isBraced, start, Bool.false_and]

end IsInteger

theorem initialValue_of_readInt {type : Text} (named : Text.upper type = DataType.integer.name)
    {literal : Text} {number : Int} (read : readInt literal = .ok number) :
    initialValue type (some literal) = .ok (.integer number) := by
  rcases readInt_eq_ok_iff.mp read with ⟨digits, integer, short⟩
  have again : readInt (withoutMargins literal) = .ok number := by
    rw [readInt_eq_ok_iff, withoutMargins_eq_self integer.isBlank_eq_false]
    exact ⟨digits, integer, short⟩
  have stripped : Text.strip literal = withoutMargins literal := by
    rcases Text.exists_eq_append_trim isMargin literal with ⟨left, right, before, after, whole⟩
    have leftBlank : ∀ char ∈ left, Text.isBlank char = true :=
      fun char member => isBlank_of_isMargin (before char member)
    have rightBlank : ∀ char ∈ right, Text.isBlank char = true :=
      fun char member => isBlank_of_isMargin (after char member)
    calc Text.strip literal
        = Text.trim Text.isBlank (left ++ (withoutMargins literal ++ right)) :=
          congrArg Text.strip whole
      _ = Text.trim Text.isBlank (withoutMargins literal) := by
          rw [Text.trim_append_left leftBlank, Text.trim_append_right rightBlank]
      _ = withoutMargins literal := Text.trim_eq_self_of_forall integer.isBlank_eq_false
  rw [initialValue, DataType.supported_of_upper named]
  change Literal.valueOf .integer (Text.strip literal) = .ok (.integer number)
  rw [stripped]
  exact Literal.valueOf_integer integer.isBraced_eq again (Evaluator.isTotal_standard _ _)
    fun value evaluated => integer.eq_of_evaluatePlain evaluated

/-! ## Integers that were written -/

theorem isNumeral_of_isDigit {text : Text} (present : text ≠ [])
    (all : ∀ char ∈ text, char.isDigit = true) :
    IsNumeral text (text.map fun char => char.toNat - '0'.toNat) := by
  have values : ∀ {char : Char}, char.isDigit = true →
      Text.digitValue? char = some (char.toNat - '0'.toNat) :=
    fun isDigit => of_isDigit isDigit (by decide)
  induction text with
  | nil => exact absurd rfl present
  | cons head tail induction =>
      rw [List.forall_mem_cons] at all
      cases tail with
      | nil => exact .single (values all.1)
      | cons next rest => exact .joined (values all.1) (induction (List.cons_ne_nil _ _) all.2)

theorem isInteger_ofInt (number : Int) :
    IsInteger (Text.ofInt number)
      ((Text.ofNat number.natAbs).map fun char => char.toNat - '0'.toNat) number := by
  have numeral : IsNumeral (Text.ofNat number.natAbs) _ :=
    isNumeral_of_isDigit Nat.toDigits_ne_nil fun char member => isDigit_of_mem_ofNat member
  have value := ofDigits_toDigits number.natAbs
  unfold Text.ofInt
  split
  · next negative =>
      have integer := IsInteger.negative numeral
      rwa [value, Int.ofNat_natAbs_of_nonpos (Int.le_of_lt negative), Int.neg_neg] at integer
  · next nonnegative =>
      have integer := IsInteger.unsigned numeral
      rwa [value, Int.natAbs_of_nonneg (Int.not_lt.mp nonnegative)] at integer

theorem readInt_ofInt {number : Int} (short : IsShort number) :
    readInt (Text.ofInt number) = .ok number := by
  rw [readInt_eq_ok_iff, withoutMargins_eq_self (isInteger_ofInt number).isBlank_eq_false]
  refine ⟨_, isInteger_ofInt number, ?_⟩
  rw [List.length_map]
  exact short

/-! ## Declarations -/

theorem constancy_integer {type : Text} (named : Text.upper type = DataType.integer.name)
    (name : Text) (values : List Text) :
    Plan.constancy (type :: name :: values) = .ok (false, type :: name :: values) := by
  apply if_neg
  intro const
  have keyword : Text.IsKeyword "const".toList := by decide
  have spelled := Text.spells_of_lower_eq keyword (by decide) const
  rw [Text.upper_of_ascii (spelled.ascii keyword)] at named
  have three := congrArg List.length named
  have five := congrArg List.length spelled
  rw [List.length_map] at three five
  rw [five] at three
  exact absurd three (by decide)

theorem substitute_integer {bindings : Bindings} {source : Text} {number : Int} {constant : Bool}
    (referable : IsReferable source) (unreserved : isReserved source = false)
    (stored : bindings source = some ⟨DataType.integer.name, .integer number, constant⟩)
    (short : IsShort number) : substitute bindings (marked source) = .ok (Text.ofInt number) := by
  have reference : bindings.referenceText? .value source = some (.ok (Text.ofInt number)) := by
    rw [Bindings.referenceText?, unreserved, stored, ← Value.writeInteger_of_short short,
      ← Variable.mention_integer number constant]
    rfl
  have substituted : substitute bindings (marked (source ++ [])) = _ :=
    substitute_reference rfl referable rfl
  rw [List.append_nil, reference] at substituted
  exact substituted.trans (congrArg Except.ok (List.append_nil _))

theorem declaredValue_reference {bindings : Bindings} {source text : Text}
    (substituted : substitute bindings (marked source) = .ok text) :
    Plan.declaredValue bindings DataType.integer.name [marked source] =
      initialValue DataType.integer.name (some text) := by
  have whole : Text.join [' '] [marked source] = marked source := List.intercalate_singleton
  have plain : Plan.braced? (marked source) = none := rfl
  have lifted : (liftM (substitute bindings (marked source)) : Except Error Text) = .ok text :=
    lifted_eq_ok.mpr substituted
  have value : Plan.literalValue bindings DataType.integer.name (marked source) =
      initialValue DataType.integer.name (some text) := by
    have integral : DataType.integer.name ≠ DataType.truth.name := by decide
    simp only [Plan.literalValue, lifted, bind, Except.bind, if_neg integral]
  rw [Plan.declaredValue, List.isEmpty_cons, if_neg Bool.false_ne_true, whole]
  simp only [plain]
  exact value

theorem create_integer {bindings : Bindings} {type target : Text} {values : List Text}
    {value : Value} (named : Text.upper type = DataType.integer.name)
    (free : isReserved (Text.lower target) = false)
    (changeable : Plan.isConstant bindings (Text.lower target) = false)
    (declared : Plan.declaredValue bindings DataType.integer.name values = .ok value) :
    Plan.create bindings (type :: target :: values) =
      .ok (.declare (Text.lower target) ⟨DataType.integer.name, value, false⟩) := by
  rw [Plan.create, Plan.declaration, constancy_integer named]
  simp only [bind, Except.bind, pure, Except.pure, free, changeable, named, declared,
    Bool.false_eq_true, if_false]

/-- A literal of an integer stands for the integer, however it is spelled. So what replaces a
reference to an integer variable is read back as the variable's value. -/
theorem initialValue_integer {type : Text} (named : Text.upper type = DataType.integer.name)
    (number : Int) :
    (∀ literal, readInt literal = .ok number →
      initialValue type (some literal) = .ok (.integer number)) ∧
    (IsShort number → ∀ constant, ∃ text,
      Variable.mention ⟨DataType.integer.name, .integer number, constant⟩ = .ok text ∧
      initialValue type (some text) = .ok (.integer number) ∧
      ∀ (bindings : Bindings) source target, IsReferable source → isReserved source = false →
        bindings source = some ⟨DataType.integer.name, .integer number, constant⟩ →
        isReserved (Text.lower target) = false →
        Plan.isConstant bindings (Text.lower target) = false →
        substitute bindings (marked source) = .ok text ∧
        Plan.create bindings [type, target, marked source] =
          .ok (.declare (Text.lower target)
            ⟨DataType.integer.name, .integer number, false⟩)) := by
  refine ⟨fun literal read => initialValue_of_readInt named read, fun short constant => ?_⟩
  have mentioned : Variable.mention ⟨DataType.integer.name, .integer number, constant⟩ =
      .ok (Text.ofInt number) := by
    rw [Variable.mention_integer, Value.writeInteger_of_short short]
  have value := initialValue_of_readInt named (readInt_ofInt short)
  refine ⟨Text.ofInt number, mentioned, value, ?_⟩
  intro bindings source target referable unreserved stored free changeable
  have substituted := substitute_integer referable unreserved stored short
  have declared := declaredValue_reference substituted
  rw [initialValue_of_readInt (by decide) (readInt_ofInt short)] at declared
  exact ⟨substituted, create_integer named free changeable declared⟩

/-- Arabic digits with zeros at the start, which are no expression, and a reference to a negative
constant. -/
theorem initialValue_integer_minusSeven :
    let stored : Variable := ⟨DataType.integer.name, .integer (-7), true⟩
    initialValue "int".toList (some " -\u0660\u0660_\u0667 ".toList) = .ok (.integer (-7)) ∧
      Plan.create (fun name => if name = ['x'] then some stored else none)
          ["int".toList, ['Y'], marked ['x']] =
        .ok (.declare ['y'] ⟨DataType.integer.name, .integer (-7), false⟩) := by
  intro stored
  have seven := initialValue_integer (by decide : Text.upper "int".toList = _) (-7)
  have short : IsShort (-7) := by decide
  rcases seven.2 short true with ⟨text, _, _, created⟩
  exact ⟨seven.1 _ rfl, (created _ ['x'] ['Y'] ⟨rfl, rfl⟩ rfl rfl rfl rfl).2⟩

end Linewise
