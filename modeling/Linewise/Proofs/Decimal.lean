import Linewise.Proofs.Numeral

/-!
Literals of floating-point numbers. The grammar says what a literal is put together from. The reader
goes through a text from the left and takes as much as it can at each place, and accepts the same
texts.
-/

namespace Linewise.Number

open IsNumeral

/-! ## Grammar -/

def IsOptionalSign (text : Text) : Prop := text = [] ∨ text = ['+'] ∨ text = ['-']

def IsDigitPart (text : Text) : Prop := ∃ digits, IsNumeral text digits

/-- Digits and perhaps a point, which has a digit on one of its sides. -/
inductive IsPointed : Text → Prop
  | fractional {whole fraction : Text} (first : whole = [] ∨ IsDigitPart whole)
      (last : IsDigitPart fraction) : IsPointed (whole ++ '.' :: fraction)
  | integral {whole point : Text} (first : IsDigitPart whole)
      (last : point = [] ∨ point = ['.']) : IsPointed (whole ++ point)

inductive IsExponent : Text → Prop
  | scaled {letter : Char} {sign digits : Text} (marks : letter = 'e' ∨ letter = 'E')
      (signed : IsOptionalSign sign) (last : IsDigitPart digits) :
      IsExponent (letter :: (sign ++ digits))

inductive IsUnsignedFloat : Text → Prop
  | decimal {pointed exponent : Text} (first : IsPointed pointed)
      (last : exponent = [] ∨ IsExponent exponent) : IsUnsignedFloat (pointed ++ exponent)
  | word {name : String} {text : Text} (listed : name ∈ ["inf", "infinity", "nan"])
      (spelled : Text.Spells name.toList text) : IsUnsignedFloat text

/-- A number with a sign or without, between blanks that may stand around numbers. -/
inductive IsFloatLiteral : Text → Prop
  | padded {left sign body right : Text} (before : ∀ char ∈ left, isMargin char = true)
      (signed : IsOptionalSign sign) (number : IsUnsignedFloat body)
      (after : ∀ char ∈ right, isMargin char = true) :
      IsFloatLiteral (left ++ ((sign ++ body) ++ right))

/-! ## Parts of decimals -/

def IsOptionalNumeral (text : Text) (digits : List Nat) : Prop :=
  (text = [] ∧ digits = []) ∨ IsNumeral text digits

theorem IsOptionalNumeral.eq_nil_or {text : Text} {digits : List Nat}
    (optional : IsOptionalNumeral text digits) : text = [] ∨ IsDigitPart text :=
  optional.imp And.left fun numeral => ⟨digits, numeral⟩

theorem IsOptionalNumeral.isDigitPart {text : Text} {digits : List Nat}
    (optional : IsOptionalNumeral text digits) (present : digits ≠ []) : IsDigitPart text := by
  rcases optional with ⟨_, absent⟩ | numeral
  · exact absurd absent present
  · exact ⟨digits, numeral⟩

theorem exists_optionalNumeral {text : Text} (optional : text = [] ∨ IsDigitPart text) :
    ∃ digits, IsOptionalNumeral text digits := by
  rcases optional with rfl | ⟨digits, numeral⟩
  · exact ⟨[], .inl ⟨rfl, rfl⟩⟩
  · exact ⟨digits, .inr numeral⟩

theorem exists_of_optionalDigits {text rest : Text} {digits : List Nat}
    (read : optionalDigits text = (digits, rest)) :
    ∃ part, text = part ++ rest ∧ IsOptionalNumeral part digits := by
  unfold optionalDigits at read
  cases found : readDigits text with
  | none =>
      rw [found] at read
      cases read
      exact ⟨[], rfl, .inl ⟨rfl, rfl⟩⟩
  | some pair =>
      rw [found] at read
      cases read
      rcases exists_of_readDigits found with ⟨numeral, whole, inner, _⟩
      exact ⟨numeral, whole, .inr inner⟩

theorem readDigits_eq_none {rest : Text} (ends : Ends rest) : readDigits rest = none := by
  cases rest with
  | nil => rfl
  | cons head tail =>
      have noDigit := (ends head rfl).2
      cases tail with
      | nil => simp [readDigits, noDigit]
      | cons next after =>
          by_cases mark : next = '_'
          · subst mark
            simp [readDigits, noDigit]
          · rw [readDigits]
            · simp [noDigit]
            · rintro others same
              exact mark (List.cons.inj same).1

theorem optionalDigits_append {part rest : Text} {digits : List Nat}
    (optional : IsOptionalNumeral part digits) (ends : Ends rest) :
    optionalDigits (part ++ rest) = (digits, rest) := by
  rcases optional with ⟨rfl, rfl⟩ | numeral
  · rw [List.nil_append, optionalDigits, readDigits_eq_none ends]
    rfl
  · rw [optionalDigits, numeral.readDigits_append ends]
    rfl

theorem ends_of_head {head : Char} (other : head ≠ '_')
    (noDigit : Text.digitValue? head = none) (tail : Text) : Ends (head :: tail) := by
  rintro char ⟨⟩
  exact ⟨other, noDigit⟩

/-! ## Signs and exponents -/

theorem exists_of_readSign {text rest : Text} {negative : Bool}
    (read : readSign text = (negative, rest)) :
    ∃ sign, IsOptionalSign sign ∧ text = sign ++ rest := by
  unfold readSign at read
  split at read
  · cases read
    exact ⟨['-'], .inr (.inr rfl), rfl⟩
  · cases read
    exact ⟨['+'], .inr (.inl rfl), rfl⟩
  · cases read
    exact ⟨[], .inl rfl, rfl⟩

theorem readSign_append {sign rest : Text} (signed : IsOptionalSign sign)
    (unsigned : ∀ char ∈ rest.head?, char ≠ '+' ∧ char ≠ '-') :
    (readSign (sign ++ rest)).2 = rest := by
  rcases signed with rfl | rfl | rfl
  · rw [List.nil_append]
    unfold readSign
    split
    · exact absurd rfl (unsigned '-' rfl).2
    · exact absurd rfl (unsigned '+' rfl).1
    · rfl
  · rfl
  · rfl

theorem IsDigitPart.head_ne {text : Text} (part : IsDigitPart text) {sign : Char}
    (noDigit : Text.digitValue? sign = none) (rest : Text) :
    ∀ char ∈ (text ++ rest).head?, char ≠ sign := by
  rcases part with ⟨digits, numeral⟩
  rcases numeral.exists_head with ⟨head, tail, digit, rfl, value⟩
  rintro char ⟨⟩ rfl
  rw [noDigit] at value
  cases value

theorem readExponent_eq_some_iff {text : Text} :
    (∃ exponent, readExponent text = some (exponent, [])) ↔
      ∃ sign digits, text = sign ++ digits ∧ IsOptionalSign sign ∧ IsDigitPart digits := by
  constructor
  · rintro ⟨exponent, read⟩
    rcases signed : readSign text with ⟨negative, unsigned⟩
    rcases exists_of_readSign signed with ⟨sign, optional, rfl⟩
    simp only [readExponent, signed, Option.bind_eq_bind, Option.bind_eq_some_iff] at read
    rcases read with ⟨⟨digits, rest⟩, found, same⟩
    cases same
    exact ⟨sign, unsigned, rfl, optional, digits, of_readDigits found⟩
  · rintro ⟨sign, digits, rfl, optional, part⟩
    have unsigned : ∀ char ∈ (digits ++ []).head?, char ≠ '+' ∧ char ≠ '-' := fun char first =>
      ⟨part.head_ne (by decide) [] char first, part.head_ne (by decide) [] char first⟩
    rw [List.append_nil] at unsigned
    have signed := readSign_append optional unsigned
    rcases part with ⟨values, numeral⟩
    simp only [readExponent, signed, numeral.readDigits_eq, Option.bind_eq_bind, Option.bind_some]
    exact ⟨_, rfl⟩

theorem isExponent_cons_iff {letter : Char} (marks : letter = 'e' ∨ letter = 'E') {after : Text} :
    IsExponent (letter :: after) ↔ ∃ exponent, readExponent after = some (exponent, []) := by
  rw [readExponent_eq_some_iff]
  constructor
  · rintro ⟨_, signed, last⟩
    exact ⟨_, _, rfl, signed, last⟩
  · rintro ⟨sign, digits, rfl, signed, last⟩
    exact .scaled marks signed last

theorem readScale_nil_iff {text : Text} :
    (readScale text).2 = [] ↔ text = [] ∨ IsExponent text := by
  have lettered : ∀ {letter : Char} {after : Text}, letter = 'e' ∨ letter = 'E' →
      (((readExponent after).getD (0, letter :: after)).2 = [] ↔
        letter :: after = [] ∨ IsExponent (letter :: after)) := by
    intro letter after marks
    rw [isExponent_cons_iff marks]
    cases readExponent after with
    | none => simp
    | some pair =>
        rcases pair with ⟨exponent, rest⟩
        simp
  unfold readScale
  split
  · exact lettered (.inl rfl)
  · exact lettered (.inr rfl)
  · next small capital =>
      simp only [iff_self_or]
      rintro ⟨rfl | rfl, _, _⟩
      · exact absurd rfl (small _)
      · exact absurd rfl (capital _)

theorem ends_of_exponent {exponent : Text} (scaled : exponent = [] ∨ IsExponent exponent) :
    Ends exponent := by
  rcases scaled with rfl | ⟨rfl | rfl, _, _⟩
  · exact ends_nil
  · exact ends_of_head (by decide) (by decide) _
  · exact ends_of_head (by decide) (by decide) _

/-! ## Decimals -/

theorem exists_of_readFraction {text rest : Text} {digits : List Nat}
    (read : readFraction text = (digits, rest)) :
    (text = rest ∧ digits = []) ∨
      ∃ part, text = '.' :: (part ++ rest) ∧ IsOptionalNumeral part digits := by
  unfold readFraction at read
  split at read
  · rcases exists_of_optionalDigits read with ⟨part, rfl, optional⟩
    exact .inr ⟨part, rfl, optional⟩
  · cases read
    exact .inl ⟨rfl, rfl⟩

theorem readFraction_exponent {exponent : Text} (scaled : exponent = [] ∨ IsExponent exponent) :
    readFraction exponent = ([], exponent) := by
  rcases scaled with rfl | ⟨rfl | rfl, _, _⟩
  · rfl
  · rfl
  · rfl

theorem exists_readDecimal_iff {negative : Bool} {text : Text} :
    (∃ number, readDecimal negative text = some (number, [])) ↔
      ∃ whole rest fractional exponent, optionalDigits text = (whole, rest) ∧
        readFraction rest = (fractional, exponent) ∧ (whole ≠ [] ∨ fractional ≠ []) ∧
        (exponent = [] ∨ IsExponent exponent) := by
  rcases first : optionalDigits text with ⟨whole, rest⟩
  rcases second : readFraction rest with ⟨fractional, exponent⟩
  simp only [readDecimal, first, second, ← readScale_nil_iff]
  constructor
  · rintro ⟨number, read⟩
    split at read
    · cases read
    · next present =>
        have scaled : (readScale exponent).2 = [] := congrArg Prod.snd (Option.some.inj read)
        refine ⟨whole, rest, fractional, exponent, rfl, second, ?_, scaled⟩
        simpa [or_iff_not_imp_left] using present
  · rintro ⟨_, _, _, _, ⟨⟩, same, present, scaled⟩
    rw [second] at same
    cases same
    rw [if_neg (by simpa [or_iff_not_imp_left] using present), scaled]
    exact ⟨_, rfl⟩

theorem readDecimal_iff_isPointed {negative : Bool} {text : Text} :
    (∃ number, readDecimal negative text = some (number, [])) ↔
      ∃ pointed exponent, text = pointed ++ exponent ∧ IsPointed pointed ∧
        (exponent = [] ∨ IsExponent exponent) := by
  rw [exists_readDecimal_iff]
  constructor
  · rintro ⟨whole, rest, fractional, exponent, first, second, present, scaled⟩
    rcases exists_of_optionalDigits first with ⟨front, rfl, frontPart⟩
    rcases exists_of_readFraction second with ⟨rfl, rfl⟩ | ⟨part, rfl, partPart⟩
    · have digits : IsDigitPart front := frontPart.isDigitPart (by simpa using present)
      refine ⟨front, rest, rfl, ?_, scaled⟩
      have plain := IsPointed.integral digits (.inl rfl)
      rwa [List.append_nil] at plain
    · rcases partPart with ⟨rfl, rfl⟩ | numeral
      · have digits : IsDigitPart front := frontPart.isDigitPart (by simpa using present)
        exact ⟨front ++ ['.'], exponent, by simp, .integral digits (.inr rfl), scaled⟩
      · exact ⟨front ++ '.' :: part, exponent, by simp,
          .fractional frontPart.eq_nil_or ⟨_, numeral⟩, scaled⟩
  · rintro ⟨_, exponent, rfl, pointed, scaled⟩
    have ends := ends_of_exponent scaled
    have dotted : ∀ after, Ends ('.' :: after) := ends_of_head (by decide) (by decide)
    cases pointed with
    | @fractional whole fraction first last =>
        rcases exists_optionalNumeral first with ⟨digits, optional⟩
        rcases last with ⟨places, numeral⟩
        refine ⟨digits, '.' :: (fraction ++ exponent), places, exponent, ?_, ?_,
          .inr numeral.digits_ne_nil, scaled⟩
        · rw [List.append_assoc, List.cons_append, optionalDigits_append optional (dotted _)]
        · exact optionalDigits_append (.inr numeral) ends
    | @integral whole point first last =>
        rcases first with ⟨digits, numeral⟩
        have after : Ends (point ++ exponent) ∧
            readFraction (point ++ exponent) = ([], exponent) := by
          rcases last with rfl | rfl
          · exact ⟨ends, readFraction_exponent scaled⟩
          · exact ⟨dotted _, optionalDigits_append (.inl ⟨rfl, rfl⟩) ends⟩
        refine ⟨digits, point ++ exponent, [], exponent, ?_, after.2,
          .inl numeral.digits_ne_nil, scaled⟩
        rw [List.append_assoc, optionalDigits_append (.inr numeral) after.1]

/-! ## Literals -/

def IsUnspaced (text : Text) : Prop := ∀ char ∈ text, Text.isBlank char = false

theorem IsUnspaced.append {first second : Text} (before : IsUnspaced first)
    (after : IsUnspaced second) : IsUnspaced (first ++ second) :=
  List.forall_mem_append.mpr ⟨before, after⟩

theorem IsUnspaced.cons {head : Char} {tail : Text} (visible : Text.isBlank head = false)
    (after : IsUnspaced tail) : IsUnspaced (head :: tail) :=
  List.forall_mem_cons.mpr ⟨visible, after⟩

theorem isUnspaced_nil : IsUnspaced [] := nofun

theorem IsDigitPart.isUnspaced {text : Text} (part : IsDigitPart text) : IsUnspaced text := by
  rcases part with ⟨digits, numeral⟩
  intro char member
  rcases numeral.mem_cases member with rfl | ⟨digit, value⟩
  · decide
  · exact isBlank_of_digitValue? value

theorem IsOptionalSign.isUnspaced {text : Text} (signed : IsOptionalSign text) :
    IsUnspaced text := by
  rcases signed with rfl | rfl | rfl
  · exact isUnspaced_nil
  · exact .cons (by decide) isUnspaced_nil
  · exact .cons (by decide) isUnspaced_nil

theorem IsPointed.isUnspaced {text : Text} (pointed : IsPointed text) : IsUnspaced text := by
  cases pointed with
  | fractional first last =>
      have whole : IsUnspaced _ := first.elim (· ▸ isUnspaced_nil) IsDigitPart.isUnspaced
      exact whole.append (.cons (by decide) last.isUnspaced)
  | integral first last =>
      apply first.isUnspaced.append
      rcases last with rfl | rfl
      · exact isUnspaced_nil
      · exact .cons (by decide) isUnspaced_nil

theorem IsExponent.isUnspaced {text : Text} (exponent : IsExponent text) : IsUnspaced text := by
  cases exponent with
  | scaled marks signed last =>
      apply IsUnspaced.cons _ (signed.isUnspaced.append last.isUnspaced)
      rcases marks with rfl | rfl <;> decide

theorem isKeyword_of_listed :
    ∀ name ∈ ["inf", "infinity", "nan"], Text.IsKeyword name.toList := by
  decide

theorem IsUnsignedFloat.isUnspaced {text : Text} (number : IsUnsignedFloat text) :
    IsUnspaced text := by
  cases number with
  | decimal first last =>
      exact first.isUnspaced.append (last.elim (· ▸ isUnspaced_nil) IsExponent.isUnspaced)
  | word listed spelled => exact (spelled.isSolid (isKeyword_of_listed _ listed)).2

theorem IsPointed.head_ne {text : Text} (pointed : IsPointed text) {sign : Char}
    (noDigit : Text.digitValue? sign = none) (noPoint : '.' ≠ sign) (rest : Text) :
    ∀ char ∈ (text ++ rest).head?, char ≠ sign := by
  cases pointed with
  | fractional first last =>
      rcases first with rfl | first
      · rintro char ⟨⟩
        exact noPoint
      · rw [List.append_assoc]
        exact first.head_ne noDigit _
  | integral first last =>
      rw [List.append_assoc]
      exact first.head_ne noDigit _

theorem IsUnsignedFloat.unsigned {text : Text} (number : IsUnsignedFloat text) :
    ∀ char ∈ text.head?, char ≠ '+' ∧ char ≠ '-' := by
  intro char start
  cases number with
  | decimal first last =>
      exact ⟨first.head_ne (by decide) (by decide) _ char start,
        first.head_ne (by decide) (by decide) _ char start⟩
  | @word name _ listed spelled =>
      -- The first letter is that of a listed word, which is no sign.
      have letters : ∀ name ∈ ["inf", "infinity", "nan"],
          name.toList.head? ≠ some '+'.toLower ∧ name.toList.head? ≠ some '-'.toLower := by decide
      have first : name.toList.head? = some char.toLower := by
        rw [← spelled, List.head?_map, show text.head? = some char from start]
        rfl
      have other := letters name listed
      rw [first] at other
      exact ⟨fun same => other.1 (same ▸ rfl), fun same => other.2 (same ▸ rfl)⟩

theorem isUnsignedFloat_iff (negative : Bool) {text : Text} :
    IsUnsignedFloat text ↔ (∃ name ∈ ["inf", "infinity", "nan"], Text.Spells name.toList text) ∨
      ∃ number, readDecimal negative text = some (number, []) := by
  rw [readDecimal_iff_isPointed]
  constructor
  · intro number
    cases number with
    | decimal first last => exact .inr ⟨_, _, rfl, first, last⟩
    | word listed spelled => exact .inl ⟨_, listed, spelled⟩
  · rintro (⟨name, listed, spelled⟩ | ⟨pointed, exponent, rfl, first, last⟩)
    · exact .word listed spelled
    · exact .decimal first last

theorem isWordIgnoringCase_iff {word text : Text} :
    isWordIgnoringCase word text = true ↔ Text.Spells word text :=
  decide_eq_true_iff

theorem readFloat?_isSome_iff_unsigned (literal : Text) :
    (readFloat? literal).isSome = true ↔
      IsUnsignedFloat (readSign (withoutMargins literal)).2 := by
  unfold readFloat?
  rcases readSign (withoutMargins literal) with ⟨negative, unsigned⟩
  rw [isUnsignedFloat_iff negative]
  simp only [List.exists_mem_cons_iff, List.not_mem_nil, false_and, exists_false, or_false,
    Bool.or_eq_true, isWordIgnoringCase_iff]
  split
  · next infinite => exact iff_of_true rfl (.inl (infinite.elim .inl fun long => .inr (.inl long)))
  · next finite =>
      split
      · next undefined => exact iff_of_true rfl (.inl (.inr (.inr undefined)))
      · next defined =>
          rw [← or_assoc, or_iff_right (not_or.mpr ⟨finite, defined⟩)]
          split
          · next number read => exact iff_of_true rfl ⟨number, read⟩
          · next unread =>
              apply iff_of_false Bool.false_ne_true
              rintro ⟨number, read⟩
              exact unread number read

/-- The reader accepts the texts of the grammar, and no others. -/
theorem readFloat?_isSome_iff (literal : Text) :
    (readFloat? literal).isSome = true ↔ IsFloatLiteral literal := by
  rw [readFloat?_isSome_iff_unsigned]
  constructor
  · intro number
    rcases Text.exists_eq_append_trim isMargin literal with ⟨left, right, before, after, whole⟩
    rcases exists_of_readSign (Prod.eta (readSign (withoutMargins literal))).symm with
      ⟨sign, signed, parts⟩
    rw [whole, show Text.trim isMargin literal = _ from parts]
    exact .padded before signed number after
  · rintro ⟨before, signed, number, after⟩
    rw [withoutMargins, Text.trim_append_left before, Text.trim_append_right after,
      ← withoutMargins, withoutMargins_eq_self (signed.isUnspaced.append number.isUnspaced),
      readSign_append signed number.unsigned]
    exact number

end Linewise.Number
