import Linewise.Proofs.Reading
import Linewise.Proofs.Truth

/-!
Conditions that refer to integer variables, and conditions that name them. The digits of the value
replace a reference before the condition is read, so that a negative value brings a sign along. It
makes no difference, unless the variable is the base of a power or the value is too long to write.
-/

namespace Linewise

open Expression

/-! ## Ways of writing a variable -/

def marked (word : Text) : Text := '@' :: word

def named : Style := ⟨fun word => word, .name⟩

def pasted (value : Text → Int) : Style :=
  ⟨fun word => Text.ofInt (value word), fun word => .integer (value word)⟩

/-- Word characters beyond ASCII that are replaced in the names of expressions by characters that
count as the same, or that join with the character before them. -/
def replacedRanges : Text.CodeRanges :=
  [(0xAA, 0xBA), (0x132, 0x133), (0x13F, 0x140), (0x149, 0x149), (0x17F, 0x17F), (0x1C4, 0x1CC),
   (0x1F1, 0x1F3), (0x2B0, 0x2B8), (0x2E0, 0x2E4), (0x374, 0x374), (0x3D0, 0x3D6), (0x3F0, 0x3F2),
   (0x3F4, 0x3F5), (0x3F9, 0x3F9), (0x587, 0x587), (0x675, 0x678), (0x958, 0x95F), (0x9DC, 0x9DF),
   (0xA33, 0xA33), (0xA36, 0xA36), (0xA59, 0xA5B), (0xA5E, 0xA5E), (0xB5C, 0xB5D), (0xE33, 0xE33),
   (0xEB3, 0xEB3), (0xEDC, 0xEDD), (0xF43, 0xF43), (0xF4D, 0xF4D), (0xF52, 0xF52), (0xF57, 0xF57),
   (0xF5C, 0xF5C), (0xF69, 0xF69), (0x10FC, 0x10FC), (0x1161, 0x1175), (0x11A8, 0x11C2),
   (0x1D2C, 0x1D2E), (0x1D30, 0x1D3A), (0x1D3C, 0x1D4D), (0x1D4F, 0x1D6A), (0x1D78, 0x1D78),
   (0x1D9B, 0x1DBF), (0x1E9A, 0x1E9B), (0x1F71, 0x1F71), (0x1F73, 0x1F73), (0x1F75, 0x1F75),
   (0x1F77, 0x1F77), (0x1F79, 0x1F79), (0x1F7B, 0x1F7B), (0x1F7D, 0x1F7D), (0x1FBB, 0x1FBB),
   (0x1FBE, 0x1FBE), (0x1FC9, 0x1FC9), (0x1FCB, 0x1FCB), (0x1FD3, 0x1FD3), (0x1FDB, 0x1FDB),
   (0x1FE3, 0x1FE3), (0x1FEB, 0x1FEB), (0x1FF9, 0x1FF9), (0x1FFB, 0x1FFB), (0x2071, 0x2131),
   (0x2133, 0x2149), (0x2160, 0x217F), (0x2C7C, 0x2C7D), (0x2D6F, 0x2D6F), (0x3038, 0x303A),
   (0x309F, 0x309F), (0x30FF, 0x30FF), (0x3131, 0x318E), (0xA69C, 0xA69D), (0xA770, 0xA770),
   (0xA7F2, 0xA7F4), (0xA7F8, 0xA7F9), (0xAB5C, 0xAB5F), (0xAB69, 0xAB69), (0xF900, 0xFA0D),
   (0xFA10, 0xFA10), (0xFA12, 0xFA12), (0xFA15, 0xFA1E), (0xFA20, 0xFA20), (0xFA22, 0xFA22),
   (0xFA25, 0xFA26), (0xFA2A, 0xFE71), (0xFE77, 0xFFDC), (0x10781, 0x107BA), (0x1D400, 0x1D7FF),
   (0x1EE00, 0x1FBF9), (0x2F800, 0x2FA1D)]

def isKeptInNames (char : Char) : Bool := !replacedRanges.has char.toNat

/-- A name that means the same in references and in expressions. -/
structure IsPlainName (word : Text) : Prop where
  start : word.head?.any (fun char => Text.isAsciiLetter char || char = '_') = true
  inner : word.all (fun char => Text.isWord char && Text.isNamePart char) = true
  kept : word.all isKeptInNames = true
  free : keywords.lookup word = none
  unspelled : ∀ spelling ∈ spellings, ¬spelling.1 <:+: word
  unreserved : isReserved word = false

/-- A name that a reference can have. -/
structure IsReferable (name : Text) : Prop where
  start : name.head?.any (fun char => Text.isAsciiLetter char || char = '_') = true
  inner : name.all Text.isWord = true

def Bindings.integer (bindings : Bindings) (word : Text) : Int :=
  match bindings.meaning word with
  | some (.integer value) => value
  | _ => 0

/-- The name is a plain one, of an integer variable. -/
structure Bindings.HasInteger (bindings : Bindings) (word : Text) : Prop where
  plain : IsPlainName word
  stored : ∃ constant, bindings word =
    some ⟨DataType.integer.name, .integer (bindings.integer word), constant⟩

def IsShort (value : Int) : Prop := (Text.ofNat value.natAbs).length ≤ Fault.mostDigits

instance (value : Int) : Decidable (IsShort value) := Nat.decLe _ _

/-! ## Tokens of a variable

A name, and the digits of an integer after its sign, are each scanned as one token. -/

private theorem isNameStart_of_letter {char : Char}
    (letter : (Text.isAsciiLetter char || char = '_') = true) : Text.isNameStart char = true := by
  have small : char.toNat < 128 := by
    have order : ∀ {first second : Char}, first ≤ second → first.toNat ≤ second.toNat :=
      fun le => UInt32.le_iff_toNat_le.mp le
    simp only [Text.isAsciiLetter, Bool.or_eq_true, Bool.and_eq_true, decide_eq_true_eq] at letter
    rcases letter with (⟨-, le⟩ | ⟨-, le⟩) | rfl
    · exact Nat.lt_of_le_of_lt (order le) (by decide)
    · exact Nat.lt_of_le_of_lt (order le) (by decide)
    · decide
  rw [Text.isNameStart, if_pos small]
  exact letter

private theorem isSolid_of_isWord {char : Char} (isWord : Text.isWord char = true) :
    isSolid char = true := by
  rw [isSolid, Bool.not_eq_true', ← Bool.not_eq_true]
  intro gap
  rw [List.contains_eq_mem, decide_eq_true_eq] at gap
  simp only [List.mem_cons, List.not_mem_nil, or_false] at gap
  rcases gap with rfl | rfl | rfl | rfl | rfl | rfl <;> cases isWord

namespace IsPlainName

variable {word : Text} (plain : IsPlainName word)

include plain

theorem parts {char : Char} (member : char ∈ word) :
    Text.isWord char = true ∧ Text.isNamePart char = true :=
  Bool.and_eq_true_iff.mp (List.all_eq_true.mp plain.inner char member)

theorem isName : IsName word where
  start := by
    obtain ⟨char, first, letter⟩ := (Option.any_eq_true ..).mp plain.start
    exact (Option.any_eq_true ..).mpr ⟨char, first, isNameStart_of_letter letter⟩
  inner := List.all_eq_true.mpr fun char member => (plain.parts member).2
  free := plain.free

theorem isReferable : IsReferable word where
  start := plain.start
  inner := List.all_eq_true.mpr fun _ member => (plain.parts member).1

theorem scans : named.Scans word where
  present := by
    rintro (rfl : word = [])
    cases plain.start
  solid char member := isSolid_of_isWord (plain.parts member).1
  tokens depth _ apart := tokensFrom_name depth plain.isName apart

end IsPlainName

theorem tokensFrom_ofInt (depth : Nat) {value : Int} (short : IsShort value) {rest : Text}
    (apart : Apart rest) :
    tokensFrom depth (Text.ofInt value ++ rest) =
      (tokensFrom depth rest).map ((Leaf.integer value).tokens ++ ·) := by
  have digits := tokensFrom_number depth value.natAbs apart
  rw [if_neg (Nat.not_lt.mpr short)] at digits
  rw [Text.ofInt, Leaf.tokens, Leaf.isNegative]
  by_cases negative : value < 0
  · have clear : (Text.ofNat value.natAbs ++ rest).head?.any isSymbolic = false := by
      obtain ⟨head, tail, text, first⟩ := exists_ofNat_eq_cons value.natAbs
      have unsymbolic : isSymbolic head = false := of_isDigit first (by decide)
      rw [text]
      exact unsymbolic
    have sign := tokensFrom_sign depth .minus clear fun dot => by cases dot
    have inside : nesting? depth (.symbol .minus) = some depth := rfl
    rw [inside, Option.bind_some, digits] at sign
    simp only [negative, decide_true, if_true]
    refine sign.trans ?_
    cases tokensFrom depth rest <;> rfl
  · simp only [negative, decide_false, Bool.false_eq_true, if_false]
    exact digits

theorem pasted_scans {value : Text → Int} {word : Text} (short : IsShort (value word)) :
    (pasted value).Scans word where
  present := by
    have digits : Text.ofNat (value word).natAbs ≠ [] := Nat.toDigits_ne_nil
    simp only [pasted, Text.ofInt]
    split
    · exact List.cons_ne_nil _ _
    · exact digits
  solid char member := by
    have digits : ∀ char ∈ Text.ofNat (value word).natAbs, isSolid char = true :=
      fun char member => of_isDigit (isDigit_of_mem_ofNat member) (by decide)
    simp only [pasted, Text.ofInt] at member
    split at member
    · rcases List.mem_cons.mp member with rfl | member
      · decide
      · exact digits char member
    · exact digits char member
  tokens depth _ apart := tokensFrom_ofInt depth short apart

/-! ## Spellings in formulas -/

theorem respell_append {rest : Text} (apart : Apart rest) (text : Text) :
    respell (text ++ rest) = respell text ++ respell rest := by
  rcases apart with rfl | ⟨tail, rfl⟩
  · rw [respell_nil, List.append_nil, List.append_nil]
  · rw [respell_append_cons (by decide), respell_cons (by decide)]

private theorem spelling_letters :
    ∀ spelling ∈ spellings, spelling.1.any Text.isAsciiLetter = true := by
  decide

theorem respell_of_letterless {text : Text}
    (letterless : ∀ char ∈ text, Text.isAsciiLetter char = false) : respell text = text := by
  rw [respell_eq_self_iff]
  intro spelling member within
  obtain ⟨char, inside, letter⟩ := List.any_eq_true.mp (spelling_letters spelling member)
  rw [letterless char (within.subset inside)] at letter
  cases letter

private theorem signText_letterless (symbol : Symbol) :
    (signText symbol).all (fun char => !Text.isAsciiLetter char) = true := by
  cases symbol <;> decide

private theorem letterless_of_mem_ofNat {value : Nat} {char : Char}
    (member : char ∈ Text.ofNat value) : Text.isAsciiLetter char = false :=
  of_isDigit (isDigit_of_mem_ofNat member) (by decide)

theorem respell_ofInt (value : Int) : respell (Text.ofInt value) = Text.ofInt value := by
  apply respell_of_letterless
  intro char member
  rw [Text.ofInt] at member
  split at member
  · rcases List.mem_cons.mp member with rfl | member
    · decide
    · exact letterless_of_mem_ofNat member
  · exact letterless_of_mem_ofNat member

theorem respell_spaced {write : Text → Text} {lexemes : List Lexeme}
    (fixed : ∀ word, .name word ∈ lexemes → respell (write word) = write word) :
    respell (spaced write lexemes) = spaced write lexemes := by
  induction lexemes with
  | nil => rfl
  | cons lexeme rest induction =>
      have lexeme_fixed : respell (lexeme.text write) = lexeme.text write := by
        cases lexeme with
        | number value => exact respell_of_letterless fun char => letterless_of_mem_ofNat
        | name word => exact fixed word List.mem_cons_self
        | sign symbol =>
            have letterless := List.all_eq_true.mp (signText_letterless symbol)
            exact respell_of_letterless fun char member => by simpa using letterless char member
      rw [spaced_cons, respell_cons (by decide), respell_append (apart_spaced write rest),
        lexeme_fixed, induction fun word member => fixed word (List.mem_cons_of_mem lexeme member)]

theorem Formula.respell_written {write : Text → Text} {formula : Formula}
    (fixed : ∀ word ∈ formula.names, respell (write word) = write word) :
    respell (formula.written write) = formula.written write := by
  have whole := respell_spaced fun word member => fixed word (mem_names.mp member)
  rw [spaced_eq_cons, respell_cons (by decide)] at whole
  exact (List.cons.inj whole).2

/-! ## References in formulas

A reference is replaced by the text of its integer, and nothing else of a formula is changed. -/

section Substitution

variable {bindings : Bindings}

private theorem substituteFrom_drop (skipped : Nat) (text : Text) :
    substituteFrom bindings skipped text = substitute bindings (text.drop skipped) := by
  induction skipped generalizing text with
  | zero => rfl
  | succ skipped induction =>
      cases text with
      | nil => rfl
      | cons head tail => exact induction tail

theorem substitute_cons {head : Char} {tail : Text}
    (alone : bindings.referenceAt? head tail = none) :
    substitute bindings (head :: tail) = (substitute bindings tail).map (head :: ·) := by
  rw [substitute, substituteFrom, alone]
  simp only [bind, Except.bind, pure, Except.pure, substitute]
  cases substituteFrom bindings 0 tail <;> rfl

theorem substitute_append {text : Text}
    (unmarked : ∀ char ∈ text, Reference.ofMark? char = none) (rest : Text) :
    substitute bindings (text ++ rest) = (substitute bindings rest).map (text ++ ·) := by
  induction text with
  | nil =>
      rw [List.nil_append]
      cases substitute bindings rest <;> rfl
  | cons head tail induction =>
      rw [List.forall_mem_cons] at unmarked
      have alone : bindings.referenceAt? head (tail ++ rest) = none := by
        rw [Bindings.referenceAt?, unmarked.1]
        rfl
      rw [List.cons_append, substitute_cons alone, induction unmarked.2]
      cases substitute bindings rest <;> rfl

theorem unmarked_of_isWord {char : Char} (isWord : Text.isWord char = true) :
    Reference.ofMark? char = none := by
  cases mark : Reference.ofMark? char with
  | none => rfl
  | some reference =>
      unfold Reference.ofMark? at mark
      split at mark
      · cases isWord
      · cases isWord
      · cases mark

/-- A name takes along the word characters that follow it, so none may follow. -/
theorem leadingName_append {name : Text} (referable : IsReferable name) {rest : Text}
    (ended : rest.head?.any Text.isWord = false) : leadingName (name ++ rest) = name := by
  have inner : ∀ char ∈ name, Text.isWord char = true := List.all_eq_true.mp referable.inner
  have stops : rest.takeWhile Text.isWord = [] := by
    cases rest with
    | nil => rfl
    | cons next after => exact List.takeWhile_cons_of_neg (Bool.eq_false_iff.mp ended)
  have start := referable.start
  cases name with
  | nil => cases start
  | cons head tail =>
      have letter : (Text.isAsciiLetter head || head = '_') = true := start
      rw [List.cons_append, leadingName, if_pos letter, ← List.cons_append,
        List.takeWhile_append_of_pos inner, stops, List.append_nil]

/-- A reference to a name is replaced, or stays if the name stands for nothing. -/
theorem substitute_reference {mark : Char} {reference : Reference}
    (marks : Reference.ofMark? mark = some reference) {name : Text} (referable : IsReferable name)
    {rest : Text} (ended : rest.head?.any Text.isWord = false) :
    substitute bindings (mark :: (name ++ rest)) =
      ((bindings.referenceText? reference name).getD (.ok (mark :: name))).bind fun text =>
        (substitute bindings rest).map (text ++ ·) := by
  have leading := leadingName_append referable ended
  have nonempty : name.isEmpty = false := by
    cases name with
    | nil => cases referable.start
    | cons head tail => rfl
  cases found : bindings.referenceText? reference name with
  | none =>
      have alone : bindings.referenceAt? mark (name ++ rest) = none := by
        simp only [Bindings.referenceAt?, marks, leading, nonempty, found, bind,
          Option.bind, Bool.false_eq_true, if_false]
      have inner : ∀ char ∈ name, Reference.ofMark? char = none := fun char member =>
        unmarked_of_isWord (List.all_eq_true.mp referable.inner char member)
      rw [substitute_cons alone, substitute_append inner]
      cases substitute bindings rest <;> rfl
  | some replacement =>
      have covered : bindings.referenceAt? mark (name ++ rest) =
          some (replacement, name.length) := by
        simp only [Bindings.referenceAt?, marks, leading, nonempty, found, bind,
          Option.bind, Bool.false_eq_true, if_false, pure]
      rw [substitute, substituteFrom, covered]
      simp only [substituteFrom_drop, List.drop_left, Option.getD_some]
      cases replacement with
      | error cause => rfl
      | ok text => cases substitute bindings rest <;> rfl

theorem substitute_marked {word rest : Text} (plain : IsPlainName word) (apart : Apart rest)
    {stored : Variable} (found : bindings word = some stored) :
    substitute bindings (marked word ++ rest) =
      stored.mention.bind fun text => (substitute bindings rest).map (text ++ ·) := by
  have reference : bindings.referenceText? .value word = some stored.mention := by
    rw [Bindings.referenceText?, plain.unreserved, found]
    rfl
  rw [marked, List.cons_append,
    substitute_reference rfl plain.isReferable (apart.head?_any Text.isWord (by decide)), reference]
  rfl

private theorem unmarked_of_mem_ofNat {value : Nat} {char : Char}
    (member : char ∈ Text.ofNat value) : Reference.ofMark? char = none :=
  of_isDigit (isDigit_of_mem_ofNat member) (by decide)

private theorem signText_unmarked (symbol : Symbol) :
    symbol = .atSign ∨ (signText symbol).all (fun char => (Reference.ofMark? char).isNone) := by
  cases symbol <;> decide

theorem substitute_sign (symbol : Symbol) {rest : Text} (apart : Apart rest) :
    substitute bindings (signText symbol ++ rest) =
      (substitute bindings rest).map (signText symbol ++ ·) := by
  rcases signText_unmarked symbol with rfl | unmarked
  · apply substitute_cons
    rcases apart with rfl | ⟨tail, rfl⟩ <;> rfl
  · exact substitute_append
      (fun char member => Option.isNone_iff_eq_none.mp (List.all_eq_true.mp unmarked char member))
      rest

theorem substitute_spaced {write becomes : Text → Text} {lexemes : List Lexeme}
    (each : ∀ word, .name word ∈ lexemes → ∀ {rest}, Apart rest →
      substitute bindings (write word ++ rest) =
        (substitute bindings rest).map (becomes word ++ ·)) :
    substitute bindings (spaced write lexemes) = .ok (spaced becomes lexemes) := by
  induction lexemes with
  | nil => rfl
  | cons lexeme rest induction =>
      have apart := apart_spaced write rest
      have remaining := induction fun word member => each word (List.mem_cons_of_mem lexeme member)
      have replaced : substitute bindings (lexeme.text write ++ spaced write rest) =
          .ok (lexeme.text becomes ++ spaced becomes rest) := by
        cases lexeme with
        | number value =>
            rw [Lexeme.text, substitute_append fun char => unmarked_of_mem_ofNat, remaining]
            rfl
        | name word =>
            rw [Lexeme.text, each word List.mem_cons_self apart, remaining]
            rfl
        | sign symbol =>
            rw [Lexeme.text, substitute_sign symbol apart, remaining]
            rfl
      rw [spaced_cons, substitute_cons rfl, replaced, spaced_cons]
      rfl

theorem Formula.substitute_written {write becomes : Text → Text} {formula : Formula}
    (each : ∀ word ∈ formula.names, ∀ {rest}, Apart rest →
      substitute bindings (write word ++ rest) =
        (substitute bindings rest).map (becomes word ++ ·)) :
    substitute bindings (formula.written write) = .ok (formula.written becomes) := by
  have whole := substitute_spaced fun word member => each word (mem_names.mp member)
  rw [spaced_eq_cons, spaced_eq_cons, substitute_cons rfl] at whole
  cases replaced : substitute bindings (formula.written write) with
  | error cause =>
      rw [replaced] at whole
      cases whole
  | ok text =>
      rw [replaced] at whole
      cases whole
      rfl

end Substitution

/-! ## Values of formulas

Only the base of a power tells pasted digits from a name: a sign before them is applied after the
power. -/

theorem Variable.mention_integer (value : Int) (constant : Bool) :
    Variable.mention ⟨DataType.integer.name, .integer value, constant⟩ =
      Value.writeInteger value := by
  have notTruth : Variable.hasType ⟨DataType.integer.name, .integer value, constant⟩ .truth =
      false := rfl
  have numeric : Variable.isNumeric ⟨DataType.integer.name, .integer value, constant⟩ = true := rfl
  rw [Variable.mention, notTruth, numeric]
  rfl

theorem Value.writeInteger_of_short {value : Int} (short : IsShort value) :
    writeInteger value = .ok (Text.ofInt value) := if_neg (Nat.not_lt.mpr short)

theorem Value.writeInteger_of_long {value : Int} (long : ¬IsShort value) :
    writeInteger value = .error .tooLongToWrite := if_pos (Nat.not_le.mp long)

theorem BinaryOperator.power_zero (base : Int) :
    BinaryOperator.power.apply (.integer base) (.integer 0) = .ok (.integer 1) := by
  have raised : BinaryOperator.power.apply (.integer base) (.integer 0) = integerPower base 0 := rfl
  have fits : ¬greatestSize < base.natAbs.log2 * (0 : Int).toNat := Nat.not_lt_zero _
  rw [raised, integerPower, if_neg (by decide), if_neg fits]
  exact congrArg (fun number => Except.ok (Value.integer number)) (Int.pow_zero base)

/-- The variables that are the base of a power. -/
def Formula.bases : Formula → List Text
  | number _ | name _ => []
  | operate operation left right =>
      match operation, left with
      | .power, name word => word :: right.bases
      | _, left => left.bases ++ right.bases
  | relate _ left right => left.bases ++ right.bases

theorem Evaluating.current_integer (number : Int) :
    current (.integer number) = pure (.integer number) := by
  funext memory
  have same : (Value.integer number).revised memory.revision = .integer number :=
    Value.revised_of_isImmutable memory.revision rfl
  exact congrArg (fun value => (Except.ok value, memory)) same

namespace Bindings.HasInteger

variable {bindings : Bindings} {word : Text} (has : bindings.HasInteger word)

include has

theorem meaning_eq : bindings.meaning word = some (.integer (bindings.integer word)) := by
  obtain ⟨constant, found⟩ := has.stored
  rw [meaning, found]
  rfl

theorem substitute_marked (short : IsShort (bindings.integer word)) {rest : Text}
    (apart : Apart rest) :
    substitute bindings (marked word ++ rest) =
      (substitute bindings rest).map ((pasted bindings.integer).text word ++ ·) := by
  obtain ⟨constant, found⟩ := has.stored
  rw [Linewise.substitute_marked has.plain apart found, Variable.mention_integer,
    Value.writeInteger_of_short short]
  rfl

theorem substitute_named (rest : Text) :
    substitute bindings (named.text word ++ rest) =
      (substitute bindings rest).map (named.text word ++ ·) :=
  substitute_append (fun _ member => unmarked_of_isWord (has.plain.parts member).1) rest

theorem evaluate_name :
    (Expr.name word).evaluate bindings.meaning = pure (.integer (bindings.integer word)) := by
  rw [Expr.evaluate, has.meaning_eq]
  exact Evaluating.current_integer _

theorem evaluate_leaf :
    ((Leaf.integer (bindings.integer word)).signed
        (Leaf.integer (bindings.integer word)).magnitude).evaluate bindings.meaning =
      (Expr.name word).evaluate bindings.meaning := by
  rw [has.evaluate_name, Leaf.signed, Leaf.isNegative, Leaf.magnitude]
  by_cases negative : bindings.integer word < 0
  · have sign : -(((bindings.integer word).natAbs : Nat) : Int) = bindings.integer word := by omega
    simp only [negative, decide_true, if_true, Expr.evaluate]
    exact congrArg (fun number => (pure (Value.integer number) : Evaluating Value)) sign
  · have sign : (((bindings.integer word).natAbs : Nat) : Int) = bindings.integer word := by omega
    simp only [negative, decide_false, Bool.false_eq_true, if_false, Expr.evaluate, sign]

end Bindings.HasInteger

/-- Induction over formulas, with a case of its own for the powers of a variable. -/
theorem Formula.induction_powers {motive : Formula → Prop}
    (number : ∀ value, motive (.number value)) (name : ∀ word, motive (.name word))
    (power : ∀ word right, motive right → motive (.operate .power (.name word) right))
    (operate : ∀ operation left right,
      (∀ word, operation = .power → left = .name word → False) → motive left → motive right →
        motive (.operate operation left right))
    (relate : ∀ relation left right, motive left → motive right →
      motive (.relate relation left right)) (formula : Formula) : motive formula := by
  induction formula with
  | number value => exact number value
  | name word => exact name word
  | operate operation left right leftInduction rightInduction =>
      by_cases special : operation = .power ∧ ∃ word, left = .name word
      · rcases special with ⟨rfl, word, rfl⟩
        exact power word right rightInduction
      · apply operate operation left right _ leftInduction rightInduction
        intro word isPower isName
        exact special ⟨isPower, word, isName⟩
  | relate relation left right leftInduction rightInduction =>
      exact relate relation left right leftInduction rightInduction

theorem Formula.bases_subset_names {formula : Formula} {word : Text}
    (member : word ∈ formula.bases) : word ∈ formula.names := by
  induction formula using induction_powers with
  | number value => cases member
  | name other => cases member
  | power base right induction =>
      rw [bases, List.mem_cons] at member
      rcases member with rfl | member
      · exact List.mem_cons_self
      · exact List.mem_append_right _ (induction member)
  | operate operation left right ordinary leftInduction rightInduction =>
      rw [bases, List.mem_append] at member
      · exact List.mem_append.mpr (member.imp leftInduction rightInduction)
      · exact ordinary
  | relate relation left right leftInduction rightInduction =>
      exact List.mem_append.mpr ((List.mem_append.mp member).imp leftInduction rightInduction)

theorem Formula.expression_power (leaf : Text → Leaf) {word : Text}
    (unsigned : (leaf word).isNegative = false) (right : Formula) :
    (operate .power (name word) right).expression leaf =
      .binary .power (leaf word).magnitude (right.expression leaf) := by
  rw [expression, Leaf.signed, unsigned]
  rfl

/-- Digits and names give a formula the same value, if no base of a power is negative. -/
theorem Formula.evaluate_pasted {bindings : Bindings} {formula : Formula}
    (has : ∀ word ∈ formula.names, bindings.HasInteger word)
    (unsigned : ∀ word ∈ formula.bases, 0 ≤ bindings.integer word) :
    (formula.expression (pasted bindings.integer).leaf).evaluate bindings.meaning =
      (formula.expression named.leaf).evaluate bindings.meaning := by
  induction formula using induction_powers with
  | number value => rfl
  | name word => exact (has word List.mem_cons_self).evaluate_leaf
  | power word right induction =>
      rw [names, List.forall_mem_append] at has
      rw [bases, List.forall_mem_cons] at unsigned
      have positive : (Leaf.integer (bindings.integer word)).isNegative = false :=
        decide_eq_false (Int.not_lt.mpr unsigned.1)
      have base := (has.1 word List.mem_cons_self).evaluate_leaf
      rw [Leaf.signed, positive, if_neg Bool.false_ne_true] at base
      have exponent := induction has.2 unsigned.2
      have unsignedName : (named.leaf word).isNegative = false := rfl
      rw [expression_power (pasted bindings.integer).leaf positive,
        expression_power named.leaf unsignedName, Expr.evaluate, Expr.evaluate, exponent]
      exact congrArg (· >>= _) base
  | operate operation left right ordinary leftInduction rightInduction =>
      rw [names, List.forall_mem_append] at has
      rw [bases, List.forall_mem_append] at unsigned
      · rw [expression, expression]
        · simp only [Expr.evaluate, leftInduction has.1 unsigned.1, rightInduction has.2 unsigned.2]
        · exact ordinary
        · exact ordinary
      · exact ordinary
  | relate relation left right leftInduction rightInduction =>
      rw [names, List.forall_mem_append] at has
      rw [bases, List.forall_mem_append] at unsigned
      simp only [expression, Expr.evaluate, Expr.allHold, leftInduction has.1 unsigned.1,
        rightInduction has.2 unsigned.2]

/-! ## Outcomes -/

namespace Condition

/-- The outcome of a condition; what failed is told without the condition itself. -/
def outcome (bindings : Bindings) (condition : Text) : Except Error Bool :=
  match holds bindings condition with
  | .error (.condition _ cause) => .error cause
  | result => result

theorem outcome_eq {bindings : Bindings} {condition source : Text} {result : Except Fault Value}
    (substituted : substitute bindings condition = .ok source)
    (came : (evaluatePlain (respell source) bindings.meaning).result = some result) :
    outcome bindings condition = (result >>= resultTruth).mapError .calculation := by
  rw [outcome, holds_eq substituted came]
  cases result >>= resultTruth <;> rfl

theorem outcome_fault {bindings : Bindings} {condition : Text} {fault : Fault}
    (failed : substitute bindings condition = .error fault) :
    outcome bindings condition = .error (.fault fault) := by
  rw [outcome, holds, failed]
  rfl

end Condition

namespace Formula

def evaluation (formula : Formula) (leaf : Text → Leaf) (meaning : Meaning) : Evaluation :=
  if admitted 0 formula.lexemes then (formula.expression leaf).evaluation meaning
  else ⟨some (.error .invalidSyntax), .none⟩

def result (formula : Formula) (leaf : Text → Leaf) (meaning : Meaning) : Except Fault Value :=
  if admitted 0 formula.lexemes then
    (((formula.expression leaf).evaluate meaning).run.run ⟨[], 0⟩).1
  else .error .invalidSyntax

theorem result_evaluation (formula : Formula) (leaf : Text → Leaf) (meaning : Meaning) :
    (formula.evaluation leaf meaning).result = some (formula.result leaf meaning) := by
  unfold evaluation result
  split <;> rfl

variable {bindings : Bindings} {formula : Formula}

theorem evaluatePlain_named (plain : ∀ word ∈ formula.names, IsPlainName word)
    (meaning : Meaning) :
    evaluatePlain (respell (formula.written named.text)) meaning =
      formula.evaluation named.leaf meaning := by
  have fixed : ∀ word ∈ formula.names, respell (named.text word) = named.text word :=
    fun word member => (respell_eq_self_iff word).mpr (plain word member).unspelled
  have scans : ∀ word ∈ formula.names, named.Scans word :=
    fun word member => (plain word member).scans
  rw [respell_written fixed, evaluatePlain, read?_written scans, evaluation]
  cases admitted 0 formula.lexemes <;> rfl

private theorem outcome_written {write : Text → Text} {style : Style}
    (scans : ∀ word ∈ formula.names, style.Scans word)
    (fixed : ∀ word ∈ formula.names, respell (style.text word) = style.text word)
    (each : ∀ word ∈ formula.names, ∀ {rest}, Apart rest →
      substitute bindings (write word ++ rest) =
        (substitute bindings rest).map (style.text word ++ ·)) :
    Condition.outcome bindings (formula.written write) =
      (formula.result style.leaf bindings.meaning >>= Condition.resultTruth).mapError
        .calculation := by
  apply Condition.outcome_eq (substitute_written each)
  rw [← result_evaluation, respell_written fixed, evaluatePlain, read?_written scans, evaluation]
  cases admitted 0 formula.lexemes <;> rfl

theorem outcome_marked
    (has : ∀ word ∈ formula.names, bindings.HasInteger word ∧ IsShort (bindings.integer word)) :
    Condition.outcome bindings (formula.written marked) =
      (formula.result (pasted bindings.integer).leaf bindings.meaning
        >>= Condition.resultTruth).mapError .calculation :=
  outcome_written (fun word member => pasted_scans (has word member).2)
    (fun word _ => respell_ofInt (bindings.integer word))
    fun word member _ apart => (has word member).1.substitute_marked (has word member).2 apart

theorem outcome_named (has : ∀ word ∈ formula.names, bindings.HasInteger word) :
    Condition.outcome bindings (formula.written named.text) =
      (formula.result named.leaf bindings.meaning >>= Condition.resultTruth).mapError
        .calculation :=
  outcome_written (fun word member => (has word member).plain.scans)
    (fun word member => (respell_eq_self_iff word).mpr (has word member).plain.unspelled)
    fun word member rest _ => (has word member).substitute_named rest

def zerothPower (word : Text) : Formula :=
  .relate .greater (.operate .power (.name word) (.number 0)) (.number 0)

end Formula

namespace Bindings.HasInteger

variable {bindings : Bindings} {word : Text} (has : bindings.HasInteger word)

include has

/-- A value that is too long to write can be named, but not referred to. -/
theorem outcome_of_long (long : ¬IsShort (bindings.integer word)) :
    Condition.outcome bindings ((Formula.name word).written marked) =
        .error (.fault .tooLongToWrite) ∧
      Condition.outcome bindings ((Formula.name word).written named.text) =
        .ok (bindings.integer word != 0) := by
  constructor
  · obtain ⟨constant, found⟩ := has.stored
    have whole : (Formula.name word).written marked = marked word ++ [] := by
      rw [List.append_nil]
      exact @List.intercalate_singleton Char [' '] (marked word)
    have unwritable : Value.writeInteger (bindings.integer word) = .error .tooLongToWrite :=
      if_pos (Nat.not_le.mp long)
    apply Condition.outcome_fault
    rw [whole, Linewise.substitute_marked has.plain (.inl rfl) found, Variable.mention_integer,
      unwritable]
    rfl
  · have value : (Formula.name word).result named.leaf bindings.meaning =
        .ok (.integer (bindings.integer word)) := by
      have read : (Formula.name word).result named.leaf bindings.meaning =
          (((Expr.name word).evaluate bindings.meaning).run.run ⟨[], 0⟩).1 := rfl
      rw [read, has.evaluate_name]
      rfl
    rw [Formula.outcome_named (by simpa [Formula.names] using has), value]
    rfl

/-- Before the power a sign makes a difference. -/
theorem outcome_of_negative (short : IsShort (bindings.integer word))
    (negative : bindings.integer word < 0) :
    Condition.outcome bindings ((Formula.zerothPower word).written marked) = .ok false ∧
      Condition.outcome bindings ((Formula.zerothPower word).written named.text) = .ok true := by
  constructor
  · rw [Formula.outcome_marked (by simpa [Formula.zerothPower, Formula.names] using ⟨has, short⟩)]
    have value : (Formula.zerothPower word).result (pasted bindings.integer).leaf
        bindings.meaning = .ok (.boolean false) := by
      have signed : (Leaf.integer (bindings.integer word)).isNegative = true :=
        decide_eq_true negative
      have read : (Formula.zerothPower word).result (pasted bindings.integer).leaf
          bindings.meaning = (((Expr.comparison ((Leaf.integer (bindings.integer word)).signed
            (.binary .power (.literal (.integer (bindings.integer word).natAbs))
              (.literal (.integer 0)))) [(.greater, .literal (.integer 0))]).evaluate
                bindings.meaning).run.run ⟨[], 0⟩).1 := rfl
      rw [read, Leaf.signed, signed, if_pos rfl]
      simp only [Expr.evaluate, pure_bind, Evaluating.current_integer, BinaryOperator.power_zero]
      rfl
    rw [value]
    rfl
  · rw [Formula.outcome_named (by simpa [Formula.zerothPower, Formula.names] using has)]
    have value : (Formula.zerothPower word).result named.leaf bindings.meaning =
        .ok (.boolean true) := by
      have read : (Formula.zerothPower word).result named.leaf bindings.meaning =
          (((Expr.comparison (.binary .power (.name word) (.literal (.integer 0)))
            [(.greater, .literal (.integer 0))]).evaluate bindings.meaning).run.run ⟨[], 0⟩).1 :=
        rfl
      have base := has.evaluate_name
      rw [Expr.evaluate] at base
      rw [read]
      simp only [Expr.evaluate, base, pure_bind, Evaluating.current_integer,
        BinaryOperator.power_zero]
      rfl
    rw [value]
    rfl

end Bindings.HasInteger

/-- A condition about integer variables has the same outcome with references as with names, if no
variable that is the base of a power is negative and all values can be written. More cannot be
had: with a variable that is negative or too long to write, some conditions differ. -/
theorem Condition.outcome_marked_eq_named (bindings : Bindings) :
    (∀ formula : Formula,
      (∀ word ∈ formula.names, bindings.HasInteger word ∧ IsShort (bindings.integer word)) →
      (∀ word ∈ formula.bases, 0 ≤ bindings.integer word) →
      outcome bindings (formula.written marked) = outcome bindings (formula.written named.text)) ∧
    ((∀ formula : Formula, (∀ word ∈ formula.names, bindings.HasInteger word) →
        outcome bindings (formula.written marked) = outcome bindings (formula.written named.text)) ↔
      ∀ word, bindings.HasInteger word →
        IsShort (bindings.integer word) ∧ 0 ≤ bindings.integer word) := by
  have agree : ∀ formula : Formula,
      (∀ word ∈ formula.names, bindings.HasInteger word ∧ IsShort (bindings.integer word)) →
      (∀ word ∈ formula.bases, 0 ≤ bindings.integer word) →
      outcome bindings (formula.written marked) =
        outcome bindings (formula.written named.text) := by
    intro formula has unsigned
    have byName : ∀ word ∈ formula.names, bindings.HasInteger word :=
      fun word member => (has word member).1
    rw [Formula.outcome_marked has, Formula.outcome_named byName, Formula.result, Formula.result,
      Formula.evaluate_pasted byName unsigned]
  refine ⟨agree, fun always word has => ?_, fun all formula has => ?_⟩
  · have short : IsShort (bindings.integer word) := by
      by_contra long
      obtain ⟨failed, found⟩ := has.outcome_of_long long
      have equal := always (.name word) (by simpa [Formula.names] using has)
      rw [failed, found] at equal
      cases equal
    refine ⟨short, Int.not_lt.mp fun negative => ?_⟩
    obtain ⟨refuted, held⟩ := has.outcome_of_negative short negative
    have equal := always (Formula.zerothPower word)
      (by simpa [Formula.zerothPower, Formula.names] using has)
    rw [refuted, held] at equal
    cases equal
  · refine agree formula (fun word member => ⟨has word member, (all word (has word member)).1⟩) ?_
    intro word member
    exact (all word (has word (Formula.bases_subset_names member))).2

/-- With a variable that is minus two, conditions differ. -/
theorem Condition.outcome_marked_eq_named_minusTwo :
    let bindings : Bindings := fun word =>
      if word = ['x'] then some ⟨DataType.integer.name, .integer (-2), false⟩ else none
    bindings.HasInteger ['x'] ∧ ¬∀ formula : Formula,
      (∀ word ∈ formula.names, bindings.HasInteger word) →
        outcome bindings (formula.written marked) =
          outcome bindings (formula.written named.text) := by
  intro bindings
  have plain : IsPlainName ['x'] :=
    ⟨by decide, by decide, by decide, by decide, by decide, by decide⟩
  have has : bindings.HasInteger ['x'] := ⟨plain, false, rfl⟩
  refine ⟨has, fun always => ?_⟩
  have unsigned : 0 ≤ bindings.integer ['x'] :=
    ((outcome_marked_eq_named bindings).2.mp always ['x'] has).2
  revert unsigned
  decide

end Linewise
