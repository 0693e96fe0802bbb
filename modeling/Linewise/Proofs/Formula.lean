import Linewise.Expression.Reader
import Linewise.Proofs.Respelling
import Linewise.Proofs.Text
import Mathlib.Data.List.Find

/-!
Integer formulas and their tokens. A formula is written with brackets only where the precedence of
its operators needs them, and with single spaces between its lexemes. How a variable is written is
left open, as long as it makes the same tokens wherever it stands; so formulas that differ only in
that are tokenized alike.
-/

namespace Linewise

open Expression (Symbol Token)

/-! ## Formulas -/

inductive Operation
  | add
  | subtract
  | multiply
  | floorDivide
  | remainder
  | power
deriving DecidableEq, Repr

inductive Relation
  | less
  | greater
  | lessOrEqual
  | greaterOrEqual
  | equal
  | notEqual
deriving DecidableEq, Repr

inductive Formula
  | number (value : Nat)
  | name (name : Text)
  | operate (operation : Operation) (left right : Formula)
  | relate (relation : Relation) (left right : Formula)
deriving DecidableEq, Repr

namespace Operation

def symbol : Operation → Symbol
  | add => .plus
  | subtract => .minus
  | multiply => .star
  | floorDivide => .doubleSlash
  | remainder => .percent
  | power => .doubleStar

def operator : Operation → BinaryOperator
  | add => .add
  | subtract => .subtract
  | multiply => .multiply
  | floorDivide => .floorDivide
  | remainder => .remainder
  | power => .power

def level : Operation → Nat
  | add | subtract => 1
  | multiply | floorDivide | remainder => 2
  | power => 3

/-- The least level of a left operand without brackets. Only powers group to the right. -/
def leftLevel : Operation → Nat
  | power => 4
  | operation => operation.level

def rightLevel : Operation → Nat
  | power => 3
  | operation => operation.level + 1

end Operation

namespace Relation

def symbol : Relation → Symbol
  | less => .less
  | greater => .greater
  | lessOrEqual => .lessEqual
  | greaterOrEqual => .greaterEqual
  | equal => .equal
  | notEqual => .notEqual

def comparison : Relation → Comparison
  | less => .less
  | greater => .greater
  | lessOrEqual => .lessOrEqual
  | greaterOrEqual => .greaterOrEqual
  | equal => .equal
  | notEqual => .notEqual

end Relation

/-- What stands between two spaces of a written formula. -/
inductive Lexeme
  | number (value : Nat)
  | name (name : Text)
  | sign (symbol : Symbol)
deriving DecidableEq, Repr

namespace Formula

def names : Formula → List Text
  | number _ => []
  | name word => [word]
  | operate _ left right | relate _ left right => left.names ++ right.names

/-- Relations bind loosest, and an operand of any operation needs no brackets if it is a number or a
variable. -/
def level : Formula → Nat
  | number _ | name _ => 4
  | operate operation _ _ => operation.level
  | relate _ _ _ => 0

def bracketed (needed level : Nat) (lexemes : List Lexeme) : List Lexeme :=
  if level < needed then .sign .leftParen :: lexemes ++ [.sign .rightParen] else lexemes

def lexemes : Formula → List Lexeme
  | number value => [.number value]
  | name word => [.name word]
  | operate operation left right =>
      bracketed operation.leftLevel left.level left.lexemes
        ++ .sign operation.symbol :: bracketed operation.rightLevel right.level right.lexemes
  | relate relation left right =>
      bracketed 1 left.level left.lexemes
        ++ .sign relation.symbol :: bracketed 1 right.level right.lexemes

end Formula

/-! ## Writing

A style says how the names of a formula are written. The lexemes are separated by spaces. -/

def signText (symbol : Symbol) : Text :=
  ((Expression.symbols.find? fun entry => entry.2 = symbol).map Prod.fst).getD []

/-- What stands for a variable in tokens: a name, or an integer. -/
inductive Leaf
  | name (word : Text)
  | integer (value : Int)
deriving DecidableEq, Repr

namespace Leaf

/-- There are no negative numbers among tokens, only a minus sign before a number. -/
def isNegative : Leaf → Bool
  | name _ => false
  | integer value => value < 0

def token : Leaf → Token
  | name word => .name word
  | integer value => .number (.integer value.natAbs)

def tokens (leaf : Leaf) : List Token :=
  if leaf.isNegative then [.symbol .minus, leaf.token] else [leaf.token]

end Leaf

/-- A way of writing variables, and what it makes of them. -/
structure Style where
  text : Text → Text
  leaf : Text → Leaf

namespace Lexeme

def text (write : Text → Text) : Lexeme → Text
  | number value => Text.ofNat value
  | name word => write word
  | sign symbol => signText symbol

def tokens (style : Style) : Lexeme → List Token
  | number value => [.number (.integer value)]
  | name word => (style.leaf word).tokens
  | sign symbol => [.symbol symbol]

end Lexeme

def Formula.written (formula : Formula) (write : Text → Text) : Text :=
  Text.join [' '] (formula.lexemes.map (Lexeme.text write))

def Formula.tokens (formula : Formula) (style : Style) : List Token :=
  formula.lexemes.flatMap (Lexeme.tokens style)

namespace Expression

/-! ## Tokens

A lexeme is scanned by itself if what follows cannot continue it. -/

def Apart (rest : Text) : Prop := rest = [] ∨ ∃ tail, rest = ' ' :: tail

theorem tokensFrom_space (depth : Nat) (rest : Text) :
    tokensFrom depth (' ' :: rest) = tokensFrom depth rest := by
  rw [tokensFrom.eq_def]
  rfl

def isGap (char : Char) : Bool :=
  isSpace char || char = '#' || char = '\n' || char = '\\'

theorem tokensFrom_cons {head : Char} (visible : isGap head = false) (depth : Nat)
    (tail : Text) :
    tokensFrom depth (head :: tail) =
      match nextToken (head :: tail) with
      | none => none
      | some (token, rest) =>
          if rest.length < (head :: tail).length then
            (nesting? depth token).bind fun inner => (tokensFrom inner rest).map (token :: ·)
          else none := by
  simp only [isGap, Bool.or_eq_false_iff, decide_eq_false_iff_not] at visible
  obtain ⟨⟨⟨space, comment⟩, feed⟩, backslash⟩ := visible
  rw [tokensFrom.eq_def]
  simp only [space, comment, feed, backslash, Bool.false_eq_true, if_false]
  cases nextToken (head :: tail) with
  | none => rfl
  | some found =>
      simp only [dite_eq_ite]
      cases nesting? depth found.1 <;> rfl

private theorem startsWith_append {start rest : Text} (foreign : ∀ char ∈ rest.head?, char ∉ start)
    (text : Text) : Text.startsWith (text ++ rest) start = Text.startsWith text start := by
  cases rest with
  | nil => rw [List.append_nil]
  | cons head tail =>
      rw [Bool.eq_iff_iff, Text.startsWith, Text.startsWith, List.isPrefixOf_iff_prefix,
        List.isPrefixOf_iff_prefix]
      exact ⟨Text.prefix_of_prefix_append_cons (foreign head rfl), List.prefix_append_of_prefix⟩

def isSymbolic (char : Char) : Bool :=
  foreignSymbols.any (·.contains char) || symbols.any (·.1.contains char)

private theorem signText_scanned (symbol : Symbol) :
    foreignSymbols.any (Text.startsWith (signText symbol)) = false ∧
      symbols.find? (fun entry => Text.startsWith (signText symbol) entry.1) =
        some (signText symbol, symbol) := by
  cases symbol <;> decide

theorem scanSymbol_sign (symbol : Symbol) {rest : Text}
    (clear : rest.head?.any isSymbolic = false) :
    scanSymbol (signText symbol ++ rest) = some (.symbol symbol, rest) := by
  have absent : ∀ char ∈ rest.head?, (∀ start ∈ foreignSymbols, char ∉ start) ∧
      ∀ entry ∈ symbols, char ∉ entry.1 := by
    intro char first
    rw [Option.mem_def.mp first, Option.any_some] at clear
    simpa [isSymbolic] using clear
  obtain ⟨proper, found⟩ := signText_scanned symbol
  have stillProper : foreignSymbols.any (Text.startsWith (signText symbol ++ rest)) = false := by
    rw [List.any_eq_false] at proper ⊢
    intro start member
    rw [startsWith_append fun char first => (absent char first).1 start member]
    exact proper start member
  have stillFound : symbols.find? (fun entry => Text.startsWith (signText symbol ++ rest) entry.1) =
      some (signText symbol, symbol) := by
    rw [← found]
    exact List.find?_congr fun entry member =>
      startsWith_append (fun char first => (absent char first).2 entry member) _
  rw [scanSymbol, stillProper, stillFound]
  simp

private theorem exists_signText_eq_cons (symbol : Symbol) :
    ∃ head tail, signText symbol = head :: tail ∧ isGap head = false ∧
      Text.isNameStart head = false ∧ isQuote head = false ∧ Text.isAsciiDigit head = false ∧
      (head = '.' → symbol = .dot ∧ tail = []) := by
  cases symbol <;> exact ⟨_, _, rfl, by decide⟩

theorem Apart.head?_any {rest : Text} (apart : Apart rest) (inClass : Char → Bool)
    (outside : inClass ' ' = false) : rest.head?.any inClass = false := by
  rcases apart with rfl | ⟨tail, rfl⟩
  · rfl
  · exact outside

section Beginning

variable {word rest : Text} (apart : Apart rest) {inClass : Char → Bool}
  (inside : ∀ char ∈ word, inClass char = true) (outside : inClass ' ' = false)

include apart inside outside

theorem Apart.takeWhile_append : (word ++ rest).takeWhile inClass = word := by
  rw [List.takeWhile_append_of_pos inside]
  rcases apart with rfl | ⟨tail, rfl⟩
  · exact List.append_nil word
  · rw [List.takeWhile_cons_of_neg (Bool.eq_false_iff.mp outside), List.append_nil]

theorem Apart.dropWhile_append : (word ++ rest).dropWhile inClass = rest := by
  rw [List.dropWhile_append_of_pos inside]
  rcases apart with rfl | ⟨tail, rfl⟩
  · rfl
  · exact List.dropWhile_cons_of_neg (Bool.eq_false_iff.mp outside)

end Beginning

/-- A symbol ends where no symbol goes on. A dot before a digit is no symbol. -/
theorem tokensFrom_sign (depth : Nat) (symbol : Symbol) {rest : Text}
    (clear : rest.head?.any isSymbolic = false)
    (whole : symbol = .dot → rest.head?.any Text.isAsciiDigit = false) :
    tokensFrom depth (signText symbol ++ rest) =
      (nesting? depth (.symbol symbol)).bind fun inner =>
        (tokensFrom inner rest).map (.symbol symbol :: ·) := by
  have scanned := scanSymbol_sign symbol clear
  obtain ⟨head, tail, text, visible, nameless, quoteless, digitless, dot⟩ :=
    exists_signText_eq_cons symbol
  rw [text, List.cons_append] at scanned ⊢
  have dotless : ¬(head = '.' ∧ (tail ++ rest).head?.any Text.isAsciiDigit = true) := by
    rintro ⟨equal, digit⟩
    rw [(dot equal).2, List.nil_append, whole (dot equal).1] at digit
    cases digit
  have next : nextToken (head :: (tail ++ rest)) = some (.symbol symbol, rest) := by
    rw [nextToken]
    simp only [nameless, quoteless, digitless, dotless, Bool.false_eq_true, if_false]
    exact scanned
  have shorter : rest.length < (head :: (tail ++ rest)).length := by
    rw [List.length_cons, List.length_append]
    omega
  rw [tokensFrom_cons visible, next]
  exact if_pos shorter

/-! ## Numbers and names -/

theorem scanDigits_cons {digit? : Char → Option Nat} {head : Char} {tail : Text}
    (plain : ∀ after, tail = '_' :: after → False) :
    scanDigits digit? (head :: tail) =
      match digit? head with
      | none => some ([], head :: tail)
      | some digit => (scanDigits digit? tail).map fun found => (digit :: found.1, found.2) := by
  rw [scanDigits]
  · cases digit? head with
    | none => rfl
    | some digit => cases scanDigits digit? tail <;> rfl
  · exact plain

private theorem scanDigits_space (tail : Text) :
    scanDigits asciiDigit? (' ' :: tail) = some ([], ' ' :: tail) := by
  by_cases marked : ∃ after, tail = '_' :: after
  · obtain ⟨after, rfl⟩ := marked
    rfl
  · exact scanDigits_cons fun after equal => marked ⟨after, equal⟩

theorem scanDigits_append {digits : Text} (all : ∀ char ∈ digits, char.isDigit = true)
    {rest : Text} (apart : Apart rest) :
    scanDigits asciiDigit? (digits ++ rest) =
      some (digits.map fun char => char.toNat - '0'.toNat, rest) := by
  induction digits with
  | nil =>
      rcases apart with rfl | ⟨tail, rfl⟩
      · rfl
      · exact scanDigits_space tail
  | cons head tail induction =>
      rw [List.forall_mem_cons] at all
      have plain : ∀ after, tail ++ rest = '_' :: after → False := by
        intro after equal
        cases tail with
        | nil =>
            rcases apart with rfl | ⟨tail, rfl⟩ <;> cases equal
        | cons next others =>
            have digit := all.2 next List.mem_cons_self
            cases equal
            cases digit
      have value : asciiDigit? head = some (head.toNat - '0'.toNat) := if_pos all.1
      rw [List.cons_append, scanDigits_cons plain, value, induction all.2]
      rfl

theorem ofDigits_toDigits (value : Nat) :
    Number.ofDigits ((Text.ofNat value).map fun char => char.toNat - '0'.toNat) = value := by
  have read := Nat.ofDigitChars_ten_toDigits (n := value)
  rw [Nat.ofDigitChars_eq_foldl] at read
  rw [Number.ofDigits, List.foldl_map, Text.ofNat]
  exact read

private theorem digitChar_ne_zero : ∀ digit < 10, 0 < digit → digit.digitChar ≠ '0' := by decide

private theorem head?_ofNat_ne {value : Nat} (positive : 0 < value) :
    (Text.ofNat value).head? ≠ some '0' := by
  induction value using Nat.strongRecOn with
  | ind value induction =>
      rw [Text.ofNat, Nat.toDigits_eq_if (by decide)]
      split
      · next small =>
          rw [List.head?_cons, ne_eq, Option.some.injEq]
          exact digitChar_ne_zero value small positive
      · next large =>
          rw [List.head?_append_of_ne_nil _ Nat.toDigits_ne_nil]
          exact induction (value / 10) (by omega) (by omega)

theorem isDigit_of_mem_ofNat {value : Nat} {char : Char}
    (member : char ∈ Text.ofNat value) : char.isDigit = true :=
  Nat.isDigit_of_mem_toDigits (by decide) (by decide) member

theorem exists_ofNat_eq_cons (value : Nat) :
    ∃ head tail, Text.ofNat value = head :: tail ∧ head.isDigit = true := by
  obtain ⟨head, tail, text⟩ : ∃ head tail, Text.ofNat value = head :: tail :=
    List.exists_cons_of_ne_nil Nat.toDigits_ne_nil
  exact ⟨head, tail, text, isDigit_of_mem_ofNat (text ▸ List.mem_cons_self)⟩

theorem scanFractional_apart (whole : List Nat) {rest : Text} (apart : Apart rest) :
    scanFractional whole rest =
      if whole.head? = some 0 && whole.any (· != 0) then none
      else if Fault.mostDigits < whole.length then none
      else some (.number (.integer (Number.ofDigits whole)), rest) := by
  rcases apart with rfl | ⟨tail, rfl⟩ <;> rfl

private theorem scanNumber_ofNat (value : Nat) {rest : Text} (apart : Apart rest) :
    scanNumber (Text.ofNat value ++ rest) =
      (scanDigits asciiDigit? (Text.ofNat value ++ rest)).bind fun found =>
        scanFractional found.1 found.2 := by
  rcases Nat.eq_zero_or_pos value with rfl | positive
  · rcases apart with rfl | ⟨tail, rfl⟩ <;> rfl
  · have first := head?_ofNat_ne positive
    rw [scanNumber]
    intro letter after equal
    obtain ⟨head, tail, text, -⟩ := exists_ofNat_eq_cons value
    rw [text] at equal first
    exact first (congrArg some (List.cons.inj equal).1)

@[elab_as_elim]
theorem of_isDigit {motive : Char → Prop} {char : Char} (digit : char.isDigit = true)
    (each : ∀ digit < 10, motive (Char.ofNat (48 + digit))) : motive char := by
  rw [Char.isDigit, Bool.and_eq_true, decide_eq_true_eq, decide_eq_true_eq] at digit
  have least : 48 ≤ char.toNat := UInt32.le_iff_toNat_le.mp digit.1
  have most : char.toNat ≤ 57 := UInt32.le_iff_toNat_le.mp digit.2
  have one := each (char.toNat - 48) (by omega)
  rwa [Nat.add_sub_cancel' least, Char.ofNat_toNat] at one

private theorem ofNat_canonical (value : Nat) :
    ((((Text.ofNat value).map fun char => char.toNat - '0'.toNat).head? = some 0) &&
      ((Text.ofNat value).map fun char => char.toNat - '0'.toNat).any (· != 0)) = false := by
  rcases Nat.eq_zero_or_pos value with rfl | positive
  · rfl
  · have first := head?_ofNat_ne positive
    have all : ∀ char ∈ Text.ofNat value, char.isDigit = true :=
      fun char member => isDigit_of_mem_ofNat member
    rw [Bool.and_eq_false_iff]
    left
    rw [decide_eq_false_iff_not]
    cases text : Text.ofNat value with
    | nil => simp
    | cons head tail =>
        rw [text] at first all
        intro zero
        rw [List.map_cons, List.head?_cons, Option.some.injEq] at zero
        have only : head.toNat - '0'.toNat = 0 → head = '0' :=
          of_isDigit (all head List.mem_cons_self) (by decide)
        exact first (congrArg some (only zero))

theorem tokensFrom_number (depth value : Nat) {rest : Text} (apart : Apart rest) :
    tokensFrom depth (Text.ofNat value ++ rest) =
      if Fault.mostDigits < (Text.ofNat value).length then none
      else (tokensFrom depth rest).map (.number (.integer value) :: ·) := by
  have scanned := scanNumber_ofNat value apart
  rw [scanDigits_append (fun char => isDigit_of_mem_ofNat) apart, Option.bind_some,
    scanFractional_apart _ apart, ofNat_canonical, ofDigits_toDigits, List.length_map] at scanned
  obtain ⟨head, tail, text, first⟩ := exists_ofNat_eq_cons value
  have begins : isGap head = false ∧ Text.isNameStart head = false ∧ isQuote head = false :=
    of_isDigit first (by decide)
  obtain ⟨visible, nameless, quoteless⟩ := begins
  have shorter : rest.length < (head :: (tail ++ rest)).length := by
    rw [List.length_cons, List.length_append]
    omega
  rw [text, List.cons_append] at scanned ⊢
  have next : nextToken (head :: (tail ++ rest)) = scanNumber (head :: (tail ++ rest)) := by
    have digit : Text.isAsciiDigit head = true := first
    rw [nextToken]
    simp only [nameless, quoteless, digit, Bool.false_eq_true, if_false, if_true]
  rw [tokensFrom_cons visible, next, scanned]
  by_cases long : Fault.mostDigits < (head :: tail).length
  · simp only [long, Bool.false_eq_true, if_false, if_true]
  · simp only [long, Bool.false_eq_true, if_false]
    exact if_pos shorter

/-- A word that expressions take for a name. -/
structure IsName (word : Text) : Prop where
  start : word.head?.any Text.isNameStart = true
  inner : word.all Text.isNamePart = true
  free : keywords.lookup word = none

private theorem not_isNameStart_of_isGap {char : Char} (gap : isGap char = true) :
    Text.isNameStart char = false := by
  simp only [isGap, isSpace, Bool.or_eq_true, decide_eq_true_eq] at gap
  rcases gap with ((((rfl | rfl) | rfl) | rfl) | rfl) | rfl <;> decide

theorem tokensFrom_name (depth : Nat) {word rest : Text} (isName : IsName word)
    (apart : Apart rest) :
    tokensFrom depth (word ++ rest) = (tokensFrom depth rest).map (.name word :: ·) := by
  have inner : ∀ char ∈ word, Text.isNamePart char = true := List.all_eq_true.mp isName.inner
  have scanned : scanWord (word ++ rest) = some (.name word, rest) := by
    have quoteless := apart.head?_any isQuote (by decide)
    rw [scanWord, apart.takeWhile_append inner (by decide),
      apart.dropWhile_append inner (by decide), quoteless]
    simp [wordToken, isName.free]
  cases word with
  | nil => cases isName.start
  | cons head tail =>
      have start : Text.isNameStart head = true := isName.start
      have visible : isGap head = false := by
        rw [← Bool.not_eq_true]
        intro gap
        rw [not_isNameStart_of_isGap gap] at start
        cases start
      have next : nextToken (head :: (tail ++ rest)) = some (.name (head :: tail), rest) := by
        rw [nextToken, start, if_pos rfl]
        exact scanned
      have shorter : rest.length < (head :: (tail ++ rest)).length := by
        rw [List.length_cons, List.length_append]
        omega
      rw [List.cons_append, tokensFrom_cons visible, next]
      exact if_pos shorter

end Expression

/-! ## Formulas as tokens -/

open Expression

def isSolid (char : Char) : Bool := !(['\x00', '\r', '\n', '\t', ' ', '#'].contains char)

/-- A variable makes its tokens wherever it stands. -/
structure Style.Scans (style : Style) (word : Text) : Prop where
  present : style.text word ≠ []
  solid : ∀ char ∈ style.text word, isSolid char = true
  tokens : ∀ depth {rest}, Apart rest →
    tokensFrom depth (style.text word ++ rest) =
      (tokensFrom depth rest).map ((style.leaf word).tokens ++ ·)

/-- The lexemes can be tokenized inside so many brackets: no number is too long, and brackets are
neither nested too deep nor left open. -/
def admitted : Nat → List Lexeme → Bool
  | depth, [] => depth = 0
  | depth, .number value :: rest =>
      (Text.ofNat value).length ≤ Fault.mostDigits && admitted depth rest
  | depth, .name _ :: rest => admitted depth rest
  | depth, .sign symbol :: rest =>
      match nesting? depth (.symbol symbol) with
      | none => false
      | some inner => admitted inner rest

def spaced (write : Text → Text) (lexemes : List Lexeme) : Text :=
  lexemes.flatMap fun lexeme => ' ' :: lexeme.text write

theorem spaced_cons (write : Text → Text) (lexeme : Lexeme) (rest : List Lexeme) :
    spaced write (lexeme :: rest) = ' ' :: (lexeme.text write ++ spaced write rest) := rfl

theorem apart_spaced (write : Text → Text) (lexemes : List Lexeme) :
    Apart (spaced write lexemes) := by
  cases lexemes with
  | nil => exact .inl rfl
  | cons lexeme rest => exact .inr ⟨_, rfl⟩

/-- Whether lexemes can be tokenized does not depend on how variables are written. -/
theorem tokensFrom_spaced {style : Style} {lexemes : List Lexeme}
    (scans : ∀ word, .name word ∈ lexemes → style.Scans word) (depth : Nat) :
    tokensFrom depth (spaced style.text lexemes) =
      if admitted depth lexemes then some (lexemes.flatMap (Lexeme.tokens style)) else none := by
  induction lexemes generalizing depth with
  | nil =>
      have ended : tokensFrom depth [] = if depth = 0 then some [] else none := by
        rw [tokensFrom]
      have text : spaced style.text [] = [] := rfl
      rw [text, ended, admitted, List.flatMap_nil]
      simp only [decide_eq_true_eq]
  | cons lexeme rest induction =>
      have remaining := induction fun word member => scans word (List.mem_cons_of_mem lexeme member)
      have apart := apart_spaced style.text rest
      rw [spaced_cons, tokensFrom_space, List.flatMap_cons]
      cases lexeme with
      | number value =>
          rw [Lexeme.text, tokensFrom_number depth value apart, remaining, admitted]
          by_cases short : (Text.ofNat value).length ≤ Fault.mostDigits
          · rw [if_neg (Nat.not_lt.mpr short)]
            simp only [short, decide_true, Bool.true_and]
            split <;> rfl
          · rw [if_pos (Nat.not_le.mp short)]
            simp [short]
      | name word =>
          rw [Lexeme.text, (scans word List.mem_cons_self).tokens depth apart, remaining, admitted]
          split <;> rfl
      | sign symbol =>
          have clear := apart.head?_any isSymbolic (by decide)
          have whole := apart.head?_any Text.isAsciiDigit (by decide)
          rw [Lexeme.text, tokensFrom_sign depth symbol clear fun _ => whole, admitted]
          cases nesting? depth (.symbol symbol) with
          | none => rfl
          | some inner =>
              rw [Option.bind_some, remaining]
              simp only
              split <;> rfl

/-! ## Whole texts -/

private theorem withLineFeeds_eq_self {text : Text} (clean : '\r' ∉ text) :
    withLineFeeds text = text := by
  induction text with
  | nil => rfl
  | cons head tail induction =>
      rw [List.mem_cons, not_or] at clean
      rw [withLineFeeds, induction clean.2]
      · rintro rest rfl
        exact absurd rfl clean.1
      · rintro rfl
        exact absurd rfl clean.1

private theorem ne_of_isSolid {char : Char} (solid : isSolid char = true) :
    char ≠ '\x00' ∧ char ≠ '\r' ∧ char ≠ '\n' ∧ char ≠ '\t' ∧ char ≠ ' ' ∧ char ≠ '#' := by
  simpa [isSolid] using solid

private theorem skipBlankLines_solid {head : Char} (solid : isSolid head = true) (tail : Text) :
    skipBlankLines (head :: tail) = some (head :: tail) := by
  obtain ⟨-, -, feedless, tabless, spaceless, markless⟩ := ne_of_isSolid solid
  rw [skipBlankLines]
  · rw [if_neg (not_or.mpr ⟨spaceless, tabless⟩)]
  · exact feedless
  · exact markless

theorem tokens?_eq {text : Text} (start : text.head?.any isSolid = true)
    (clean : ∀ char ∈ text, isSolid char = true ∨ char = ' ') :
    tokens? text = tokensFrom 0 text := by
  have absent : ∀ char, isSolid char = false → char ≠ ' ' → char ∉ text := by
    intro char gap other member
    rcases clean char member with solid | space
    · rw [gap] at solid
      cases solid
    · exact other space
  have fed : withLineFeeds text = text :=
    withLineFeeds_eq_self (absent '\r' (by decide) (by decide))
  have whole : text.contains '\x00' = false := by
    rw [List.contains_eq_mem, decide_eq_false_iff_not]
    exact absent '\x00' (by decide) (by decide)
  cases text with
  | nil => cases start
  | cons head tail =>
      have solid : isSolid head = true := start
      obtain ⟨-, -, -, tabless, spaceless, -⟩ := ne_of_isSolid solid
      rw [tokens?, whole, if_neg Bool.false_ne_true, fed]
      simp only
      rw [List.dropWhile_cons_of_neg (by simp [spaceless, tabless]), skipBlankLines_solid solid,
        Option.bind_some]

theorem lexemes_ne_nil (formula : Formula) : formula.lexemes ≠ [] := by
  cases formula <;> simp [Formula.lexemes]

private theorem join_eq_cons {first : Text} {rest : List Text} :
    Text.join [' '] (first :: rest) = first ++ rest.flatMap (' ' :: ·) := by
  induction rest generalizing first with
  | nil => rw [Text.join, List.intercalate_singleton, List.flatMap_nil, List.append_nil]
  | cons next others induction =>
      have step : Text.join [' '] (first :: next :: others) =
          first ++ [' '] ++ Text.join [' '] (next :: others) := List.intercalate_cons_cons
      rw [step, induction, List.flatMap_cons, List.append_assoc]
      rfl

theorem spaced_eq_cons (write : Text → Text) (formula : Formula) :
    spaced write formula.lexemes = ' ' :: formula.written write := by
  obtain ⟨first, rest, whole⟩ := List.exists_cons_of_ne_nil (lexemes_ne_nil formula)
  rw [Formula.written, whole, List.map_cons, join_eq_cons, List.flatMap_map]
  rfl

private theorem signText_solid (symbol : Symbol) :
    signText symbol ≠ [] ∧ (signText symbol).all isSolid = true := by
  cases symbol <;> decide

namespace Formula

private theorem mem_bracketed {word : Text} {needed level : Nat} {lexemes : List Lexeme} :
    .name word ∈ bracketed needed level lexemes ↔ .name word ∈ lexemes := by
  unfold bracketed
  split <;> simp

theorem mem_names {formula : Formula} {word : Text} :
    .name word ∈ formula.lexemes ↔ word ∈ formula.names := by
  induction formula with
  | number value => simp [lexemes, names]
  | name other => simp [lexemes, names]
  | operate operation left right leftInduction rightInduction
  | relate relation left right leftInduction rightInduction =>
      simp [lexemes, names, mem_bracketed, leftInduction, rightInduction]

section Tokens

variable {style : Style} {formula : Formula} (scans : ∀ word ∈ formula.names, style.Scans word)

include scans

private theorem lexeme_solid {lexeme : Lexeme} (member : lexeme ∈ formula.lexemes) :
    lexeme.text style.text ≠ [] ∧ ∀ char ∈ lexeme.text style.text, isSolid char = true := by
  cases lexeme with
  | number value =>
      exact ⟨Nat.toDigits_ne_nil,
        fun char digit => of_isDigit (isDigit_of_mem_ofNat digit) (by decide)⟩
  | name word =>
      have written := scans word (mem_names.mp member)
      exact ⟨written.present, written.solid⟩
  | sign symbol =>
      have whole := signText_solid symbol
      exact ⟨whole.1, List.all_eq_true.mp whole.2⟩

theorem tokens?_written :
    tokens? (formula.written style.text) =
      if admitted 0 formula.lexemes then some (formula.tokens style) else none := by
  have spread : ∀ word, .name word ∈ formula.lexemes → style.Scans word :=
    fun word member => scans word (mem_names.mp member)
  have spacing := spaced_eq_cons style.text formula
  rw [tokens, ← tokensFrom_spaced spread 0, spacing, tokensFrom_space]
  apply tokens?_eq
  · obtain ⟨first, rest, whole⟩ := List.exists_cons_of_ne_nil (lexemes_ne_nil formula)
    have solid := lexeme_solid scans (whole ▸ List.mem_cons_self : first ∈ formula.lexemes)
    obtain ⟨head, tail, text⟩ := List.exists_cons_of_ne_nil solid.1
    rw [written, whole, List.map_cons, join_eq_cons, text]
    exact solid.2 head (text ▸ List.mem_cons_self)
  · intro char member
    have inside : char ∈ spaced style.text formula.lexemes :=
      spacing ▸ List.mem_cons_of_mem ' ' member
    obtain ⟨lexeme, present, inside⟩ := List.mem_flatMap.mp inside
    rcases List.mem_cons.mp inside with rfl | inside
    · exact .inr rfl
    · exact .inl ((lexeme_solid scans present).2 char inside)

end Tokens

end Formula

end Linewise
