import Linewise.Fault
import Linewise.Number.Binary64
import Linewise.Text.Digit

/-!
Reading numbers that a user wrote. Blanks around a number are passed over, digits may be those of
any script, and single underscores may stand between digits.
-/

namespace Linewise.Number

/-! ## Blanks around numbers -/

/-- The information separators are blanks elsewhere, but not around a number. -/
def isMargin (char : Char) : Bool :=
  Text.isBlank char && !(0x1C ≤ char.toNat && char.toNat ≤ 0x1F)

def withoutMargins (literal : Text) : Text := Text.trim isMargin literal

/-! ## Digit groups -/

/-- The values of digits between which single underscores may stand. At least one digit is read,
and the text that follows begins with neither a digit nor an underscore after one. -/
def readDigits : Text → Option (List Nat × Text)
  | [] => none
  | head :: '_' :: tail => do
      let digit ← Text.digitValue? head
      let (more, rest) ← readDigits tail
      return (digit :: more, rest)
  | head :: tail => do
      let digit ← Text.digitValue? head
      if (tail.head?.bind Text.digitValue?).isSome then
        let (more, rest) ← readDigits tail
        return (digit :: more, rest)
      else return ([digit], tail)

def ofDigits (digits : List Nat) : Nat := digits.foldl (fun number digit => 10 * number + digit) 0

def readSign : Text → Bool × Text
  | '-' :: rest => (true, rest)
  | '+' :: rest => (false, rest)
  | text => (false, text)

/-! ## Integers -/

def readInt (literal : Text) : Except Fault Int :=
  let (negative, unsigned) := readSign (withoutMargins literal)
  match readDigits unsigned with
  | some (digits, []) =>
      if Fault.mostDigits < digits.length then .error (.tooLongToRead digits.length)
      else .ok (if negative then -(ofDigits digits : Int) else ofDigits digits)
  | _ => .error (.notAnInteger literal)

/-! ## Floating-point numbers -/

/-- Decimals beyond these exponents of their first digit are too large, or indistinguishable from
zero. -/
private def exponentBound : Int := 400

/-- The number nearest to `digits * 10 ^ exponent`. The leading zeros of `digits` count for
nothing, and extreme exponents are decided without computing the power. -/
def ofDecimalDigits (negative : Bool) (digits : List Nat) (exponent : Int) : Float :=
  let significant := digits.dropWhile (· = 0)
  let weight := exponent + significant.length
  if significant.isEmpty then zero negative
  else if exponentBound < weight then infinity negative
  else if weight < -exponentBound then zero negative
  else nearest negative (.ofDecimal (ofDigits significant) exponent)

def readExponent (text : Text) : Option (Int × Text) := do
  let (negative, unsigned) := readSign text
  let (digits, rest) ← readDigits unsigned
  return (if negative then -(ofDigits digits : Int) else ofDigits digits, rest)

def optionalDigits (text : Text) : List Nat × Text := (readDigits text).getD ([], text)

def readFraction (text : Text) : List Nat × Text :=
  match text with
  | '.' :: after => optionalDigits after
  | _ => ([], text)

def readScale (text : Text) : Int × Text :=
  match text with
  | 'e' :: after | 'E' :: after => (readExponent after).getD (0, text)
  | _ => (0, text)

/-- A decimal with an optional point and an optional exponent. The point needs a digit on one of
its sides. -/
def readDecimal (negative : Bool) (text : Text) : Option (Float × Text) :=
  let (whole, rest) := optionalDigits text
  let (fractional, rest) := readFraction rest
  let (exponent, rest) := readScale rest
  if whole.isEmpty && fractional.isEmpty then none
  else some (ofDecimalDigits negative (whole ++ fractional) (exponent - fractional.length), rest)

def isWordIgnoringCase (word text : Text) : Bool := text.map Char.toLower = word

def readFloat? (literal : Text) : Option Float :=
  let (negative, unsigned) := readSign (withoutMargins literal)
  if isWordIgnoringCase "inf".toList unsigned || isWordIgnoringCase "infinity".toList unsigned then
    some (infinity negative)
  else if isWordIgnoringCase "nan".toList unsigned then some notANumber
  else
    match readDecimal negative unsigned with
    | some (number, []) => some number
    | _ => none

def readFloat (literal : Text) : Except Fault Float :=
  match readFloat? literal with
  | some number => .ok number
  | none => .error (.notANumber literal)

end Linewise.Number
