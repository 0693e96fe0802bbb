import Linewise.Number.Binary64
import Linewise.Text.Basic

/-!
The text of a floating-point number: the fewest digits that read back as the same number, and of
those the digits nearest to it.
-/

namespace Linewise.Number

/-- `digits * 10 ^ exponent`, where the digits are written without leading zeros. -/
structure Decimal where
  digits : Nat
  exponent : Int
deriving DecidableEq, Repr

namespace Decimal

def toFraction (decimal : Decimal) : Fraction := .ofDecimal decimal.digits decimal.exponent

end Decimal

namespace Fraction

/-- The number of places before the decimal point: the fraction, which is not zero, lies below
`10 ^ places` and not below `10 ^ (places - 1)`. -/
def places (fraction : Fraction) : Int :=
  if fraction.denominator ≤ fraction.numerator then
    (Text.ofNat (fraction.numerator / fraction.denominator)).length
  else
    let count := (Text.ofNat (fraction.denominator / fraction.numerator)).length
    if fraction.denominator = fraction.numerator * Nat.pow 10 (count - 1) then 2 - (count : Int)
    else 1 - (count : Int)

/-- The distances of a fraction to the whole number below it and to the one above it, compared:
is the one above nearer, or as near and even? -/
private def prefersUpper (fraction : Fraction) : Bool :=
  let twice := 2 * (fraction.numerator % fraction.denominator)
  fraction.denominator < twice || (twice = fraction.denominator && fraction.floor % 2 = 1)

/-- Of the two decimals with `count` digits around the fraction, the nearest that reads back as
`bits`. -/
def readsBackWith? (fraction : Fraction) (bits count : Nat) : Option Decimal :=
  let exponent := fraction.places - count
  let scaled := fraction.scale (-exponent)
  let lower : Decimal := ⟨scaled.floor, exponent⟩
  let upper : Decimal := ⟨scaled.floor + 1, exponent⟩
  let candidates := if scaled.prefersUpper then [upper, lower] else [lower, upper]
  candidates.find? fun decimal => decimal.toFraction.nearestBits? = some bits

/-- Seventeen digits always read back. -/
def shortest (fraction : Fraction) (bits : Nat) : Decimal :=
  ((List.range 17).findSome? fun count => fraction.readsBackWith? bits (count + 1)).getD
    ⟨(fraction.scale (17 - fraction.places)).rounded, fraction.places - 17⟩

end Fraction

/-- How numbers are written: decimals whose first digit has one of the middle weights are written
out, the others with an exponent of at least two digits. -/
structure Layout where
  leastWrittenOut : Int
  greatestWrittenOut : Int
  exponentDigits : Nat

def layout : Layout := ⟨-4, 15, 2⟩

namespace Layout

private def dropFinalZeros (digits : Text) : Text :=
  (digits.reverse.dropWhile (· = '0')).reverse

private def exponentText (layout : Layout) (exponent : Int) : Text :=
  let digits := Text.ofNat exponent.natAbs
  (if exponent < 0 then '-' else '+')
    :: List.replicate (layout.exponentDigits - digits.length) '0' ++ digits

def write (layout : Layout) (decimal : Decimal) : Text :=
  let written := Text.ofNat decimal.digits
  let digits := dropFinalZeros written
  let weight : Int := decimal.exponent + written.length - 1
  if layout.leastWrittenOut ≤ weight ∧ weight ≤ layout.greatestWrittenOut then
    if weight < 0 then
      "0.".toList ++ List.replicate (-weight - 1).toNat '0' ++ digits
    else
      let whole := weight.toNat + 1
      let padded := digits ++ List.replicate (whole - digits.length) '0'
      let fractional := padded.drop whole
      padded.take whole ++ '.' :: (if fractional.isEmpty then ['0'] else fractional)
  else
    let mantissa :=
      match digits with
      | [] => []
      | [digit] => [digit]
      | digit :: more => digit :: '.' :: more
    mantissa ++ 'e' :: layout.exponentText weight

end Layout

def text (number : Float) : Text :=
  let sign := if isNegative number then ['-'] else []
  match magnitude number with
  | .notANumber => "nan".toList
  | .infinite => sign ++ "inf".toList
  | .finite 0 _ => sign ++ "0.0".toList
  | .finite mantissa exponent =>
      let bits := number.toBits.toNat % Nat.pow 2 63
      sign ++ layout.write ((Fraction.ofScaled mantissa exponent).shortest bits)

end Linewise.Number
