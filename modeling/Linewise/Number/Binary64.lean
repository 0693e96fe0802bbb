/-!
Floating-point numbers as exact fractions. A finite number is `mantissa * 2 ^ exponent`, and
`nearest` finds the number closest to a fraction, with a tie going to the even mantissa.
-/

namespace Linewise.Number

/-- The nearest integer to a fraction; a tie goes to the even one. -/
def roundedQuotient (numerator denominator : Nat) : Nat :=
  let quotient := numerator / denominator
  let twice := 2 * (numerator % denominator)
  if twice < denominator then quotient
  else if denominator < twice then quotient + 1
  else quotient + quotient % 2

/-- What the bits of a number stand for, the sign apart. -/
inductive Magnitude
  | finite (mantissa : Nat) (exponent : Int)
  | infinite
  | notANumber
deriving DecidableEq, Repr

def isNegative (number : Float) : Bool := number.toBits.toNat / Nat.pow 2 63 = 1

def magnitude (number : Float) : Magnitude :=
  let bits : Nat := number.toBits.toNat
  let fraction : Nat := bits % Nat.pow 2 52
  let biased : Nat := bits / Nat.pow 2 52 % 2048
  if biased = 2047 then if fraction = 0 then .infinite else .notANumber
  else if biased = 0 then .finite fraction (-1074)
  else .finite (fraction + Nat.pow 2 52) ((biased : Int) - 1075)

/-- A non-negative fraction whose denominator is not zero. -/
structure Fraction where
  numerator : Nat
  denominator : Nat
deriving DecidableEq, Repr

namespace Fraction

/-- `mantissa * 2 ^ exponent` -/
def ofScaled (mantissa : Nat) (exponent : Int) : Fraction :=
  if 0 ≤ exponent then ⟨mantissa * Nat.pow 2 exponent.toNat, 1⟩
  else ⟨mantissa, Nat.pow 2 (-exponent).toNat⟩

/-- `digits * 10 ^ exponent` -/
def ofDecimal (digits : Nat) (exponent : Int) : Fraction :=
  if 0 ≤ exponent then ⟨digits * Nat.pow 10 exponent.toNat, 1⟩
  else ⟨digits, Nat.pow 10 (-exponent).toNat⟩

def scale (fraction : Fraction) (exponent : Int) : Fraction :=
  if 0 ≤ exponent then ⟨fraction.numerator * Nat.pow 10 exponent.toNat, fraction.denominator⟩
  else ⟨fraction.numerator, fraction.denominator * Nat.pow 10 (-exponent).toNat⟩

def rounded (fraction : Fraction) : Nat :=
  roundedQuotient fraction.numerator fraction.denominator

def floor (fraction : Fraction) : Nat := fraction.numerator / fraction.denominator

private def reaches (fraction : Fraction) (exponent : Int) : Bool :=
  if 0 ≤ exponent then fraction.denominator * Nat.pow 2 exponent.toNat ≤ fraction.numerator
  else fraction.denominator ≤ fraction.numerator * Nat.pow 2 (-exponent).toNat

def binaryExponent (fraction : Fraction) : Int :=
  let estimate : Int := (Nat.log2 fraction.numerator : Int) - Nat.log2 fraction.denominator
  if fraction.reaches estimate then estimate else estimate - 1

/-- The bits, without a sign, of the number nearest to the fraction; `none` if it lies beyond the
greatest one. -/
def nearestBits? (fraction : Fraction) : Option Nat :=
  if fraction.numerator = 0 then some 0
  else
    let exponent := max (fraction.binaryExponent - 52) (-1074)
    let mantissa :=
      if 0 ≤ exponent then
        roundedQuotient fraction.numerator (fraction.denominator * Nat.pow 2 exponent.toNat)
      else roundedQuotient (fraction.numerator * Nat.pow 2 (-exponent).toNat) fraction.denominator
    let bits :=
      if mantissa < Nat.pow 2 52 then mantissa
      else (exponent + 1075).toNat * Nat.pow 2 52 + (mantissa - Nat.pow 2 52)
    if bits < 2047 * Nat.pow 2 52 then some bits else none

end Fraction

def withSign (negative : Bool) (bits : Nat) : Float :=
  Float.ofBits (UInt64.ofNat (if negative then Nat.pow 2 63 + bits else bits))

def infinity (negative : Bool) : Float := withSign negative (2047 * Nat.pow 2 52)

def notANumber : Float := withSign false (2047 * Nat.pow 2 52 + Nat.pow 2 51)

def zero (negative : Bool) : Float := withSign negative 0

def nearest? (negative : Bool) (fraction : Fraction) : Option Float :=
  fraction.nearestBits?.map (withSign negative)

def nearest (negative : Bool) (fraction : Fraction) : Float :=
  (nearest? negative fraction).getD (infinity negative)

def fraction? (number : Float) : Option Fraction :=
  match magnitude number with
  | .finite mantissa exponent => some (.ofScaled mantissa exponent)
  | _ => none

def ofInt? (number : Int) : Option Float := nearest? (number < 0) ⟨number.natAbs, 1⟩

def truncate? (number : Float) : Option Int :=
  (fraction? number).map fun fraction =>
    if isNegative number then -(fraction.floor : Int) else fraction.floor

/-- Order of an integer and a number that is neither infinite nor undefined, exactly. -/
def compareInt? (left : Int) (right : Float) : Option Ordering :=
  (fraction? right).map fun fraction =>
    let numerator : Int := if isNegative right then -fraction.numerator else fraction.numerator
    compare (left * fraction.denominator) numerator

/-- The remainder toward zero of two finite numbers, exact, with the sign of the dividend. -/
private def truncatedRemainder (left right : Float) : Float :=
  match magnitude left, magnitude right with
  | .finite leftMantissa leftExponent, .finite rightMantissa rightExponent =>
      let exponent := min leftExponent rightExponent
      let remainder :=
        (leftMantissa * Nat.pow 2 (leftExponent - exponent).toNat)
          % (rightMantissa * Nat.pow 2 (rightExponent - exponent).toNat)
      nearest (isNegative left) (.ofScaled remainder exponent)
  | .finite .., .infinite => left
  | _, _ => notANumber

private def copySign (magnitude sign : Float) : Float :=
  if isNegative sign then -magnitude.abs else magnitude.abs

/-- The remainder with the sign of the divisor, which is not zero. -/
def remainder (left right : Float) : Float :=
  let truncated := truncatedRemainder left right
  if truncated == 0 then copySign 0 right
  else if (right < 0) != (truncated < 0) then truncated + right
  else truncated

def floorQuotient (left right : Float) : Float :=
  let truncated := truncatedRemainder left right
  let quotient := (left - truncated) / right
  let quotient :=
    if truncated != 0 && ((right < 0) != (truncated < 0)) then quotient - 1 else quotient
  if quotient == 0 then copySign 0 (left / right)
  else
    let whole := quotient.floor
    if quotient - whole > 0.5 then whole + 1 else whole

end Linewise.Number
