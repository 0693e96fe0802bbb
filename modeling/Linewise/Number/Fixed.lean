import Linewise.Number.Shortest

/-!
Numbers written with a fixed number of decimal places, and numbers cut to a few significant digits.
Both round the exact value, a tie going to the even digit.
-/

namespace Linewise.Number

private def withPoint (places digits : Nat) : Text :=
  if places = 0 then Text.ofNat digits
  else
    let fractional := Text.ofNat (digits % Nat.pow 10 places)
    Text.ofNat (digits / Nat.pow 10 places) ++ '.' ::
      List.replicate (places - fractional.length) '0' ++ fractional

def fixed (places : Nat) (number : Float) : Text :=
  let sign := if isNegative number then ['-'] else []
  match magnitude number with
  | .notANumber => "nan".toList
  | .infinite => sign ++ "inf".toList
  | .finite mantissa exponent =>
      sign ++ withPoint places ((Fraction.ofScaled mantissa exponent).scale places).rounded

def significant (count : Nat) (number : Float) : Float :=
  match fraction? number with
  | none => number
  | some fraction =>
      if fraction.numerator = 0 then number
      else
        let exponent := fraction.places - count
        nearest (isNegative number) (.ofDecimal (fraction.scale (-exponent)).rounded exponent)

end Linewise.Number
