import Linewise.Number.Binary64

/-!
Rounding of a floating-point number to a number of decimal places. The exact value is rounded, a
tie going to the even digit, and the result is the nearest number to that decimal.
-/

namespace Linewise.Number

/-- Beyond these places every number is its own rounding. -/
def mostPlaces : Int := 323

/-- Before these places every number is rounded to zero. -/
def leastPlaces : Int := -308

/-- The number rounded to `places` decimal places, which may be negative; `none` if the result is
too large. -/
def roundTo? (number : Float) (places : Int) : Option Float :=
  match fraction? number with
  | none => some number
  | some fraction =>
      if mostPlaces < places then some number
      else if places < leastPlaces then some (zero (isNegative number))
      else
        let decimal := Fraction.ofDecimal (fraction.scale places).rounded (-places)
        nearest? (isNegative number) decimal

/-- The fewest places, below `places`, that round to the same number as `places` itself. -/
def sufficientPlaces? (number : Float) (places : Int) : Option Int := do
  let target ← roundTo? number places
  let found := (List.range places.toNat).find? fun candidate : Nat =>
    match roundTo? number (candidate : Int) with
    | some rounded => rounded == target
    | none => false
  return (found.map Int.ofNat).getD places

end Linewise.Number
