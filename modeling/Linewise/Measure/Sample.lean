import Linewise.Number.Shortest
import Linewise.Text.Quoted

/-!
What workloads take as parameters and give as results: more kinds of values than the language has.
-/

namespace Linewise.Measure

inductive Sample
  | null
  | boolean (truth : Bool)
  | integer (number : Int)
  | float (number : Float)
  | complex (real imaginary : Float)
  | text (content : Text)
  | bytes (content : List UInt8)
  | byteArray (content : List UInt8)
  | list (items : List Sample)
  | tuple (items : List Sample)
  | set (items : List Sample)
  | frozenSet (items : List Sample)
  | dictionary (entries : List (Sample × Sample))
  /-- A variable of the language. -/
  | stored (type : Text) (value : Sample) (constant : Bool)
  | date (year month day : Nat)
  /-- A decimal number as it was written. -/
  | decimal (literal : Text)
  /-- A fraction, which may not be in lowest terms. -/
  | fraction (numerator : Int) (denominator : Nat)
  | object
deriving Repr, Inhabited

namespace Sample

def typeName : Sample → Text
  | null => "NoneType".toList
  | boolean _ => "bool".toList
  | integer _ => "int".toList
  | float _ => "float".toList
  | complex .. => "complex".toList
  | text _ => "str".toList
  | bytes _ => "bytes".toList
  | byteArray _ => "bytearray".toList
  | list _ => "list".toList
  | tuple _ => "tuple".toList
  | set _ => "set".toList
  | frozenSet _ => "frozenset".toList
  | dictionary _ => "dict".toList
  | stored .. => "Variable".toList
  | date .. => "date".toList
  | decimal _ => "Decimal".toList
  | fraction .. => "Fraction".toList
  | object => "object".toList

/-! ## Text of a sample -/

private def truthText (truth : Bool) : Text := if truth then "True".toList else "False".toList

private def partText (number : Float) : Text :=
  let written := Number.text number
  if Text.endsWith written ".0".toList then written.take (written.length - 2) else written

private def complexText (real imaginary : Float) : Text :=
  let second := partText imaginary ++ ['j']
  if real == 0 && !Number.isNegative real then second
  else
    let joint := if Text.startsWith second ['-'] then [] else ['+']
    '(' :: partText real ++ joint ++ second ++ [')']

private def byteText (quote : Char) (byte : UInt8) : Text :=
  if byte < 0x20 ∨ 0x7f ≤ byte then
    match byte with
    | 9 => "\\t".toList
    | 10 => "\\n".toList
    | 13 => "\\r".toList
    | _ => '\\' :: 'x' :: Text.hex 2 byte.toNat
  else
    let char := Char.ofNat byte.toNat
    if char = quote ∨ char = '\\' then ['\\', char] else [char]

private def bytesText (content : List UInt8) : Text :=
  let quote := Text.quoteFor (content.map fun byte => Char.ofNat byte.toNat)
  'b' :: quote :: content.flatMap (byteText quote) ++ [quote]

private def lowestTerms (numerator : Int) (denominator : Nat) : Int × Nat :=
  let divisor := Nat.gcd numerator.natAbs denominator
  (numerator / divisor, denominator / divisor)

private def listed (left : Text) (items : List Text) (right : Text) : Text :=
  left ++ Text.join ", ".toList items ++ right

mutual

/-- The text that describes a sample, with its kind where that would be in doubt. -/
def described : Sample → Text
  | null => "None".toList
  | boolean truth => truthText truth
  | integer number => Text.ofInt number
  | float number => Number.text number
  | complex real imaginary => complexText real imaginary
  | text content => Text.quoted content
  | bytes content => bytesText content
  | byteArray content => "bytearray(".toList ++ bytesText content ++ [')']
  | list items => listed ['['] (describedItems items) [']']
  | tuple [item] => '(' :: described item ++ ",)".toList
  | tuple items => listed ['('] (describedItems items) [')']
  | set [] => "set()".toList
  | set items => listed ['\x7b'] (describedItems items) ['\x7d']
  | frozenSet [] => "frozenset()".toList
  | frozenSet items => listed "frozenset(\x7b".toList (describedItems items) "\x7d)".toList
  | dictionary entries => listed ['\x7b'] (describedEntries entries) ['\x7d']
  | stored type value constant =>
      "Variable(type=".toList ++ Text.quoted type ++ ", value=".toList ++ described value
        ++ ", const=".toList ++ truthText constant ++ [')']
  | date year month day =>
      listed "datetime.date(".toList [Text.ofNat year, Text.ofNat month, Text.ofNat day] [')']
  | decimal literal => "Decimal('".toList ++ literal ++ "')".toList
  | fraction numerator denominator =>
      let (numerator, denominator) := lowestTerms numerator denominator
      listed "Fraction(".toList [Text.ofInt numerator, Text.ofNat denominator] [')']
  | object => "<builtins.object>".toList

private def describedItems : List Sample → List Text
  | [] => []
  | item :: items => described item :: describedItems items

private def describedEntries : List (Sample × Sample) → List Text
  | [] => []
  | (key, value) :: entries =>
      (described key ++ ": ".toList ++ described value) :: describedEntries entries

end

private def twoDigits (number : Nat) : Text :=
  let digits := Text.ofNat number
  List.replicate (2 - digits.length) '0' ++ digits

def shown : Sample → Text
  | text content => content
  | date year month day =>
      Text.join ['-'] [Text.ofNat year, twoDigits month, twoDigits day]
  | decimal literal => literal
  | fraction numerator denominator =>
      match lowestTerms numerator denominator with
      | (numerator, 1) => Text.ofInt numerator
      | (numerator, denominator) => Text.ofInt numerator ++ '/' :: Text.ofNat denominator
  | sample => described sample

end Sample

end Linewise.Measure
