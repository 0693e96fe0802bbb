import Linewise.Digest.Sha256
import Linewise.Measure.Sample
import Linewise.Number.Fixed
import Linewise.Text.Utf8

/-!
Fingerprints of samples: the digest of a canonical spelling. Numbers count to six significant
digits, and the entries of a dictionary and the items of a set are put in the order of their
fingerprints, so that the order in which they were added does not show.
-/

namespace Linewise.Measure

namespace Sample

private def ascii (text : Text) : List UInt8 := Utf8.encode text

def significantDigits : Nat := 6

/-- The spelling of a number; zero has no sign. -/
private def floatSpelling (number : Float) : List UInt8 :=
  ascii (Number.text (if number == 0 then 0 else Number.significant significantDigits number))

private def counted (mark : Char) (count : Nat) : List UInt8 := ascii (mark :: Text.ofNat count)

private def precedesOrEqual (left right : Text) : Bool := !Text.precedes right left

private def inDigestOrder (spellings : List (Text × List UInt8)) : List (Text × List UInt8) :=
  spellings.mergeSort fun left right => precedesOrEqual left.1 right.1

private def field (name : Text) (value : List UInt8) : Text × List UInt8 :=
  let key := ascii ('s' :: name)
  (Digest.sha256 key, key ++ value)

mutual

def spelling : Sample → List UInt8
  | float number => floatSpelling number
  | complex real imaginary => ascii ['c'] ++ floatSpelling real ++ floatSpelling imaginary
  | text content => ascii ('s' :: content)
  | bytes content | byteArray content => ascii ['s'] ++ content
  | list items | tuple items => counted 'L' items.length ++ spellings items
  | set items | frozenSet items =>
      counted 'S' items.length ++
        ascii ((digests items).mergeSort precedesOrEqual).flatten
  | dictionary entries =>
      counted 'D' entries.length ++
        (inDigestOrder (entrySpellings entries)).flatMap Prod.snd
  | stored type value constant =>
      counted 'D' 3 ++ (inDigestOrder
        [field "type".toList (ascii ('s' :: type)),
         field "value".toList (spelling value),
         field "const".toList (ascii (boolean constant).described)]).flatMap Prod.snd
  | sample => ascii sample.described

private def spellings : List Sample → List UInt8
  | [] => []
  | item :: items => spelling item ++ spellings items

private def digests : List Sample → List Text
  | [] => []
  | item :: items => Digest.sha256 (spelling item) :: digests items

private def entrySpellings : List (Sample × Sample) → List (Text × List UInt8)
  | [] => []
  | (key, value) :: entries =>
      let name := spelling key
      (Digest.sha256 name, name ++ spelling value) :: entrySpellings entries

end

def fingerprint (sample : Sample) : Text := Digest.sha256 sample.spelling

end Sample

end Linewise.Measure
