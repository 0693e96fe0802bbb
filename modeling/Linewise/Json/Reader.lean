import Linewise.Json.Basic
import Linewise.Number.Reading
import Linewise.Text.Word

/-!
Reading JSON. Of members with the same name the last one counts, in the place of the first. The
words for numbers that are not finite are read too.
-/

namespace Linewise.Json

private def isSpace (char : Char) : Bool :=
  char = ' ' || char = '\t' || char = '\n' || char = '\r'

private def skipSpaces (text : Text) : Text := text.dropWhile isSpace

/-! ## Texts -/

private def hexValue? (char : Char) : Option Nat :=
  if Text.isAsciiDigit char then some (char.toNat - '0'.toNat)
  else if 'a' ≤ char ∧ char ≤ 'f' then some (char.toNat - 'a'.toNat + 10)
  else if 'A' ≤ char ∧ char ≤ 'F' then some (char.toNat - 'A'.toNat + 10)
  else none

private def unit? (first second third fourth : Char) : Option Nat := do
  return 4096 * (← hexValue? first) + 256 * (← hexValue? second) + 16 * (← hexValue? third)
    + (← hexValue? fourth)

private def shortEscape? : Char → Option Char
  | '"' => some '"'
  | '\\' => some '\\'
  | '/' => some '/'
  | 'b' => some '\x08'
  | 'f' => some '\x0c'
  | 'n' => some '\n'
  | 'r' => some '\r'
  | 't' => some '\t'
  | _ => none

/-- The rest of a text after its opening quote. Two escaped surrogates in a row are one character,
and a surrogate by itself is replaced. -/
private def readTextBody : Text → Option (Text × Text)
  | [] => none
  | '"' :: rest => some ([], rest)
  | '\\' :: 'u' :: a :: b :: c :: d :: '\\' :: 'u' :: e :: f :: g :: h :: rest => do
      let high ← unit? a b c d
      let low ← unit? e f g h
      if 0xD800 ≤ high ∧ high < 0xDC00 ∧ 0xDC00 ≤ low ∧ low < 0xE000 then
        let (content, rest) ← readTextBody rest
        return (Char.ofNat (0x10000 + 1024 * (high - 0xD800) + (low - 0xDC00)) :: content, rest)
      else
        let (content, rest) ← readTextBody ('\\' :: 'u' :: e :: f :: g :: h :: rest)
        return (character high :: content, rest)
  | '\\' :: 'u' :: a :: b :: c :: d :: rest => do
      let code ← unit? a b c d
      let (content, rest) ← readTextBody rest
      return (character code :: content, rest)
  | '\\' :: escaped :: rest => do
      let char ← shortEscape? escaped
      let (content, rest) ← readTextBody rest
      return (char :: content, rest)
  | char :: rest =>
      if char.toNat < 0x20 then none
      else do
        let (content, rest) ← readTextBody rest
        return (char :: content, rest)
where
  character (code : Nat) : Char := if code.isValidChar then Char.ofNat code else '�'

/-! ## Numbers -/

private def asciiDigits (text : Text) : List Nat × Text :=
  ((text.takeWhile Text.isAsciiDigit).map fun char => char.toNat - '0'.toNat,
    text.dropWhile Text.isAsciiDigit)

private def fractionDigits? (text : Text) : Option (List Nat × Text) :=
  match text with
  | '.' :: after =>
      let (digits, rest) := asciiDigits after
      if digits.isEmpty then none else some (digits, rest)
  | _ => none

private def exponent? (text : Text) : Option (Int × Text) :=
  match text with
  | letter :: after =>
      if letter = 'e' ∨ letter = 'E' then
        let (negative, unsigned) := Number.readSign after
        let (digits, rest) := asciiDigits unsigned
        if digits.isEmpty then none
        else
          let exponent : Int := Number.ofDigits digits
          some (if negative then -exponent else exponent, rest)
      else none
  | [] => none

private def readNumber (source : Text) : Option (Json × Text) :=
  let (negative, unsigned) := match source with
    | '-' :: rest => (true, rest)
    | source => (false, source)
  let (whole, rest) := match unsigned with
    | '0' :: rest => ([0], rest)
    | unsigned => asciiDigits unsigned
  if whole.isEmpty then none
  else
    let fraction := fractionDigits? rest
    let (digits, rest) := fraction.getD ([], rest)
    let exponent := exponent? rest
    let (power, rest) := exponent.getD (0, rest)
    if fraction.isNone && exponent.isNone then
      let number : Int := Number.ofDigits whole
      some (.integer (if negative then -number else number), rest)
    else
      let number := Number.ofDecimalDigits negative (whole ++ digits) (power - digits.length)
      some (.float number, rest)

/-! ## Values -/

private def words : List (Text × Json) :=
  [("null".toList, .null), ("true".toList, .boolean true), ("false".toList, .boolean false),
   ("NaN".toList, .float Number.notANumber), ("Infinity".toList, .float (Number.infinity false)),
   ("-Infinity".toList, .float (Number.infinity true))]

private def readWord? (source : Text) : Option (Json × Text) :=
  (words.find? fun entry => source.startsWith entry.1).map fun entry =>
    (entry.2, source.drop entry.1.length)

mutual

private def readValue : Nat → Text → Option (Json × Text)
  | 0, _ => none
  | fuel + 1, source =>
      match skipSpaces source with
      | '"' :: rest => (readTextBody rest).map fun (content, rest) => (.text content, rest)
      | '[' :: rest =>
          match skipSpaces rest with
          | ']' :: rest => some (.array [], rest)
          | rest => (readItems fuel rest).map fun (items, rest) => (.array items, rest)
      | '\x7b' :: rest =>
          match skipSpaces rest with
          | '\x7d' :: rest => some (.object [], rest)
          | rest => (readMembers fuel [] rest).map fun (members, rest) => (.object members, rest)
      | source =>
          match readWord? source with
          | some result => some result
          | none => readNumber source

private def readItems : Nat → Text → Option (List Json × Text)
  | 0, _ => none
  | fuel + 1, source => do
      let (item, rest) ← readValue fuel source
      match skipSpaces rest with
      | ',' :: rest =>
          let (items, rest) ← readItems fuel rest
          return (item :: items, rest)
      | ']' :: rest => return ([item], rest)
      | _ => none

private def readMembers : Nat → List (Text × Json) → Text → Option (List (Text × Json) × Text)
  | 0, _, _ => none
  | fuel + 1, members, source =>
      match skipSpaces source with
      | '"' :: rest => do
          let (name, rest) ← readTextBody rest
          match skipSpaces rest with
          | ':' :: rest =>
              let (value, rest) ← readValue fuel rest
              let members := setMember members name value
              match skipSpaces rest with
              | ',' :: rest => readMembers fuel members rest
              | '\x7d' :: rest => return (members, rest)
              | _ => none
          | _ => none
      | _ => none

end

/-- The value that a text holds, and nothing else but spaces. Every step of the reading uses up a
character, so the length of the text bounds its depth. -/
def read? (source : Text) : Option Json :=
  match readValue (source.length + 1) source with
  | some (value, rest) => if (skipSpaces rest).isEmpty then some value else none
  | none => none

end Linewise.Json
