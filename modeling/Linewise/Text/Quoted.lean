import Linewise.Text.Blank
import Linewise.Text.QuotedTable

/-!
A text as it is shown inside a message: between quotes, with the characters that would not be
seen written as escapes.
-/

namespace Linewise.Text

def isVisible (char : Char) : Bool :=
  if char.toNat < 128 then 0x20 ≤ char.toNat && char.toNat < 0x7F
  else !hiddenRanges.has char.toNat

def hex (width number : Nat) : Text :=
  let digits := Nat.toDigits 16 number
  List.replicate (width - digits.length) '0' ++ digits

/-- The escape of a character by its code point, in the shortest of the three forms. -/
def codeEscape (code : Nat) : Text :=
  if code < 0x100 then '\\' :: 'x' :: hex 2 code
  else if code < 0x10000 then '\\' :: 'u' :: hex 4 code
  else '\\' :: 'U' :: hex 8 code

def escape (quote char : Char) : Text :=
  if char = quote ∨ char = '\\' then ['\\', char]
  else if char = '\n' then ['\\', 'n']
  else if char = '\r' then ['\\', 'r']
  else if char = '\t' then ['\\', 't']
  else if isVisible char then [char]
  else codeEscape char.toNat

/-- Single quotes, unless the text holds single quotes and no double ones. -/
def quoteFor (text : Text) : Char :=
  if text.contains '\'' && !text.contains '"' then '"' else '\''

def quoted (text : Text) : Text :=
  let quote := quoteFor text
  quote :: text.flatMap (escape quote) ++ [quote]

example : quoted "it's".toList = "\"it's\"".toList := by decide

example : quoted "a\n\\".toList = "'a\\n\\\\'".toList := by decide

end Linewise.Text
