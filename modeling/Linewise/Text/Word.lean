import Linewise.Text.Digit
import Linewise.Text.NameTable
import Linewise.Text.WordTable

/-!
Word characters (letters, numbers and the underscore) and the characters of names in expressions.
-/

namespace Linewise.Text

def isAsciiLetter (char : Char) : Bool :=
  ('a' ≤ char && char ≤ 'z') || ('A' ≤ char && char ≤ 'Z')

def isAsciiDigit (char : Char) : Bool := '0' ≤ char && char ≤ '9'

def isAlphanumeric (char : Char) : Bool :=
  if char.toNat < 128 then isAsciiLetter char || isAsciiDigit char
  else wordRanges.has char.toNat

def isWord (char : Char) : Bool :=
  if char.toNat < 128 then isAsciiLetter char || isAsciiDigit char || char = '_'
  else wordRanges.has char.toNat

theorem isWord_eq (char : Char) : isWord char = (isAlphanumeric char || char = '_') := by
  unfold isWord isAlphanumeric
  split
  · rfl
  · next beyond =>
      have other : char ≠ '_' := by
        rintro rfl
        exact beyond (by decide)
      simp [other]

def isNameStart (char : Char) : Bool :=
  if char.toNat < 128 then isAsciiLetter char || char = '_'
  else nameSymbolRanges.has char.toNat ||
    (wordRanges.has char.toNat && !nameExcludedRanges.has char.toNat
      && !nameInnerRanges.has char.toNat && !decimalRanges.has char.toNat)

def isNamePart (char : Char) : Bool :=
  if char.toNat < 128 then isWord char
  else nameSymbolRanges.has char.toNat || nameMarkRanges.has char.toNat ||
    (wordRanges.has char.toNat && !nameExcludedRanges.has char.toNat)

end Linewise.Text
