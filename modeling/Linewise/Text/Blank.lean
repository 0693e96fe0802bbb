import Linewise.Text.Class

/-!
Blanks and line breaks. A blank is a character with white-space property or one of the four
information separators; a line break is a blank that also ends a line.
-/

namespace Linewise.Text

def blankRanges : CodeRanges :=
  [(0x9, 0xD), (0x1C, 0x20), (0x85, 0x85), (0xA0, 0xA0), (0x1680, 0x1680), (0x2000, 0x200A),
   (0x2028, 0x2029), (0x202F, 0x202F), (0x205F, 0x205F), (0x3000, 0x3000)]

def isBlank (char : Char) : Bool := blankRanges.has char.toNat

def lineBreakRanges : CodeRanges :=
  [(0xA, 0xD), (0x1C, 0x1E), (0x85, 0x85), (0x2028, 0x2029)]

def isLineBreak (char : Char) : Bool := lineBreakRanges.has char.toNat

def strip (text : Text) : Text := trim isBlank text

def words : Text → List Text
  | [] => []
  | head :: tail =>
      if isBlank head then words tail
      else match tail with
        | [] => [[head]]
        | next :: _ =>
            if isBlank next then [head] :: words tail
            else match words tail with
              | [] => [[head]]
              | word :: rest => (head :: word) :: rest

/-- The lines of a text without their ends. A carriage return and the line feed after it end one
line together; a break at the end of the text starts no further line. -/
def lines : Text → List Text
  | [] => []
  | '\r' :: '\n' :: tail => [] :: lines tail
  | head :: tail =>
      if isLineBreak head then [] :: lines tail
      else match lines tail with
        | [] => [[head]]
        | line :: rest => (head :: line) :: rest

example : words " say  a\tb ".toList = ["say".toList, "a".toList, "b".toList] := by decide

example : lines "a\r\n\nb\n".toList = ["a".toList, [], "b".toList] := by decide

end Linewise.Text
