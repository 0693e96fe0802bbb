import Linewise.Number.Reading

/-!
Which texts are taken for arithmetic: those with matching brackets that hold an operator or a
bracket, or are a number.
-/

namespace Linewise.Expression

/-- Every closing bracket closes an opening one before it, and with `depth` brackets already open
none stays open. Other characters do not matter. -/
def isBalanced (opening closing : Char) : Nat → Text → Bool
  | depth, [] => depth = 0
  | depth, head :: tail =>
      if head = opening then isBalanced opening closing (depth + 1) tail
      else if head = closing then
        match depth with
        | 0 => false
        | depth + 1 => isBalanced opening closing depth tail
      else isBalanced opening closing depth tail

def operatorChars : List Char := ['+', '-', '*', '/', '%', '(', ')']

def looksArithmetic (source : Text) : Bool :=
  isBalanced '(' ')' 0 source && isBalanced '\x7b' '\x7d' 0 source
    && ((Number.readFloat? source).isSome || source.any operatorChars.contains)

end Linewise.Expression
