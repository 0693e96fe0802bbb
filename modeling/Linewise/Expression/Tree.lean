import Linewise.Value

/-!
Expressions, as they are read from text.
-/

namespace Linewise

inductive UnaryOperator
  | minus
  | plus
  | complement
deriving DecidableEq, Repr

inductive BinaryOperator
  | add
  | subtract
  | multiply
  | divide
  | floorDivide
  | remainder
  | power
  | matrixMultiply
  | bitAnd
  | bitOr
  | bitXor
  | shiftLeft
  | shiftRight
deriving DecidableEq, Repr

inductive Comparison
  | less
  | greater
  | lessOrEqual
  | greaterOrEqual
  | equal
  | notEqual
  | within
  | notWithin
  | identical
  | notIdentical
deriving DecidableEq, Repr

mutual

inductive Expr
  | literal (value : Value)
  | name (name : Text)
  | tuple (items : List Expr)
  | set (items : List Expr)
  | dictionary (entries : List (Expr × Expr))
  | negation (operand : Expr)
  | both (left right : Expr)
  | either (left right : Expr)
  | unary (operator : UnaryOperator) (operand : Expr)
  | binary (operator : BinaryOperator) (left right : Expr)
  /-- Each operand but the last is compared with the next; all comparisons have to hold. -/
  | comparison (first : Expr) (rest : List (Comparison × Expr))
  | choice (condition consequence alternative : Expr)
  | subscript (sequence : Expr) (index : Index)
  /-- A subscript with a comma. -/
  | multipleSubscript (sequence : Expr) (indices : List Index)
  | call (callee : Expr) (arguments : List Expr)
  | member (owner : Expr) (name : Text)

inductive Index
  | position (position : Expr)
  | slice (lower upper step : Option Expr)

end

instance : Inhabited Expr := ⟨.literal .null⟩

end Linewise
