import Linewise.Expression.Token
import Linewise.Expression.Tree

/-!
From tokens to expressions. Each function reads one level of precedence at the start of a token
list and returns what is left. The argument called `fuel` bounds the depth of the reading;
`read?` starts with more than a token list of its length can use.
-/

namespace Linewise.Expression

/-! ## Operators by level -/

/-- The binary operators from the loosest level to the tightest, unary and power apart. -/
def levels : List (List (Symbol × BinaryOperator)) :=
  [[(.bar, .bitOr)],
   [(.caret, .bitXor)],
   [(.ampersand, .bitAnd)],
   [(.doubleLess, .shiftLeft), (.doubleGreater, .shiftRight)],
   [(.plus, .add), (.minus, .subtract)],
   [(.star, .multiply), (.slash, .divide), (.doubleSlash, .floorDivide),
    (.percent, .remainder), (.atSign, .matrixMultiply)]]

def operatorAt (level : List (Symbol × BinaryOperator)) :
    List Token → Option (BinaryOperator × List Token)
  | .symbol symbol :: rest => (level.lookup symbol).map (·, rest)
  | _ => none

def comparisonAt : List Token → Option (Comparison × List Token)
  | .symbol .less :: rest => some (.less, rest)
  | .symbol .greater :: rest => some (.greater, rest)
  | .symbol .lessEqual :: rest => some (.lessOrEqual, rest)
  | .symbol .greaterEqual :: rest => some (.greaterOrEqual, rest)
  | .symbol .equal :: rest => some (.equal, rest)
  | .symbol .notEqual :: rest => some (.notEqual, rest)
  | .keyword .membership :: rest => some (.within, rest)
  | .keyword .negation :: .keyword .membership :: rest => some (.notWithin, rest)
  | .keyword .identity :: .keyword .negation :: rest => some (.notIdentical, rest)
  | .keyword .identity :: rest => some (.identical, rest)
  | _ => none

def unaryAt : List Token → Option (UnaryOperator × List Token)
  | .symbol .minus :: rest => some (.minus, rest)
  | .symbol .plus :: rest => some (.plus, rest)
  | .symbol .tilde :: rest => some (.complement, rest)
  | _ => none

def adjacentTexts : List Token → Text × List Token
  | .text content :: rest =>
      let (more, rest) := adjacentTexts rest
      (content ++ more, rest)
  | tokens => ([], tokens)

/-! ## Levels of precedence

Each reader takes as many tokens as it can and gives back the others. Binary operators of one level
are grouped to the left. Texts, calls, subscripts and members follow one another without an
operator. -/

mutual

/-- A choice `consequence if condition else alternative`, or anything tighter. -/
def readExpression : Nat → List Token → Option (Expr × List Token)
  | 0, _ => none
  | fuel + 1, tokens => do
      let (value, rest) ← readDisjunction fuel tokens
      match rest with
      | .keyword .condition :: rest =>
          let (condition, rest) ← readDisjunction fuel rest
          match rest with
          | .keyword .alternative :: rest =>
              let (alternative, rest) ← readExpression fuel rest
              return (.choice condition value alternative, rest)
          | _ => none
      | _ => return (value, rest)

def readDisjunction : Nat → List Token → Option (Expr × List Token)
  | 0, _ => none
  | fuel + 1, tokens => do
      let (left, rest) ← readConjunction fuel tokens
      match rest with
      | .keyword .disjunction :: rest =>
          let (right, rest) ← readDisjunction fuel rest
          return (.either left right, rest)
      | _ => return (left, rest)

def readConjunction : Nat → List Token → Option (Expr × List Token)
  | 0, _ => none
  | fuel + 1, tokens => do
      let (left, rest) ← readNegation fuel tokens
      match rest with
      | .keyword .conjunction :: rest =>
          let (right, rest) ← readConjunction fuel rest
          return (.both left right, rest)
      | _ => return (left, rest)

def readNegation : Nat → List Token → Option (Expr × List Token)
  | 0, _ => none
  | fuel + 1, tokens =>
      match tokens with
      | .keyword .negation :: rest => do
          let (operand, rest) ← readNegation fuel rest
          return (.negation operand, rest)
      | _ => readComparison fuel tokens

def readComparison : Nat → List Token → Option (Expr × List Token)
  | 0, _ => none
  | fuel + 1, tokens => do
      let (first, rest) ← readLevel fuel levels tokens
      let (links, rest) ← readLinks fuel rest
      return (if links.isEmpty then first else .comparison first links, rest)

def readLinks : Nat → List Token → Option (List (Comparison × Expr) × List Token)
  | 0, _ => none
  | fuel + 1, tokens =>
      match comparisonAt tokens with
      | none => some ([], tokens)
      | some (comparison, rest) => do
          let (operand, rest) ← readLevel fuel levels rest
          let (links, rest) ← readLinks fuel rest
          return ((comparison, operand) :: links, rest)

def readLevel : Nat → List (List (Symbol × BinaryOperator)) → List Token →
    Option (Expr × List Token)
  | 0, _, _ => none
  | fuel + 1, [], tokens => readUnary fuel tokens
  | fuel + 1, level :: tighter, tokens => do
      let (left, rest) ← readLevel fuel tighter tokens
      readOperands fuel level tighter left rest

def readOperands : Nat → List (Symbol × BinaryOperator) →
    List (List (Symbol × BinaryOperator)) → Expr → List Token → Option (Expr × List Token)
  | 0, _, _, _, _ => none
  | fuel + 1, level, tighter, left, tokens =>
      match operatorAt level tokens with
      | none => some (left, tokens)
      | some (operator, rest) => do
          let (right, rest) ← readLevel fuel tighter rest
          readOperands fuel level tighter (.binary operator left right) rest

/-- A power binds tighter than a sign before it, and looser than one after its operator. -/
def readUnary : Nat → List Token → Option (Expr × List Token)
  | 0, _ => none
  | fuel + 1, tokens =>
      match unaryAt tokens with
      | some (operator, rest) => do
          let (operand, rest) ← readUnary fuel rest
          return (.unary operator operand, rest)
      | none => do
          let (base, rest) ← readPrimary fuel tokens
          match rest with
          | .symbol .doubleStar :: rest =>
              let (exponent, rest) ← readUnary fuel rest
              return (.binary .power base exponent, rest)
          | _ => return (base, rest)

def readPrimary : Nat → List Token → Option (Expr × List Token)
  | 0, _ => none
  | fuel + 1, tokens => do
      let (atom, rest) ← readAtom fuel tokens
      readSuffixes fuel atom rest

def readSuffixes : Nat → Expr → List Token → Option (Expr × List Token)
  | 0, _, _ => none
  | fuel + 1, operand, tokens =>
      match tokens with
      | .symbol .leftParen :: rest => do
          let (arguments, rest) ← readArguments fuel rest
          readSuffixes fuel (.call operand arguments) rest
      | .symbol .leftBracket :: rest => do
          let (index, rest) ← readIndex fuel rest
          match rest with
          | .symbol .rightBracket :: rest => readSuffixes fuel (.subscript operand index) rest
          | .symbol .comma :: rest =>
              let (indices, rest) ← readIndices fuel rest
              readSuffixes fuel (.multipleSubscript operand (index :: indices)) rest
          | _ => none
      | .symbol .dot :: .name name :: rest => readSuffixes fuel (.member operand name) rest
      | _ => some (operand, tokens)

def readAtom : Nat → List Token → Option (Expr × List Token)
  | 0, _ => none
  | fuel + 1, tokens =>
      match tokens with
      | .number value :: rest => some (.literal value, rest)
      | .name name :: rest => some (.name name, rest)
      | .text _ :: _ =>
          let (content, rest) := adjacentTexts tokens
          some (.literal (.text content), rest)
      | .keyword .truth :: rest => some (.literal (.boolean true), rest)
      | .keyword .falsehood :: rest => some (.literal (.boolean false), rest)
      | .keyword .nothing :: rest => some (.literal .null, rest)
      | .symbol .leftParen :: .symbol .rightParen :: rest => some (.tuple [], rest)
      | .symbol .leftParen :: rest => do
          let (group, rest) ← readGroup fuel rest
          match rest with
          | .symbol .rightParen :: rest => return (group, rest)
          | _ => none
      | .symbol .leftBrace :: .symbol .rightBrace :: rest => some (.dictionary [], rest)
      | .symbol .leftBrace :: rest => do
          let (first, rest) ← readExpression fuel rest
          match rest with
          | .symbol .colon :: rest =>
              let (item, rest) ← readExpression fuel rest
              let (entries, rest) ← readEntries fuel rest
              return (.dictionary ((first, item) :: entries), rest)
          | .symbol .comma :: rest =>
              let (items, rest) ← readItems fuel rest
              match rest with
              | .symbol .rightBrace :: rest => return (.set (first :: items), rest)
              | _ => none
          | .symbol .rightBrace :: rest => return (.set [first], rest)
          | _ => none
      | _ => none

/-- One expression, or a tuple if a comma follows it. -/
def readGroup : Nat → List Token → Option (Expr × List Token)
  | 0, _ => none
  | fuel + 1, tokens => do
      let (first, rest) ← readExpression fuel tokens
      match rest with
      | .symbol .comma :: rest =>
          let (items, rest) ← readItems fuel rest
          return (.tuple (first :: items), rest)
      | _ => return (first, rest)

/-- Expressions after a comma, up to the token that ends the group. The last one may be followed by
a comma. -/
def readItems : Nat → List Token → Option (List Expr × List Token)
  | 0, _ => none
  | fuel + 1, tokens =>
      match tokens with
      | [] => some ([], [])
      | .symbol .rightParen :: _ | .symbol .rightBrace :: _ => some ([], tokens)
      | _ => do
          let (item, rest) ← readExpression fuel tokens
          match rest with
          | .symbol .comma :: rest =>
              let (items, rest) ← readItems fuel rest
              return (item :: items, rest)
          | _ => return ([item], rest)

def readEntries : Nat → List Token → Option (List (Expr × Expr) × List Token)
  | 0, _ => none
  | fuel + 1, tokens =>
      match tokens with
      | .symbol .rightBrace :: rest => some ([], rest)
      | .symbol .comma :: .symbol .rightBrace :: rest => some ([], rest)
      | .symbol .comma :: rest => do
          let (key, rest) ← readExpression fuel rest
          match rest with
          | .symbol .colon :: rest =>
              let (item, rest) ← readExpression fuel rest
              let (entries, rest) ← readEntries fuel rest
              return ((key, item) :: entries, rest)
          | _ => none
      | _ => none

/-- The arguments of a call, up to and including the closing bracket. A name may be given to an
argument. -/
def readArguments : Nat → List Token → Option (List Expr × List Token)
  | 0, _ => none
  | fuel + 1, tokens =>
      match tokens with
      | .symbol .rightParen :: rest => some ([], rest)
      | _ => do
          let tokens := match tokens with
            | .name _ :: .symbol .assign :: rest => rest
            | _ => tokens
          let (argument, rest) ← readExpression fuel tokens
          match rest with
          | .symbol .rightParen :: rest => return ([argument], rest)
          | .symbol .comma :: rest =>
              let (arguments, rest) ← readArguments fuel rest
              return (argument :: arguments, rest)
          | _ => none

def readIndex : Nat → List Token → Option (Index × List Token)
  | 0, _ => none
  | fuel + 1, tokens => do
      let (lower, rest) ← readBound fuel tokens
      match rest with
      | .symbol .colon :: rest =>
          let (upper, rest) ← readBound fuel rest
          match rest with
          | .symbol .colon :: rest =>
              let (step, rest) ← readBound fuel rest
              return (.slice lower upper step, rest)
          | _ => return (.slice lower upper none, rest)
      | _ => return (.position (← lower), rest)

def readBound : Nat → List Token → Option (Option Expr × List Token)
  | 0, _ => none
  | fuel + 1, tokens =>
      match tokens with
      | .symbol .colon :: _ | .symbol .comma :: _ | .symbol .rightBracket :: _ =>
          some (none, tokens)
      | _ => do
          let (bound, rest) ← readExpression fuel tokens
          return (some bound, rest)

def readIndices : Nat → List Token → Option (List Index × List Token)
  | 0, _ => none
  | fuel + 1, tokens =>
      match tokens with
      | .symbol .rightBracket :: rest => some ([], rest)
      | _ => do
          let (index, rest) ← readIndex fuel tokens
          match rest with
          | .symbol .rightBracket :: rest => return ([index], rest)
          | .symbol .comma :: rest =>
              let (indices, rest) ← readIndices fuel rest
              return (index :: indices, rest)
          | _ => none

end

/-- More than the depth of any reading of so many tokens: between two tokens of an expression lie
at most the levels of precedence. -/
def sufficientFuel (tokens : List Token) : Nat := 24 * (tokens.length + 2)

def read? (source : Text) : Option Expr := do
  let tokens ← tokens? source
  match readGroup (sufficientFuel tokens) tokens with
  | some (expression, []) => some expression
  | _ => none

end Linewise.Expression
