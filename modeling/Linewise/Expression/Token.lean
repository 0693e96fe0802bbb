import Linewise.Number.Reading
import Linewise.Text.Word
import Linewise.Value

/-!
The tokens of an expression. Text that is no sequence of tokens is refused as a whole.
-/

namespace Linewise.Expression

inductive Keyword
  | conjunction
  | disjunction
  | negation
  | membership
  | identity
  | condition
  | alternative
  | truth
  | falsehood
  | nothing
  /-- A word that is neither a name nor of any use in an expression. -/
  | reserved
deriving DecidableEq, Repr

inductive Symbol
  | plus
  | minus
  | star
  | doubleStar
  | slash
  | doubleSlash
  | percent
  | atSign
  | ampersand
  | bar
  | caret
  | tilde
  | doubleLess
  | doubleGreater
  | less
  | greater
  | lessEqual
  | greaterEqual
  | equal
  | notEqual
  | leftParen
  | rightParen
  | leftBracket
  | rightBracket
  | leftBrace
  | rightBrace
  | comma
  | colon
  | dot
  | assign
deriving DecidableEq, Repr

inductive Token
  | number (value : Value)
  | text (content : Text)
  | name (name : Text)
  | keyword (keyword : Keyword)
  | symbol (symbol : Symbol)
deriving Repr

/-! ## Words -/

def keywords : List (Text × Keyword) :=
  [("and".toList, .conjunction), ("or".toList, .disjunction), ("not".toList, .negation),
   ("in".toList, .membership), ("is".toList, .identity), ("if".toList, .condition),
   ("else".toList, .alternative), ("True".toList, .truth), ("False".toList, .falsehood),
   ("None".toList, .nothing)]
  ++ (["as", "assert", "async", "await", "break", "class", "continue", "def", "del", "elif",
    "except", "finally", "for", "from", "global", "import", "lambda", "nonlocal", "pass",
    "raise", "return", "try", "while", "with", "yield"].map fun word =>
      (word.toList, Keyword.reserved))

def wordToken (word : Text) : Token :=
  match keywords.lookup word with
  | some keyword => .keyword keyword
  | none => .name word

/-! ## Symbols -/

def foreignSymbols : List Text :=
  ["**=", "//=", ">>=", "<<=", "...", "+=", "-=", "*=", "/=", "%=", "&=", "|=", "^=", "@=",
    "->", ":=", "<>"].map String.toList

/-- Symbols that are the start of another one come after it. -/
def symbols : List (Text × Symbol) :=
  [("**".toList, .doubleStar), ("//".toList, .doubleSlash), ("<<".toList, .doubleLess),
   (">>".toList, .doubleGreater), ("<=".toList, .lessEqual), (">=".toList, .greaterEqual),
   ("==".toList, .equal), ("!=".toList, .notEqual), ("+".toList, .plus), ("-".toList, .minus),
   ("*".toList, .star), ("/".toList, .slash), ("%".toList, .percent), ("@".toList, .atSign),
   ("&".toList, .ampersand), ("|".toList, .bar), ("^".toList, .caret), ("~".toList, .tilde),
   ("<".toList, .less), (">".toList, .greater), ("(".toList, .leftParen),
   (")".toList, .rightParen), ("[".toList, .leftBracket), ("]".toList, .rightBracket),
   ("\x7b".toList, .leftBrace), ("\x7d".toList, .rightBrace), (",".toList, .comma),
   (":".toList, .colon), (".".toList, .dot), ("=".toList, .assign)]

def scanSymbol (text : Text) : Option (Token × Text) :=
  if foreignSymbols.any text.startsWith then none
  else (symbols.find? fun entry => text.startsWith entry.1).map fun entry =>
    (.symbol entry.2, text.drop entry.1.length)

/-! ## Numbers -/

def asciiDigit? (char : Char) : Option Nat :=
  if Text.isAsciiDigit char then some (char.toNat - '0'.toNat) else none

private def hexDigit? (char : Char) : Option Nat :=
  if Text.isAsciiDigit char then some (char.toNat - '0'.toNat)
  else if 'a' ≤ char ∧ char ≤ 'f' then some (char.toNat - 'a'.toNat + 10)
  else if 'A' ≤ char ∧ char ≤ 'F' then some (char.toNat - 'A'.toNat + 10)
  else none

private def digitBelow? (base : Nat) (char : Char) : Option Nat :=
  (hexDigit? char).filter (· < base)

/-- Digits with single underscores between them; none at all are read as no digits. An underscore
that no digit follows is refused. -/
def scanDigits (digit? : Char → Option Nat) : Text → Option (List Nat × Text)
  | [] => some ([], [])
  | head :: '_' :: tail =>
      match digit? head with
      | none => some ([], head :: '_' :: tail)
      | some digit => do
          let (digits, rest) ← scanDigits digit? tail
          if digits.isEmpty then none else return (digit :: digits, rest)
  | head :: tail =>
      match digit? head with
      | none => some ([], head :: tail)
      | some digit => do
          let (digits, rest) ← scanDigits digit? tail
          return (digit :: digits, rest)

/-- A number may be followed at once by one of the words that can stand after it, and by no other
word. -/
def endsNumber (rest : Text) : Bool :=
  ["and", "else", "for", "if", "in", "is", "or", "not"].any
    (fun word => rest.startsWith word.toList)
    || match rest with
      | [] => true
      | char :: _ => !(Text.isWord char || 128 ≤ char.toNat)

def finishNumber (value : Value) (rest : Text) : Option (Token × Text) :=
  if endsNumber rest then some (.number value, rest) else none

def scanBased (base : Nat) (text : Text) : Option (Token × Text) := do
  let text := match text with
    | '_' :: rest => rest
    | text => text
  let (digits, rest) ← scanDigits (digitBelow? base) text
  if digits.isEmpty || rest.head?.any Text.isAsciiDigit then none
  else
    let number := digits.foldl (fun number digit => base * number + digit) 0
    finishNumber (.integer number) rest

/-- The exponent of a decimal, zero if there is none. A letter that neither a digit nor a sign
follows begins a word, not an exponent. -/
def scanExponent (text : Text) : Option (Option Int × Text) :=
  match text with
  | letter :: after =>
      if letter = 'e' ∨ letter = 'E' then
        let (negative, unsigned) := Number.readSign after
        match scanDigits asciiDigit? unsigned with
        | none => none
        | some ([], _) => if unsigned = after then some (none, text) else none
        | some (digits, rest) =>
            let exponent : Int := Number.ofDigits digits
            some (some (if negative then -exponent else exponent), rest)
      else some (none, text)
  | [] => some (none, [])

def finishDecimal (whole fractional : List Nat) (hasPoint : Bool) (text : Text) :
    Option (Token × Text) := do
  let (exponent, rest) ← scanExponent text
  if hasPoint || exponent.isSome then
    let shift : Int := exponent.getD 0 - fractional.length
    finishNumber (.float (Number.ofDecimalDigits false (whole ++ fractional) shift)) rest
  else if whole.head? = some 0 && whole.any (· != 0) then none
  else if Fault.mostDigits < whole.length then none
  else finishNumber (.integer (Number.ofDigits whole)) rest

def scanFractional (whole : List Nat) (text : Text) : Option (Token × Text) :=
  match text with
  | '.' :: after =>
      (scanDigits asciiDigit? after).bind fun (digits, rest) => finishDecimal whole digits true rest
  | _ => finishDecimal whole [] false text

def scanNumber (text : Text) : Option (Token × Text) :=
  match text with
  | '0' :: letter :: rest =>
      if letter = 'x' ∨ letter = 'X' then scanBased 16 rest
      else if letter = 'o' ∨ letter = 'O' then scanBased 8 rest
      else if letter = 'b' ∨ letter = 'B' then scanBased 2 rest
      else (scanDigits asciiDigit? text).bind fun (whole, rest) => scanFractional whole rest
  | _ => (scanDigits asciiDigit? text).bind fun (whole, rest) => scanFractional whole rest

/-! ## Quoted text -/

/-- Skip characters up to the closing quote. A backslash keeps the next character from closing the
text, and only a text between triple quotes goes over several lines. -/
def scanBody (closing : Text) (multiline : Bool) : Text → Option (Text × Text)
  | [] => none
  | '\\' :: escaped :: tail => do
      let (body, rest) ← scanBody closing multiline tail
      return ('\\' :: escaped :: body, rest)
  | head :: tail =>
      if closing.isPrefixOf (head :: tail) then some ([], (head :: tail).drop closing.length)
      else if head = '\n' && !multiline then none
      else do
        let (body, rest) ← scanBody closing multiline tail
        return (head :: body, rest)

private def codeOf (digits : List Nat) : Option Char :=
  let code := digits.foldl (fun number digit => 16 * number + digit) 0
  if code.isValidChar then some (Char.ofNat code) else none

private def octalDigit? (char : Char) : Option Nat := digitBelow? 8 char

private def simpleEscape? : Char → Option Char
  | 'n' => some '\n'
  | 't' => some '\t'
  | 'r' => some '\r'
  | '\\' => some '\\'
  | '\'' => some '\''
  | '"' => some '"'
  | 'a' => some '\x07'
  | 'b' => some '\x08'
  | 'f' => some '\x0c'
  | 'v' => some '\x0b'
  | _ => none

private def hexEscape (count : Nat) (tail : Text) : Option Char :=
  let digits := tail.take count
  if digits.length = count then (digits.mapM hexDigit?).bind codeOf else none

/-- The text that a body between quotes stands for, with `skipped` more characters already used by
an escape. An unknown escape stands for itself. -/
def unescapeFrom : Nat → Text → Option Text
  | _, [] => some []
  | skipped + 1, _ :: tail => unescapeFrom skipped tail
  | 0, '\\' :: '\n' :: tail => unescapeFrom 0 tail
  | 0, '\\' :: 'x' :: tail => do return (← hexEscape 2 tail) :: (← unescapeFrom 2 tail)
  | 0, '\\' :: 'u' :: tail => do return (← hexEscape 4 tail) :: (← unescapeFrom 4 tail)
  | 0, '\\' :: 'U' :: tail => do return (← hexEscape 8 tail) :: (← unescapeFrom 8 tail)
  | 0, '\\' :: 'N' :: _ => none
  | 0, '\\' :: escaped :: tail =>
      match simpleEscape? escaped with
      | some char => (unescapeFrom 0 tail).map (char :: ·)
      | none =>
          match octalDigit? escaped with
          | some first =>
              let more := (tail.take 2).takeWhile fun char => (octalDigit? char).isSome
              let code := (more.filterMap octalDigit?).foldl (fun n digit => 8 * n + digit) first
              (unescapeFrom more.length tail).map (Char.ofNat code :: ·)
          | none => (unescapeFrom 0 tail).map ('\\' :: escaped :: ·)
  | 0, head :: tail => (unescapeFrom 0 tail).map (head :: ·)

/-- A text that begins with its opening quote. A raw text keeps its backslashes. -/
def scanQuoted (raw : Bool) (text : Text) : Option (Token × Text) := do
  let quote ← text.head?
  let triple := [quote, quote, quote]
  let (body, rest) ←
    if text.startsWith triple then scanBody triple true (text.drop 3)
    else scanBody [quote] false (text.drop 1)
  let content ← if raw then some body else unescapeFrom 0 body
  return (.text content, rest)

/-! ## Sequences of tokens

A letter right before a quote says how the quoted text is to be read. Brackets may be nested only so
deep. -/

def isQuote (char : Char) : Bool := char = '"' || char = '\''

def scanWord (text : Text) : Option (Token × Text) :=
  let word := text.takeWhile Text.isNamePart
  let rest := text.dropWhile Text.isNamePart
  if rest.head?.any isQuote then
    if word = ['r'] ∨ word = ['R'] then scanQuoted true rest
    else if word = ['u'] ∨ word = ['U'] then scanQuoted false rest
    else if ["b", "br", "rb", "f", "fr", "rf"].any (·.toList = word.map Char.toLower) then none
    else some (wordToken word, rest)
  else some (wordToken word, rest)

def nextToken (text : Text) : Option (Token × Text) :=
  match text with
  | [] => none
  | head :: tail =>
      if Text.isNameStart head then scanWord text
      else if isQuote head then scanQuoted false text
      else if Text.isAsciiDigit head then scanNumber text
      else if head = '.' ∧ tail.head?.any Text.isAsciiDigit then scanNumber text
      else scanSymbol text

def isSpace (char : Char) : Bool := char = ' ' || char = '\t' || char = '\x0c'

/-- Nothing but blank lines and comments follows. The last line, if it has no end, may hold a
comment but no spaces alone. -/
private def onlyBlankLines : Text → Bool
  | [] => true
  | '\n' :: tail => onlyBlankLines tail
  | '#' :: tail => skipComment tail
  | head :: tail => isSpace head && indented tail
where
  indented : Text → Bool
    | [] => false
    | '\n' :: tail => onlyBlankLines tail
    | '#' :: tail => skipComment tail
    | head :: tail => isSpace head && indented tail
  skipComment : Text → Bool
    | [] => true
    | '\n' :: tail => onlyBlankLines tail
    | _ :: tail => skipComment tail

def deepestNesting : Nat := 200

def nesting? (depth : Nat) : Token → Option Nat
  | .symbol .leftParen | .symbol .leftBracket | .symbol .leftBrace =>
      if depth < deepestNesting then some (depth + 1) else none
  | .symbol .rightParen | .symbol .rightBracket | .symbol .rightBrace =>
      if 0 < depth then some (depth - 1) else none
  | _ => some depth

/-- Inside brackets a line may end anywhere; outside, only blank lines may follow its end. -/
def tokensFrom (depth : Nat) (text : Text) : Option (List Token) :=
  match text with
  | [] => if depth = 0 then some [] else none
  | head :: tail =>
      if isSpace head then tokensFrom depth tail
      else if head = '#' then tokensFrom depth (tail.dropWhile (· != '\n'))
      else if head = '\n' then
        if 0 < depth then tokensFrom depth tail
        else if onlyBlankLines tail then some [] else none
      else if head = '\\' then
        match tail with
        | '\n' :: rest => if rest.isEmpty then none else tokensFrom depth rest
        | _ => none
      else
        match nextToken (head :: tail) with
        | none => none
        | some (token, rest) =>
            if _shorter : rest.length < (head :: tail).length then
              match nesting? depth token with
              | none => none
              | some inner => (tokensFrom inner rest).map (token :: ·)
            else none
termination_by text.length
decreasing_by
  all_goals simp only [List.length_cons]
  · omega
  · exact Nat.lt_succ_of_le (Text.length_dropWhile_le _ _)
  · omega
  · omega
  · exact _shorter

def withLineFeeds : Text → Text
  | [] => []
  | '\r' :: '\n' :: tail => '\n' :: withLineFeeds tail
  | '\r' :: tail => '\n' :: withLineFeeds tail
  | head :: tail => head :: withLineFeeds tail

/-- Skip the blank lines and comments before the expression; the line on which it begins is not
indented. -/
def skipBlankLines : Text → Option Text
  | [] => some []
  | '\n' :: tail => skipBlankLines tail
  | '#' :: tail => skipComment tail
  | head :: tail =>
      if head = ' ' ∨ head = '\t' then skipIndented tail else some (head :: tail)
where
  skipIndented : Text → Option Text
    | [] => none
    | '\n' :: tail => skipBlankLines tail
    | '#' :: tail => skipComment tail
    | head :: tail => if isSpace head then skipIndented tail else none
  skipComment : Text → Option Text
    | [] => some []
    | '\n' :: tail => skipBlankLines tail
    | _ :: tail => skipComment tail

def tokens? (source : Text) : Option (List Token) :=
  if source.contains '\x00' then none
  else
    let text := (withLineFeeds source).dropWhile fun char => char = ' ' || char = '\t'
    (skipBlankLines text).bind (tokensFrom 0)

end Linewise.Expression
