import Linewise.Expression.Arithmetic
import Linewise.Message
import Linewise.Variable.Conversion
import Linewise.Variable.Initial
import Linewise.Variable.Random

/-!
What a line does. Each command first makes a plan from its arguments and the variables, which may
fail; the plan says what is then done. What the evaluations for a plan leave behind is told apart
from the plan.
-/

namespace Linewise

inductive Action
  | nothing
  | write (texts : List Text)
  /-- End the program, after a message if there is one. -/
  | finish (message : Option Text)
  | declare (name : Text) (stored : Variable)
  | assign (name : Text) (value : Value)
  | exchange (left right : Text) (leftValue rightValue : Value)
  | remove (name : Text)
  /-- Ask for a text and declare a variable with the value it stands for. -/
  | listen (name : Text) (type : DataType) (prompt : Text)
  /-- Draw a value, then write it or declare a variable, or fail after all. -/
  | draw (lottery : Lottery) (type : Text) (target : Except Error (Option Text))

namespace Plan

/-! ## Arguments

A value argument is a text, or an expression in braces. An integer may be given as a literal or as a
reference to a numeric variable. -/

def declared (bindings : Bindings) (name : Text) : Except Error Variable :=
  match bindings name with
  | some stored => .ok stored
  | none => .error (.undeclared name)

def isConstant (bindings : Bindings) (name : Text) : Bool :=
  (bindings name).any Variable.constant

def onlyName (command : Command) (bindings : Bindings) (arguments : List Text) :
    Except Error (Text × Variable) :=
  match arguments with
  | [name] => do
      let name := Text.lower name
      return (name, ← declared bindings name)
  | _ => .error (.oneName command)

def integerArgument (bindings : Bindings) (argument : Text)
    (notNumeric : Text → Error) (notInteger : Text → Error) : Except Error Int :=
  match argument with
  | '@' :: name => do
      let name := Text.lower name
      let stored ← declared bindings name
      if !stored.isNumeric then throw (notNumeric name)
      stored.value.toInteger
  | literal => (Number.readInt literal).mapError fun _ => notInteger literal

def braced? (literal : Text) : Option Text :=
  if Literal.isBraced literal then some (literal.drop 1).dropLast else none

section Evaluated

variable [Evaluator]

def literalValue (bindings : Bindings) (type literal : Text) : Except Error Value := do
  let literal ← substitute bindings literal
  if type = DataType.truth.name then checkedTruth literal else initialValue type (some literal)

def literalEffects (bindings : Bindings) (type literal : Text) : Effects :=
  match substitute bindings literal with
  | .error _ => .none
  | .ok literal =>
      if type = DataType.truth.name then .none else ⟨[], initialWarnings type literal⟩

def messageEffects (bindings : Bindings) (parts : List Text) : Effects :=
  match substitute bindings (Message.ofLine parts) with
  | .error _ => .none
  | .ok message => Message.effects bindings.meaning message

def valueEffects (bindings : Bindings) (type literal : Text) : Effects :=
  match braced? literal with
  | some expression => Expression.effects expression bindings.meaning
  | none => literalEffects bindings type literal

end Evaluated

/-! ## Commands

A command that evaluates something makes its other checks first. -/

section Evaluated

variable [Evaluator]

def say (bindings : Bindings) (arguments : List Text) : Except Error Action :=
  if arguments.isEmpty then .error .missingMessage
  else do return .write [← Message.render bindings arguments]

def exit (bindings : Bindings) (arguments : List Text) : Except Error Action :=
  if arguments.isEmpty then .ok (.finish none)
  else do return .finish (some (← Message.render bindings arguments))

/-- The result of an expression in braces as a value of the type; types that say nothing about the
result take it as it is. -/
def expressionValue (bindings : Bindings) (type expression : Text) :
    Except Error Value := do
  let value ← Expression.shownResult expression bindings.meaning
  match DataType.ofName? type, value, value.numeric? with
  | some .integer, value, some _ => return .integer (← value.toInteger)
  | some .float, value, some _ => return .float (← value.toFloat)
  | some .text, value, _ => return .text (← value.written)
  | some .truth, .text word, _ => checkedTruth word
  | some .truth, value, _ => return .boolean value.isTrue
  | some .character, .text [char], _ => return .text [char]
  | some .character, value, some _ =>
      let code ← value.toInteger
      if 0 ≤ code ∧ code ≤ 127 then return .text [Char.ofNat code.toNat]
      else throw .characterCodeRange
  | some .character, _, none => throw (.notOfType type)
  | _, value, _ => return value

def declaredValue (bindings : Bindings) (type : Text) (values : List Text) :
    Except Error Value :=
  if values.isEmpty then initialValue type none
  else
    let literal := Text.join [' '] values
    match braced? literal with
    | some expression =>
        (expressionValue bindings type expression).mapError (Error.causing .creation)
    | none => literalValue bindings type literal

end Evaluated

/-- Whether a declaration is one of a constant, and its arguments from the type on. -/
def constancy (arguments : List Text) : Except Error (Bool × List Text) :=
  match arguments with
  | first :: second :: rest =>
      if Text.lower first = "const".toList then .ok (true, second :: rest)
      else .ok (false, first :: second :: rest)
  | _ => .error .createArguments

/-- What a line asks to be declared. -/
structure Declaration where
  constant : Bool
  type : Text
  name : Text
  values : List Text

def declaration (bindings : Bindings) (arguments : List Text) : Except Error Declaration := do
  let (constant, rest) ← constancy arguments
  match rest with
  | type :: name :: values =>
      let name := Text.lower name
      if isReserved name then throw .reservedName
      if isConstant bindings name then throw (.constantRedeclared name)
      return ⟨constant, Text.upper type, name, values⟩
  | _ => throw (.createName constant)

def startsWithQuote (text : Text) : Bool :=
  Text.startsWith text ['"'] || Text.startsWith text ['\'']

def listenTarget (second : Text) (rest : List Text) : Except Error (Text × List Text) :=
  if startsWithQuote second then .ok ("listened".toList, second :: rest)
  else if isReserved (Text.lower second) then .error .reservedName
  else .ok (Text.lower second, rest)

def question (bindings : Bindings) (arguments : List Text) :
    Except Error (Text × DataType × List Text) :=
  match arguments with
  | type :: second :: rest => do
      let type ← DataType.supported type
      let (name, parts) ← listenTarget second rest
      if isConstant bindings name then throw (.constantModified name)
      return (name, type, parts)
  | _ => .error .listenArguments

def changeTarget (bindings : Bindings) (arguments : List Text) :
    Except Error (Text × Text × Text) :=
  match arguments with
  | name :: first :: rest => do
      let name := Text.lower name
      let stored ← declared bindings name
      if stored.constant then throw (.constantModified name)
      return (name, stored.type, Text.join [' '] (first :: rest))
  | _ => .error .changeArguments

section Evaluated

variable [Evaluator]

def create (bindings : Bindings) (arguments : List Text) : Except Error Action := do
  let ⟨constant, type, name, values⟩ ← declaration bindings arguments
  return .declare name ⟨type, ← declaredValue bindings type values, constant⟩

def listen (bindings : Bindings) (arguments : List Text) : Except Error Action := do
  let (name, type, parts) ← question bindings arguments
  return .listen name type (← Message.render bindings parts)

def changedValue (bindings : Bindings) (type literal : Text) : Except Error Value :=
  match braced? literal with
  | some expression => Expression.shownResult expression bindings.meaning
  | none => literalValue bindings type literal

def change (bindings : Bindings) (arguments : List Text) : Except Error Action := do
  let (name, type, literal) ← changeTarget bindings arguments
  return .assign name (← changedValue bindings type literal)

end Evaluated

def targetType (bindings : Bindings) (target : Text) : Except Error Text :=
  match target with
  | '?' :: other => (declared bindings (Text.lower other)).map Variable.type
  | target => .ok (Text.upper target)

def convert (bindings : Bindings) (arguments : List Text) : Except Error Action :=
  match arguments with
  | [name, target] => do
      let name := Text.lower name
      let stored ← declared bindings name
      if stored.constant then throw (.constantModified name)
      let type ← targetType bindings target
      let value ← Linewise.convert stored.value stored.type type
      return .declare name ⟨type, value, stored.constant⟩
  | _ => .error .convertArguments

def drawTarget (bindings : Bindings) (arguments : List Text) :
    Except Error (Option Text) :=
  match arguments with
  | [] => .ok none
  | [name] =>
      let name := Text.lower name
      if name = "end".toList then .error .reservedName
      else if isConstant bindings name then .error (.constantModified name)
      else .ok (some name)
  | _ => .error .randomSurplus

def random (bindings : Bindings) (arguments : List Text) : Except Error Action :=
  match arguments with
  | type :: low :: high :: rest => do
      let type := Text.upper type
      let bound (which : Text) (argument : Text) : Except Error Int :=
        integerArgument bindings argument (.randomBoundVariable · which) (.randomBound which)
      let low ← bound "min".toList low
      let high ← bound "max".toList high
      let lottery ← Lottery.of type low high
      return .draw lottery type (drawTarget bindings rest)
  | _ => .error .randomArguments

def round (bindings : Bindings) (arguments : List Text) : Except Error Action :=
  match arguments with
  | [name, precision] => do
      let name := Text.lower name
      let stored ← declared bindings name
      if stored.constant then throw (.constantModified name)
      if !stored.hasType .float then throw .roundType
      let places ← integerArgument bindings precision .precisionVariable .precision
      if places < 0 then throw .negativePrecision
      return .assign name (← stored.value.roundTo places)
  | _ => .error .roundArguments

def delete (bindings : Bindings) (arguments : List Text) : Except Error Action := do
  let (name, _) ← onlyName .delete bindings arguments
  return .remove name

def reset (bindings : Bindings) (arguments : List Text) : Except Error Action := do
  let (name, stored) ← onlyName .reset bindings arguments
  return .assign name (← initialValue stored.type none)

def step (command : Command) (operator : BinaryOperator) (shown : Text)
    (bindings : Bindings) (arguments : List Text) : Except Error Action := do
  let (name, stored) ← onlyName command bindings arguments
  if !stored.isNumeric then throw (.numberNeeded command)
  return .assign name (← operator.applyAs shown stored.value (.integer 1))

def increment (bindings : Bindings) (arguments : List Text) : Except Error Action :=
  step .increment .add "+=".toList bindings arguments

def decrement (bindings : Bindings) (arguments : List Text) : Except Error Action :=
  step .decrement .subtract "-=".toList bindings arguments

def swap (bindings : Bindings) (arguments : List Text) : Except Error Action :=
  match arguments with
  | [left, right] =>
      let left := Text.lower left
      let right := Text.lower right
      match bindings left, bindings right with
      | some first, some second =>
          if first.type = second.type then .ok (.exchange left right first.value second.value)
          else .error .swapTypes
      | _, _ => .error .swapUndeclared
  | _ => .error .swapArguments

def recase (command : Command) (operation : Text) (change : Text → Text)
    (bindings : Bindings) (arguments : List Text) : Except Error Action := do
  let (name, stored) ← onlyName command bindings arguments
  if !(stored.hasType .character || stored.hasType .text) then throw (.textNeeded command)
  match stored.value with
  | .text content => return .assign name (.text (change content))
  | value => throw (.fault (.noAttribute value.kind operation))

def uppercase (bindings : Bindings) (arguments : List Text) : Except Error Action :=
  recase .uppercase "upper".toList Text.upper bindings arguments

def lowercase (bindings : Bindings) (arguments : List Text) : Except Error Action :=
  recase .lowercase "lower".toList Text.lower bindings arguments

def reverse (bindings : Bindings) (arguments : List Text) : Except Error Action := do
  let (name, stored) ← onlyName .reverse bindings arguments
  if !stored.hasType .text then throw (.textNeeded .reverse)
  match stored.value with
  | .text content => return .assign name (.text content.reverse)
  | .tuple items => return .assign name (.tuple items.reverse)
  | value => throw (.fault (.notSubscriptable value.kind))

variable [Evaluator]

/-- The plan of a command before its faults are reported. -/
def unreported (command : Command) (bindings : Bindings) (arguments : List Text) :
    Except Error Action :=
  match command with
  | .branch => .error (.blockCommand .branch)
  | .loop => .error (.blockCommand .loop)
  | .say => say bindings arguments
  | .delete => delete bindings arguments
  | .exit => exit bindings arguments
  | .swap => swap bindings arguments
  | .round => round bindings arguments
  | .reset => reset bindings arguments
  | .random => random bindings arguments
  | .create => create bindings arguments
  | .listen => listen bindings arguments
  | .change => change bindings arguments
  | .convert => convert bindings arguments
  | .reverse => reverse bindings arguments
  | .increment => increment bindings arguments
  | .decrement => decrement bindings arguments
  | .uppercase => uppercase bindings arguments
  | .lowercase => lowercase bindings arguments

def effects (command : Command) (bindings : Bindings) (arguments : List Text) : Effects :=
  match command with
  | .say | .exit => messageEffects bindings arguments
  | .create =>
      match declaration bindings arguments with
      | .error _ => .none
      | .ok given =>
          if given.values.isEmpty then .none
          else valueEffects bindings given.type (Text.join [' '] given.values)
  | .listen =>
      match question bindings arguments with
      | .error _ => .none
      | .ok (_, _, parts) => messageEffects bindings parts
  | .change =>
      match changeTarget bindings arguments with
      | .error _ => .none
      | .ok (_, type, literal) => valueEffects bindings type literal
  | _ => .none

end Plan

def Error.within (command : Command) : Error → Error
  | .fault cause => .inCommand command cause
  | error => error

def Command.plan [Evaluator] (command : Command) (bindings : Bindings) (arguments : List Text) :
    Except Error Action :=
  (Plan.unreported command bindings arguments).mapError (Error.within command)

end Linewise
