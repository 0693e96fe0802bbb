import Linewise.Command
import Linewise.Fault

/-!
Causes for which a line, a condition or a program fails, and the wording of each.
-/

namespace Linewise

inductive Error
  /-- An evaluation failed outside any calculation. -/
  | fault (cause : Fault)
  | calculation (cause : Fault)
  | unsupportedType (type : Text)
  | braceExpression
  | unreadable (literal type : Text) (cause : Fault)
  | characterCodeRange
  | invalidCharacter
  | conversion (cause : Error)
  | invalidConversion (old new : Text)
  | unsupportedConversion (old new : Text)
  | emptyRange
  | characterRange
  | truthRange
  | condition (condition : Text) (cause : Error)
  | missingEnd (block : Text)
  | missingDo (command : Command)
  | strayElse
  | strayEnd
  | loopLimit (limit : Int)
  | blockCommand (command : Command)
  | missingMessage
  | createArguments
  | createName (constant : Bool)
  | reservedName
  | constantRedeclared (name : Text)
  | constantModified (name : Text)
  | notATruthValue (literal : Text)
  | creation (cause : Error)
  | notOfType (type : Text)
  | listenArguments
  | entered (type : Text) (cause : Error)
  | changeArguments
  | undeclared (name : Text)
  | convertArguments
  | randomArguments
  | randomSurplus
  | randomBoundVariable (name bound : Text)
  | randomBound (bound literal : Text)
  | roundArguments
  | roundType
  | precisionVariable (name : Text)
  | precision (literal : Text)
  | negativePrecision
  | oneName (command : Command)
  | numberNeeded (command : Command)
  | textNeeded (command : Command)
  | swapArguments
  | swapUndeclared
  | swapTypes
  | inCommand (command : Command) (cause : Fault)
  | unknownCommand (word : Text)
  | missingFile
  | fileNotFound (name : Text)
  | fileReading (cause : Text)
  /-- What was begun did not come to an end. -/
  | unfinished
deriving DecidableEq, Repr

namespace Error

private def wording (literal : String) : Text := literal.toList

def message : Error → Text
  | fault cause => cause.message
  | calculation cause => wording "calculation Error: " ++ cause.message
  | unsupportedType type => wording "unsupported type: " ++ type
  | braceExpression =>
      wording "expression with curly braces should be handled by the interpreter"
  | unreadable literal type cause =>
      wording "cannot convert '" ++ literal ++ wording "' to " ++ type ++ wording ": "
        ++ cause.message
  | characterCodeRange => wording "CHAR ASCII value must be between 0 and 127"
  | invalidCharacter => wording "invalid CHAR value"
  | conversion cause => wording "conversion error: " ++ cause.message
  | invalidConversion old new => wording "invalid conversion from " ++ old ++ wording " to " ++ new
  | unsupportedConversion old new =>
      wording "unsupported conversion: " ++ old ++ wording " -> " ++ new
  | emptyRange => wording "min value cannot be greater than max value"
  | characterRange => wording "CHAR range must be between 0 and 127"
  | truthRange => wording "invalid BOOL range (use 1-2 or 1-3)"
  | condition text cause =>
      wording "error evaluating condition '" ++ text ++ wording "': " ++ cause.message
  | missingEnd block => wording "missing ENDO for " ++ block ++ wording " statement"
  | missingDo command => command.title ++ wording " statement must end with DO"
  | strayElse => wording "ELSE without matching IF"
  | strayEnd => wording "ENDO without matching IF or WHILE"
  | loopLimit limit =>
      wording "WHILE loop exceeded maximum iterations (" ++ Text.ofInt limit
        ++ wording "). Possible infinite loop."
  | blockCommand command =>
      command.title ++ wording " command should be handled in multiline context"
  | missingMessage => wording "SAY command requires a message"
  | createArguments => wording "CREATE command requires at least 2 arguments"
  | createName constant =>
      wording "CREATE " ++ (if constant then wording "CONST " else [])
        ++ wording "command requires type and variable name"
  | reservedName => wording "cannot use 'end' as variable name (reserved for newline)"
  | constantRedeclared name =>
      wording "cannot redeclare constant variable: '" ++ name ++ wording "'"
  | constantModified name => wording "cannot modify constant variable: '" ++ name ++ wording "'"
  | notATruthValue literal =>
      wording "BOOL variables only accept 'true', 'false', or 'null' (case insensitive), got: '"
        ++ literal ++ wording "'"
  | creation cause => wording "error evaluating expression in CREATE command: " ++ cause.message
  | notOfType type => wording "cannot convert expression result to " ++ type
  | listenArguments => wording "LISTEN command requires at least type and prompt"
  | entered type cause =>
      wording "error converting input to " ++ type ++ wording ": " ++ cause.message
  | changeArguments => wording "CHANGE command requires variable name and new value"
  | undeclared name => wording "variable '" ++ name ++ wording "' not declared"
  | convertArguments => wording "CONVERT command requires variable name and new type"
  | randomArguments => wording "RANDOM command requires type, min, and max values"
  | randomSurplus => wording "RANDOM command has too many arguments"
  | randomBoundVariable name bound =>
      wording "variable '" ++ name ++ wording "' must be INT or FLOAT for RANDOM " ++ bound
        ++ wording " value"
  | randomBound bound literal =>
      wording "invalid " ++ bound ++ wording " value for RANDOM: '" ++ literal ++ wording "'"
  | roundArguments => wording "ROUND command requires variable name and precision"
  | roundType => wording "ROUND command requires a FLOAT variable"
  | precisionVariable name =>
      wording "variable '" ++ name ++ wording "' must be INT or FLOAT for ROUND precision"
  | precision literal => wording "invalid precision value for ROUND: '" ++ literal ++ wording "'"
  | negativePrecision => wording "ROUND precision cannot be negative"
  | oneName command => command.title ++ wording " command requires exactly one variable name"
  | numberNeeded command => command.title ++ wording " requires INT or FLOAT variable"
  | textNeeded command =>
      command.title ++ wording " command requires a "
        ++ (if command = .reverse then wording "STR" else wording "CHAR or STR")
        ++ wording " variable"
  | swapArguments => wording "SWAP command requires exactly two variable names"
  | swapUndeclared => wording "both variables must be declared"
  | swapTypes => wording "both variables must have the same type"
  | inCommand command cause =>
      wording "Error in " ++ command.title ++ wording " command: " ++ cause.message
  | unknownCommand word => wording "Unknown command: " ++ word
  | missingFile => wording "Specify a .noob file"
  | fileNotFound name => wording "file '" ++ name ++ wording "' not found"
  | fileReading cause => wording "file reading error: " ++ cause
  | unfinished => []

/-- An error as the cause of another. What does not come to an end causes nothing. -/
def causing (outer : Error → Error) : Error → Error
  | unfinished => unfinished
  | cause => outer cause

end Error

/-- A fault that no calculation reports is an error by itself. -/
def liftFault {α : Type} (result : Except Fault α) : Except Error α := result.mapError .fault

instance : MonadLift (Except Fault) (Except Error) := ⟨liftFault⟩

theorem lifted_eq_ok {α : Type} {first : Except Fault α} {result : α} :
    (liftM first : Except Error α) = .ok result ↔ first = .ok result :=
  mapError_eq_ok

end Linewise
