import Linewise.Action
import Linewise.Host

/-!
Execution of a single line: a comment mark, a command, or a calculation whose result is written.
-/

namespace Linewise

/-- How a line ended. -/
inductive Outcome
  | done
  | failed (error : Error)
  | exited (code : Nat)
deriving DecidableEq, Repr

namespace Line

def operators : List Text :=
  ["+", "-", "*", "/", "//", "%", "**", "==", "!=", "<", ">", "AND", "OR", "NOT", "XOR", "and",
    "or", "not", "xor"].map String.toList

section Evaluated

variable [Evaluator]

def isCalculation (replaced : Text) : Bool :=
  operators.any fun operator => Text.hasPart operator replaced

def calculation (bindings : Bindings) (word replaced : Text) : Except Error Action :=
  if isCalculation replaced then do
    let value ← Expression.shownResult replaced bindings.meaning
    return .write [← value.written, ['\n']]
  else .error (.unknownCommand word)

def plan (bindings : Bindings) (line : Text) : Except Error Action :=
  match Text.words line with
  | [] => .ok .nothing
  | first :: arguments => do
      let word := Text.lower first
      let replaced ← substituteUnquoted bindings line
      match Command.ofWord? word with
      | some command => command.plan bindings arguments
      | none => calculation bindings word replaced

def effects (bindings : Bindings) (line : Text) : Effects :=
  match Text.words line, substituteUnquoted bindings line with
  | first :: arguments, .ok replaced =>
      match Command.ofWord? (Text.lower first) with
      | some command => Plan.effects command bindings arguments
      | none =>
          if isCalculation replaced then Expression.effects replaced bindings.meaning else .none
  | _, _ => .none

end Evaluated

variable {World : Type}

section Evaluated

variable [Evaluator]

def enteredValue (type : DataType) (text : Text) : Except Error Value :=
  let value :=
    if type = .truth then checkedTruth text else initialValue type.name (some text)
  value.mapError (Error.causing (.entered type.name))

def enteredWarnings (type : DataType) (text : Text) : List Text :=
  if type = .truth then [] else initialWarnings type.name text

def listen (host : Host World) (name : Text) (type : DataType) (prompt : Text)
    (machine : Machine) (world : World) : Outcome × Machine × World :=
  let (reply, machine, world) := host.ask prompt machine world
  match reply with
  | .refused cause => (.failed (.inCommand .listen cause), machine, world)
  | .exit code => (.exited code, machine, world)
  | .entered text =>
      let world := host.warn (enteredWarnings type text) world
      match enteredValue type text with
      | .error error => (.failed error, machine, world)
      | .ok value => (.done, machine.declare name ⟨type.name, value, false⟩, world)

end Evaluated

def draw (host : Host World) (lottery : Lottery) (type : Text)
    (target : Except Error (Option Text)) (machine : Machine) (world : World) :
    Outcome × Machine × World :=
  let (drawn, world) := lottery.pick host.draw world
  match drawn, target with
  | .error cause, _ => (.failed (.inCommand .random cause), machine, world)
  | .ok _, .error error => (.failed (error.within .random), machine, world)
  | .ok value, .ok (some name) => (.done, machine.declare name ⟨type, value, false⟩, world)
  | .ok value, .ok none =>
      match value.written with
      | .error cause => (.failed (.inCommand .random cause), machine, world)
      | .ok text => (.done, machine, host.writeAll [text, ['\n']] world)

section Evaluated

variable [Evaluator]

def perform (host : Host World) (action : Action) (machine : Machine) (world : World) :
    Outcome × Machine × World :=
  match action with
  | .nothing => (.done, machine, world)
  | .write texts => (.done, machine, host.writeAll texts world)
  | .finish none => (.exited 0, machine, world)
  | .finish (some message) => (.exited 0, machine, host.write message world)
  | .declare name stored => (.done, machine.declare name (machine.kept stored), world)
  | .assign name value => (.done, machine.assign name (machine.keep value), world)
  | .exchange left right leftValue rightValue =>
      (.done, (machine.assign left rightValue).assign right leftValue, world)
  | .remove name => (.done, machine.remove name, world)
  | .listen name type prompt => listen host name type prompt machine world
  | .draw lottery type target => draw host lottery type target machine world

def carryOut (host : Host World) (planned : Except Error Action) (machine : Machine)
    (world : World) : Outcome × Machine × World :=
  match planned with
  | .ok action => perform host action machine world
  | .error error => (.failed error, machine, world)

end Evaluated

def commentMark : Text := ['#', '#']

def code (line : Text) : Text := Text.strip (Text.before '#' line)

section Evaluated

variable [Evaluator]

/-- The machine once the expressions of a line have been evaluated. -/
def machineAfter (line : Text) (machine : Machine) : Machine :=
  machine.revised (effects machine.bindings (code line)).revision

def worldAfter (host : Host World) (line : Text) (machine : Machine) (world : World) : World :=
  host.warn (effects machine.bindings (code line)).warnings world

/-- Execute a line. A line that begins with the comment mark opens or closes a comment, and inside
a comment nothing else happens. -/
def execute (host : Host World) (line : Text) (machine : Machine) (world : World) :
    Outcome × Machine × World :=
  if Text.startsWith line commentMark then (.done, machine.toggleComment, world)
  else if machine.current.inComment then (.done, machine, world)
  else
    carryOut host (plan machine.bindings (code line)) (machineAfter line machine)
      (worldAfter host line machine world)

end Evaluated

end Line

end Linewise
