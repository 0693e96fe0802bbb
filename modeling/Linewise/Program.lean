import Linewise.Block
import Linewise.Condition
import Linewise.Line

/-!
Execution of a program, which is a list of lines. Branches and loops run the lines of their blocks
as programs of their own, in a frame of their own. The first error is reported and ends the run.
-/

namespace Linewise

/-- How a program ended. -/
inductive Ending
  | returned
  | exited (code : Nat)
  /-- Something in the program did not come to an end. -/
  | unfinished
deriving DecidableEq, Repr

namespace Program

variable {World : Type}

/-! ## Reports -/

/-- The report of an error in the line with this number. A fault outside any command is reported
without its line. -/
def reportText (number : Option Nat) (error : Error) : Text :=
  match error, number with
  | .fault cause, _ => "ERROR: Unexpected error: ".toList ++ cause.message
  | error, some number =>
      "LINE ".toList ++ Text.ofNat number ++ " -> ERROR: ".toList ++ error.message
  | error, none => "ERROR: ".toList ++ error.message

def fail (host : Host World) (number : Option Nat) (error : Error) (machine : Machine)
    (world : World) : Ending × Machine × World :=
  match error with
  | .unfinished => (.unfinished, machine, world)
  | error => (.exited 1, machine, host.report (reportText number error) world)

/-! ## Branches and loops

What is run, and what it does, is a parameter here. -/

/-- A way to run: from a state to an end and a state. -/
abbrev Execution (World : Type) := Machine → World → Ending × Machine × World

def enclosed (body : Execution World) : Execution World := fun machine world =>
  match body machine.enter world with
  | (.returned, machine, world) => (.returned, machine.leave, world)
  | result => result

/-- What the end of a block means for the line of its header. -/
def Outcome.ofEnding : Ending → Outcome
  | .returned => .done
  | .exited code => .exited code
  | .unfinished => .failed .unfinished

section Evaluated

variable [Evaluator] (host : Host World)

def machineAfter (condition : Text) (machine : Machine) : Machine :=
  machine.revised (Condition.effects machine.bindings condition).revision

def worldAfter (condition : Text) (machine : Machine) (world : World) : World :=
  host.warn (Condition.effects machine.bindings condition).warnings world

section Untouched

variable {condition : Text} {machine : Machine}
  (untouched : Condition.effects machine.bindings condition = .none)

include untouched

theorem machineAfter_of_untouched : machineAfter condition machine = machine := by
  rw [machineAfter, untouched]
  rfl

theorem worldAfter_of_untouched (world : World) :
    worldAfter host condition machine world = world := by
  rw [worldAfter, untouched]
  rfl

end Untouched

def branch (condition : Text) (consequence alternative : Execution World) (machine : Machine)
    (world : World) : Outcome × Machine × World :=
  let next := machineAfter condition machine
  let later := worldAfter host condition machine world
  match Condition.holds machine.bindings condition with
  | .error error => (.failed error, next, later)
  | .ok truth =>
      let (ending, machine, world) :=
        enclosed (if truth then consequence else alternative) next later
      (Outcome.ofEnding ending, machine, world)

def loop (condition : Text) (body : Execution World) (limit : Int) :
    Nat → Machine → World → Outcome × Machine × World :=
  fun remaining machine world =>
    let next := machineAfter condition machine
    let later := worldAfter host condition machine world
    match Condition.holds machine.bindings condition with
    | .error error => (.failed error, next, later)
    | .ok false => (.done, next, later)
    | .ok true =>
        match remaining with
        | 0 => (.failed (.loopLimit limit), next, later)
        | remaining + 1 =>
            match enclosed body next later with
            | (.returned, machine, world) => loop condition body limit remaining machine world
            | (ending, machine, world) => (Outcome.ofEnding ending, machine, world)

end Evaluated

def iterationLimit : Nat := 10000

/-! ## Headers

A header begins with the word of its command and ends with a word of its own. -/

/-- A line that begins a block. -/
structure Header where
  command : Command
  condition : Text
deriving DecidableEq, Repr

def Header.command? (code : Text) : Option Command :=
  let code := Text.lower code
  if Text.startsWith code Block.ifStart then some .branch
  else if Text.startsWith code Block.whileStart then some .loop
  else none

/-- The condition stands between the command and the word that ends the header. -/
def Header.read (command : Command) (code : Text) : Except Error Header :=
  let words := Text.words code
  if 3 ≤ words.length ∧ words.getLast?.map Text.lower = some "do".toList then
    .ok ⟨command, Text.join [' '] (words.drop 1).dropLast⟩
  else .error (.missingDo command)

/-! ## Programs

Each line is numbered, and an error is reported for the line in which it happens. The lines of a
block are cut out of those after its header and run in a frame of their own. -/

section Evaluated

variable [Evaluator]

/-- What becomes of a line that is no header, when the blocks around it are known. -/
def simpleLine (host : Host World) (code : Text) (machine : Machine) (world : World) :
    Outcome × Machine × World :=
  let lowered := Text.lower code
  if lowered = Block.elseWord then (.failed .strayElse, machine, world)
  else if lowered = Block.endWord then (.failed .strayEnd, machine, world)
  else Line.execute host code machine world

def proceed (host : Host World) (number : Nat) (result : Outcome × Machine × World)
    (next : Execution World) : Ending × Machine × World :=
  match result with
  | (.done, machine, world) => next machine world
  | (.failed error, machine, world) => fail host (some number) error machine world
  | (.exited code, machine, world) => (.exited code, machine, world)

def runFrom (host : Host World) (number : Nat) (lines : List Text) : Execution World :=
  match lines with
  | [] => fun machine world => (.returned, machine, world)
  | line :: rest => fun machine world =>
      let line := Text.strip line
      let skip (machine : Machine) := runFrom host (number + 1) rest machine world
      if line.isEmpty then skip machine
      else if Text.startsWith line Line.commentMark then skip machine.toggleComment
      else if machine.current.inComment then skip machine
      else
        let code := Line.code line
        if code.isEmpty then skip machine
        else
          match Header.command? code with
          | none =>
              proceed host number (simpleLine host code machine world)
                (runFrom host (number + 1) rest)
          | some command =>
              match Header.read command code with
              | .error error => fail host (some number) error machine world
              | .ok header =>
                  match found : Block.cutEnd? 0 rest with
                  | none =>
                      fail host (some number) (.missingEnd command.title) machine world
                  | some (body, after) =>
                      let next := runFrom host (number + body.length + 2) after
                      if command = .branch then
                        let parts := Block.cutElse 0 body
                        proceed host number
                          (branch host header.condition
                            (runFrom host 1 (Block.inner parts.1))
                            (runFrom host 1 (Block.inner (parts.2.getD [])))
                            machine world)
                          next
                      else
                        proceed host number
                          (loop host header.condition (runFrom host 1 (Block.inner body))
                            iterationLimit iterationLimit machine world)
                          next
termination_by lines.length
decreasing_by
  all_goals
    simp only [List.length_cons]
  · omega
  · omega
  · have bound := Block.length_cutEnd? found
    omega
  · have bound := Block.length_cutEnd? found
    have split := Block.length_cutElse 0 body
    have shorter := Block.length_inner (Block.cutElse 0 body).1
    omega
  · have bound := Block.length_cutEnd? found
    have split := Block.length_cutElse 0 body
    have shorter := Block.length_inner ((Block.cutElse 0 body).2.getD [])
    omega
  · have bound := Block.length_cutEnd? found
    have shorter := Block.length_inner body
    omega

/-- Run a program text to its end; what a block did not bring to its end is undone, except for
changes of variables that its surroundings share. -/
def run (host : Host World) (source : Text) (machine : Machine) (world : World) :
    Ending × Machine × World :=
  let (ending, machine, world) := runFrom host 1 (Text.lines source) machine world
  (ending, machine.outermost, world)

def runBranch (host : Host World) (condition : Text) (consequence alternative : List Text)
    (machine : Machine) (world : World) : Outcome × Machine × World :=
  let block (lines : List Text) := runFrom host 1 (Text.lines (Text.join ['\n'] lines))
  let (outcome, machine, world) :=
    branch host condition (block consequence) (block alternative) machine world
  (outcome, machine.outermost, world)

def runLoop (host : Host World) (condition : Text) (body : List Text) (limit : Int)
    (machine : Machine) (world : World) : Outcome × Machine × World :=
  let block := runFrom host 1 (Text.lines (Text.join ['\n'] body))
  let (outcome, machine, world) := loop host condition block limit limit.toNat machine world
  (outcome, machine.outermost, world)

end Evaluated

end Program

end Linewise
