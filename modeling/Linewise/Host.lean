import Linewise.Machine
import Linewise.Variable.Random

/-!
What a run talks to: somewhere to write, somebody who enters text, and a source of chance. While
somebody is asked, the machine that waits is in their hands, and may come back changed.
-/

namespace Linewise

/-- What comes of asking for a line of text. -/
inductive Reply
  | entered (text : Text)
  | refused (cause : Fault)
  /-- The program is to end instead. -/
  | exit (code : Nat)
deriving DecidableEq, Repr

structure Host (World : Type) where
  write : Text → World → World
  /-- Write to the stream for error reports. -/
  complain : Text → World → World
  /-- Show a prompt and wait for a line of text. -/
  ask : Text → Machine → World → Reply × Machine × World
  draw : Chance World

namespace Host

variable {World : Type} (host : Host World)

def writeAll (texts : List Text) (world : World) : World :=
  texts.foldl (fun world text => host.write text world) world

def warn (warnings : List Text) (world : World) : World :=
  warnings.foldl (fun world text => host.complain text world) world

def report (text : Text) (world : World) : World :=
  host.complain ['\n'] (host.complain text world)

end Host

/-! ## The console

Whatever is to be read lies ready from the start, so that asking changes no machine. -/

/-- Text waiting to be read, text written, and numbers waiting to be drawn. -/
structure Console where
  input : Text
  /-- What was written, the last text first. -/
  written : List Text
  complained : List Text
  draws : List Nat
deriving Repr

namespace Console

def start (input : Text) (draws : List Nat) : Console := ⟨input, [], [], draws⟩

def output (console : Console) : Text := console.written.reverse.flatten

def errors (console : Console) : Text := console.complained.reverse.flatten

def write (text : Text) (console : Console) : Console :=
  { console with written := text :: console.written }

def readLine (console : Console) : Reply × Console :=
  match console.input with
  | [] => (.refused .endOfInput, console)
  | input =>
      (.entered (Text.before '\n' input),
        { console with input := (input.dropWhile (· != '\n')).drop 1 })

/-- The next draw; when none is left, every draw is zero. -/
def draw (console : Console) : Nat × Console :=
  match console.draws with
  | [] => (0, console)
  | number :: rest => (number, { console with draws := rest })

/-- On the console a prompt is written before the line is read. -/
def host : Host Console where
  write := write
  complain text console := { console with complained := text :: console.complained }
  ask prompt machine console :=
    let (reply, console) := (console.write prompt).readLine
    (reply, machine, console)
  draw := draw

end Console

end Linewise
