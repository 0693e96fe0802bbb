import Linewise.Host
import Linewise.Text.Blank

/-!
The interpreter that stands in when the real one cannot be loaded. It keeps texts under names, and
knows two commands, by the letters with which a line starts.
-/

namespace Linewise.Fallback

/-- The texts that a program has stored. -/
abbrev Store := Table Text Text

def notice (reason : Text) : Text :=
  "Error importing Noobie modules: ".toList ++ reason ++
    "\nMake sure noobie02.py and func.py are in the same directory\n".toList

inductive Command
  /-- Store a text under a name. -/
  | create (name value : Text)
  /-- Ask for the text to store under a name. -/
  | listen (name prompt : Text)
  /-- A line with too few words, which does nothing. -/
  | incomplete
  | unknown (line : Text)
deriving DecidableEq, Repr

private def isQuote (char : Char) : Bool := char = '"' || char = '\''

def Command.ofLine (line : Text) : Command :=
  if Text.startsWith line "CREATE".toList then
    match Text.words line with
    | _ :: _ :: name :: value :: _ => .create name value
    | [_, _, name] => .create name ['0']
    | _ => .incomplete
  else if Text.startsWith line "LISTEN".toList then
    match Text.words line with
    | _ :: _ :: name :: prompt => .listen name (Text.trim isQuote (Text.join [' '] prompt))
    | _ => .incomplete
  else .unknown line

/-- How a program ended. -/
inductive Ending
  | returned
  | failed (cause : Fault)
  | exited (code : Nat)
deriving DecidableEq, Repr

variable {World : Type}

def runLines (host : Host World) : List Text → Store → World → Ending × Store × World
  | [], store, world => (.returned, store, world)
  | line :: rest, store, world =>
      if (Text.strip line).isEmpty then runLines host rest store world
      else
        match Command.ofLine (Text.strip line) with
        | .create name value => runLines host rest (store.insert name value) world
        | .listen name prompt =>
            match host.ask prompt .empty world with
            | (.entered value, _, world) => runLines host rest (store.insert name value) world
            | (.refused cause, _, world) => (.failed cause, store, world)
            | (.exit code, _, world) => (.exited code, store, world)
        | .incomplete => runLines host rest store world
        | .unknown line =>
            let world := host.write ("Command not implemented in stub: ".toList ++ line) world
            runLines host rest store (host.write ['\n'] world)

def run (host : Host World) (reason code : Text) (world : World) : Ending × Store × World :=
  runLines host (Text.splitAt '\n' code) .empty (host.write (notice reason) world)

end Linewise.Fallback
