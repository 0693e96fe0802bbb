import Linewise.CommandLine

/-!
The program on a terminal. A run is a function of what has been entered so far: when it asks for a
line that has not been entered yet, what it wrote until then is shown, a line is read, and the run
begins again with one more line.
-/

namespace Linewise.Terminal

structure World where
  console : Console
  /-- What had been written when a line was missing for the first time. -/
  shownBefore : Option Text
  generator : StdGen

/-- What a run on a terminal talks to. After the end of the input no line is missing any more. -/
def host (atEnd : Bool) : Host World where
  write text world := { world with console := world.console.write text }
  complain text world := { world with console := Console.host.complain text world.console }
  ask prompt machine world :=
    let missing := world.console.input.isEmpty && !atEnd && world.shownBefore.isNone
    let (reply, machine, console) := Console.host.ask prompt machine world.console
    let shownBefore := if missing then some console.output else world.shownBefore
    (reply, machine, { world with console, shownBefore })
  draw world :=
    let (number, generator) := stdNext world.generator
    (number, { world with generator })

def readFile (name : String) : IO (Except Directory.PathFault (List UInt8)) := do
  if name.isEmpty then return .error .missing
  try
    return .ok (← IO.FS.readBinFile name).toList
  catch
    | .noFileOrDirectory .. => return .error .missing
    | _ => return .error .isDirectory

partial def converse (find : CommandLine.Finder) (arguments : List Text) (generator : StdGen)
    (entered : Text) (atEnd : Bool) (shown : Nat) : IO UInt32 := do
  let (ending, world) := CommandLine.run (host atEnd) find arguments
    ⟨.start entered [], none, generator⟩
  match world.shownBefore with
  | some output =>
      IO.print (String.ofList (output.drop shown))
      (← IO.getStdout).flush
      let line ← (← IO.getStdin).getLine
      converse find arguments generator (entered ++ line.toList) line.isEmpty output.length
  | none =>
      IO.print (String.ofList (world.console.output.drop shown))
      IO.eprint (String.ofList world.console.errors)
      return match ending with
        | .exited code => UInt32.ofNat code
        | _ => 0

end Linewise.Terminal

def main (arguments : List String) : IO UInt32 := do
  let seed ← IO.rand 0 0x80000000
  let bytes ← Linewise.Terminal.readFile (arguments.headD "")
  Linewise.Terminal.converse (fun _ => bytes) (arguments.map String.toList) (mkStdGen seed) []
    false 0
