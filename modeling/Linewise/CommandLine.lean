import Linewise.File.Directory
import Linewise.Program
import Linewise.Text.Utf8

/-!
The command line: read the program in the file that the first argument names, and run it.
-/

namespace Linewise.CommandLine

def withLineFeeds : Text → Text
  | [] => []
  | '\r' :: '\n' :: rest => '\n' :: withLineFeeds rest
  | '\r' :: rest => '\n' :: withLineFeeds rest
  | char :: rest => char :: withLineFeeds rest

def readBytes (bytes : List UInt8) : Except Error Text :=
  match Utf8.decode bytes with
  | .ok text => .ok (withLineFeeds text)
  | .error failure => .error (.fileReading failure.message)

private def systemMessage (number : Nat) (message : String) (path : Text) : Text :=
  "[Errno ".toList ++ Text.ofNat number ++ "] ".toList ++ message.toList ++ ": ".toList
    ++ Text.quoted path

/-- How the bytes of the file that a path names are found. -/
abbrev Finder := Text → Except Directory.PathFault (List UInt8)

def readProgram (find : Finder) (path : Text) : Except Error Text :=
  if path.contains '\x00' then .error (.fileReading "embedded null byte".toList)
  else
    match find path with
    | .ok bytes => readBytes bytes
    | .error .missing => .error (.fileNotFound path)
    | .error .isDirectory => .error (.fileReading (systemMessage 21 "Is a directory" path))
    | .error .notDirectory => .error (.fileReading (systemMessage 20 "Not a directory" path))

def run {World : Type} (host : Host World) (find : Finder) (arguments : List Text)
    (world : World) : Ending × World :=
  match arguments with
  | [] =>
      let (ending, _, world) := Program.fail host none .missingFile .empty world
      (ending, world)
  | path :: _ =>
      match readProgram find path with
      | .error error =>
          let (ending, _, world) := Program.fail host none error .empty world
          (ending, world)
      | .ok source =>
          let (ending, _, world) := Program.run host source .empty world
          (ending, world)

end Linewise.CommandLine
