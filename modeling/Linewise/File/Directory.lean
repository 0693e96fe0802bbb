import Linewise.Error
import Linewise.Table
import Linewise.Text.Quoted

/-!
A directory with files in it, and the file that a path names.
-/

namespace Linewise

inductive FileEntry
  | file (bytes : List UInt8)
  | directory
deriving Repr

/-- The entries of a directory by their paths relative to it. -/
abbrev Directory := Table (List Text) FileEntry

namespace Directory

/-- Why a path leads to no file. -/
inductive PathFault
  | missing
  | isDirectory
  | notDirectory
deriving DecidableEq, Repr

/-- What stands at a place, given by its steps from the directory: a place that others lie below is
a directory. -/
private def entryAt? (directory : Directory) (place : List Text) : Option FileEntry :=
  match directory.find? place with
  | some entry => some entry
  | none =>
      if place.isEmpty || directory.names.any (place.isPrefixOf ·) then some .directory else none

/-- Walk the steps of a path. `place` is where the walk has come, the last step first, or `none`
above the directory. -/
private def walk (directory : Directory) :
    Option (List Text) → List Text → Except PathFault (List UInt8)
  | none, [] => .error .isDirectory
  | some place, [] =>
      match directory.entryAt? place.reverse with
      | some (.file bytes) => .ok bytes
      | some .directory => .error .isDirectory
      | none => .error .missing
  | none, step :: steps =>
      if step.isEmpty ∨ step = ['.'] ∨ step = ['.', '.'] then walk directory none steps
      else .error .missing
  | some place, step :: steps =>
      match directory.entryAt? place.reverse with
      | none => .error .missing
      | some (.file _) => .error .notDirectory
      | some .directory =>
          if step.isEmpty ∨ step = ['.'] then walk directory (some place) steps
          else if step = ['.', '.'] then
            walk directory (match place with
              | [] => none
              | _ :: outer => some outer) steps
          else walk directory (some (step :: place)) steps

def find (directory : Directory) (path : Text) : Except PathFault (List UInt8) :=
  if path.isEmpty then .error .missing
  else if Text.startsWith path ['/'] then walk directory none (Text.splitAt '/' path)
  else walk directory (some []) (Text.splitAt '/' path)

end Directory

end Linewise
