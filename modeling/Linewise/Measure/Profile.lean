import Linewise.File.Path
import Linewise.Number.Rounding

/-!
Where the time of a run went. A row says how long the code of a function took by itself; its file
tells whether that code belongs to the repository, to a native library, or to neither.
-/

namespace Linewise.Measure

structure ProfileRow where
  file : Text
  function : Text
  seconds : Float
deriving Repr

structure Profile where
  total : Float
  rows : List ProfileRow
deriving Repr

namespace Profile

def empty : Profile := ⟨0, []⟩

/-! ## Files -/

def repository : List Text := ["repo".toList]

def workloadFile : Text := "microbench.py".toList

def toolMark : Text := "_pti_".toList

def foreignDirectories : List Text :=
  ["site-packages".toList, "dist-packages".toList, "vendor".toList, "third_party".toList,
   "node_modules".toList, "build".toList, "dist".toList]

/-- The file holds code of the repository itself: neither workloads nor tools nor foreign code. -/
def isRepositoryFile (file : Text) : Bool :=
  if Text.startsWith file ['<'] ∨ file = ['~'] then false
  else
    match Path.absolute repository file with
    | first :: second :: rest =>
        let names := second :: rest
        let name := Path.lastName file
        [first] = repository && name ≠ workloadFile && !Text.startsWith name toolMark
          && !names.dropLast.any foreignDirectories.contains
    | _ => false

def isNativeFile (file : Text) : Bool := file = ['~'] || Text.endsWith file ".so".toList

def moduleName (file : Text) : Text :=
  if file = ['~'] then "builtins".toList
  else
    match Path.withoutEnding (Path.lastName file) with
    | [] => file
    | name => name

/-! ## Shares of the time -/

private def secondsWhere (profile : Profile) (counts : Text → Bool) : Float :=
  profile.rows.foldl (fun sum row => if counts row.file then sum + row.seconds else sum) 0

def repositorySeconds (profile : Profile) : Float := profile.secondsWhere isRepositoryFile

def nativeSeconds (profile : Profile) : Float := profile.secondsWhere isNativeFile

private def rounded (number : Float) (places : Int) : Float :=
  (Number.roundTo? number places).getD number

/-- A part of the total, to three places; nothing if nothing was measured. -/
def share (profile : Profile) (seconds : Float) : Float :=
  if profile.total == 0 then 0 else rounded (seconds / profile.total) 3

def milliseconds (seconds : Float) : Float := rounded (seconds * 1000) 3

def percent (profile : Profile) (seconds : Float) : Float :=
  if profile.total == 0 then 0 else rounded (100 * seconds / profile.total) 1

private def addTime (times : List (Text × Float)) (row : ProfileRow) : List (Text × Float) :=
  let name := moduleName row.file
  if times.any (·.1 = name) then
    times.map fun entry => if entry.1 = name then (name, entry.2 + row.seconds) else entry
  else times ++ [(name, row.seconds)]

/-- The modules outside the repository that took the most time, `count` of them at most; of two
that took as long, the later name comes first. -/
def hottest (profile : Profile) (count : Nat) : List (Text × Float) :=
  let outside := profile.rows.filter fun row => !isRepositoryFile row.file && row.seconds > 0
  let sorted := (outside.foldl addTime []).mergeSort fun left right =>
    left.2 > right.2 || (left.2 == right.2 && !Text.precedes left.1 right.1)
  sorted.take count

end Profile

end Linewise.Measure
