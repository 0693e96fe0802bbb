import Linewise.Measure.Profile
import Linewise.Measure.Sample

/-!
Workloads: named runs that are called again and again, each time with parameters, and that give a
result or fail.
-/

namespace Linewise.Measure

/-- Why a run or a tool failed, and what was said about it. -/
inductive Failure
  | raised (kind message : Text)
  /-- It took too long. -/
  | timedOut
deriving DecidableEq, Repr

namespace Failure

def mark : Failure → Text
  | raised kind _ => '<' :: kind ++ ['>']
  | timedOut => "<timeout>".toList

def message : Failure → Text
  | raised kind message => kind ++ ": ".toList ++ message
  | timedOut => "timeout".toList

end Failure

/-- Parameters by name. -/
abbrev Parameters := List (Text × Sample)

structure Workload where
  name : Text
  /-- Something else may go by the name of a workload. -/
  callable : Bool
  /-- The results of the first calls; the last one is the result of all calls after them. -/
  results : List Sample
  /-- Every call fails in this way. -/
  failure : Option Failure
  parameters : List Parameters
  /-- The profiles of the first calls that are profiled, and of all after them. -/
  profiles : List Profile

namespace Workload

def isRun (workload : Workload) : Bool :=
  workload.callable && Text.startsWith workload.name "bench_".toList

private def elementOrLast {α : Type} (fallback : α) (elements : List α) (index : Nat) : α :=
  (elements[index]? <|> elements.getLast?).getD fallback

def result (workload : Workload) (call : Nat) : Sample :=
  elementOrLast .null workload.results call

def profile (workload : Workload) (index : Nat) : Profile :=
  elementOrLast .empty workload.profiles index

end Workload

namespace Parameters

def tag (parameters : Parameters) : Text :=
  if parameters.isEmpty then ['-']
  else Text.join [','] (parameters.map fun (name, value) => name ++ '=' :: value.shown)

end Parameters

/-- The workloads, or why they could not be loaded. -/
abbrev Suite := Except Failure (List Workload)

end Linewise.Measure
