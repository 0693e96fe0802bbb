import Linewise.Measure.SelfCheck

/-!
How much of the time of each workload is spent in the repository, and which modules outside it take
the most.
-/

namespace Linewise.Measure

def failedShare : Float := -1

def hottestCount : Nat := 2

private def percentAndHottest (workload : Workload) : Float × List (Text × Float) :=
  match workload.failure with
  | some failure => (failedShare, [(failure.mark, 0)])
  | none =>
      let profile := workload.profile 0
      (profile.percent profile.repositorySeconds,
        (profile.hottest hottestCount).map fun (name, seconds) => (name, profile.percent seconds))

private def hottestJson (modules : List (Text × Float)) : Json :=
  .array (modules.map fun (name, percent) => .array [.float percent, .text name])

def timeShares (suite : Suite) : Report :=
  match suite with
  | .error failure => .ofLoadFailure failure
  | .ok workloads =>
      let measured := (workloads.filter Workload.isRun).map fun workload =>
        (workload.name, percentAndHottest workload)
      ⟨.object
        [("repo_time_pct".toList,
          .object (measured.map fun (name, percent, _) => (name, .float percent))),
         ("hot_ext".toList,
          .object (measured.map fun (name, _, modules) => (name, hottestJson modules)))], none⟩

end Linewise.Measure
