import Linewise.Json.Basic
import Linewise.Measure.Fingerprint
import Linewise.Measure.Workload

/-!
Do the results of a workload say that it did its work? The report has, for each workload, the
fingerprints of two plain calls and of one call for each choice of parameters, the fingerprints of
the parameters themselves, and where the time of the calls went.
-/

namespace Linewise.Measure

structure Observation where
  /-- The type of the first result, or how the call failed. -/
  resultType : Text
  /-- Fingerprints of the plain calls. -/
  plain : List Text
  /-- Fingerprints by parameters. -/
  byParameters : List (Text × Text)
  parameterFingerprints : List Text
  /-- The profile of each call that was profiled, by its parameters. -/
  profiles : List (Text × Profile)

namespace Observation

def plainTag : Text := "<default>".toList

def ofFailure (failure : Failure) : Observation := ⟨failure.mark, [], [], [], []⟩

def brief (workload : Workload) : Observation :=
  match workload.failure with
  | some failure => .ofFailure failure
  | none =>
      let result := workload.result 0
      ⟨result.typeName, [result.fingerprint], [], [], []⟩

private def fingerprintsOf (parameters : List Parameters) : List Text :=
  (parameters.flatMap fun choice => choice.map fun (_, value) => value.fingerprint).eraseDups

/-- Two plain calls, of which one is profiled, then a profiled call for each choice of
parameters. -/
def ofWorkload (workload : Workload) : Observation :=
  match workload.failure with
  | some failure => .ofFailure failure
  | none =>
      let choices := workload.parameters.zipIdx
      { resultType := (workload.result 0).typeName
        plain := [(workload.result 0).fingerprint, (workload.result 1).fingerprint]
        byParameters := choices.map fun (choice, index) =>
          (Parameters.tag choice, (workload.result (index + 2)).fingerprint)
        parameterFingerprints := (fingerprintsOf workload.parameters).mergeSort
          fun left right => !Text.precedes right left
        profiles := (plainTag, workload.profile 0) :: choices.map fun (choice, index) =>
          (Parameters.tag choice, workload.profile (index + 1)) }

private def member (name : String) (value : Json) : Text × Json := (name.toList, value)

/-- An object in which the last of several members with one name counts. -/
private def object (members : List (Text × Json)) : Json :=
  .object (members.foldl (fun members (name, value) => Json.setMember members name value) [])

private def byTag (observation : Observation) (measure : Profile → Float) : Json :=
  object (observation.profiles.map fun (tag, profile) => (tag, .float (measure profile)))

def toJson (observation : Observation) : Json :=
  .object
    [member "ret_type" (.text observation.resultType),
     member "fp_stable" (.array (observation.plain.map .text)),
     member "fp_by_param" (object (observation.byParameters.map fun (tag, print) =>
       (tag, .text print))),
     member "param_fps" (.array (observation.parameterFingerprints.map .text)),
     member "repo_frac" (observation.byTag fun profile =>
       profile.share profile.repositorySeconds),
     member "ext_frac" (observation.byTag fun profile => profile.share profile.nativeSeconds),
     member "repo_tt_ms" (observation.byTag fun profile =>
       Profile.milliseconds profile.repositorySeconds)]

end Observation

/-- A report, and the code with which the tool ended early if it did. -/
structure Report where
  content : Json
  exit : Option Nat

namespace Report

def ofLoadFailure (failure : Failure) : Report :=
  ⟨.object [("_import_error".toList, .text failure.message)], some 0⟩

end Report

def selfCheck (briefly : Bool) (suite : Suite) : Report :=
  match suite with
  | .error failure => .ofLoadFailure failure
  | .ok workloads =>
      let observe := if briefly then Observation.brief else Observation.ofWorkload
      let entries := (workloads.filter Workload.isRun).map fun workload =>
        (workload.name, (observe workload).toJson)
      ⟨.object [("semcheck".toList, .object entries)], none⟩

end Linewise.Measure
