import Linewise.Measure.Coverage

/-!
What the report on a workload means: whether its result says that it did its work, and if not, the
first thing that is wrong with it.
-/

namespace Linewise.Measure

inductive Verdict
  | ok
  /-- Good, as far as can be told without different parameters. -/
  | okUnparametrized
  | error
  | returnsNone
  | unstable
  | returnsInput
  | lowRepositoryTime
  | tooFast
  | parameterInvariant
  | repositoryModified
deriving DecidableEq, Repr

namespace Verdict

def name : Verdict → Text
  | ok => "ok".toList
  | okUnparametrized => "ok-unparam".toList
  | error => "error".toList
  | returnsNone => "returns-none".toList
  | unstable => "unstable".toList
  | returnsInput => "returns-input".toList
  | lowRepositoryTime => "low-repo-time".toList
  | tooFast => "too-fast".toList
  | parameterInvariant => "param-invariant".toList
  | repositoryModified => "repo-modified".toList

def isGood (verdict : Verdict) : Bool := verdict = ok || verdict = okUnparametrized

def advice : List (Verdict × Text) :=
  [(returnsNone, "run() has no return — collect and return the call results".toList),
   (unstable, "seed RNG in setup; avoid time/uuid/id in the return".toList),
   (returnsInput, "return repo output, not the parameter value".toList),
   (lowRepositoryTime, "<50% of run() time is in repo code — move glue to setup".toList),
   (parameterInvariant, "return something derived from run()'s work, not setup".toList),
   (repositoryModified, "revert edits to repo files (git checkout -- <path>)".toList)]

end Verdict

/-- What is said about one workload. -/
structure Assessment where
  name : Text
  verdict : Verdict
  resultType : Option Text
  /-- The least share of the time that was spent in the repository. -/
  share : Float
  milliseconds : Float

namespace Assessment

def leastShare : Float := 0.5

def leastMilliseconds : Float := 1

private def numbers (json : Json) (name : String) : Except Failure (List Float) :=
  (((json.presentMember? name.toList).bind Json.members?).getD []).mapM fun (_, value) =>
    Report.toFloat value

private def items (json : Json) (name : String) : List Json :=
  ((json.presentMember? name.toList).bind Json.items?).getD []

private def texts (json : List Json) : List Text := json.map fun item => item.text?.getD []

private def least (numbers : List Float) : Float :=
  match numbers with
  | [] => 0
  | first :: rest => rest.foldl (fun least number => if number < least then number else least) first

private def mean (numbers : List Float) : Float :=
  match numbers with
  | [] => 0
  | numbers =>
      let average := numbers.foldl (· + ·) 0 / Float.ofNat numbers.length
      (Number.roundTo? average 3).getD average

private def isStable (fingerprints : List Text) : Bool :=
  match fingerprints with
  | first :: second :: rest => (second :: rest).all (· = first)
  | _ => false

private def judge (modified : Bool) (resultType : Option Text)
    (plain inputs byParameters : List Text) (shares times : List Float) : Verdict :=
  if modified then .repositoryModified
  else
    match resultType with
    | none => .error
    | some type =>
        if Text.startsWith type ['<'] then .error
        else if type = "NoneType".toList then .returnsNone
        else if !isStable plain then .unstable
        else if plain.any inputs.contains then .returnsInput
        else if !shares.isEmpty && least shares < leastShare then .lowRepositoryTime
        else if !times.isEmpty && mean times < leastMilliseconds then .tooFast
        else if byParameters.length < 2 then .okUnparametrized
        else if byParameters.eraseDups.length = 1 then .parameterInvariant
        else .ok

def ofReport (modified : Bool) (name : Text) (report : Json) : Except Failure Assessment := do
  let shares ← numbers report "repo_frac"
  let times ← numbers report "repo_tt_ms"
  let resultType := (report.presentMember? "ret_type".toList).bind Json.text?
  let byParameters := ((report.presentMember? "fp_by_param".toList).bind Json.members?).getD []
  let verdict := judge modified resultType (texts (items report "fp_stable"))
    (texts (items report "param_fps")) (texts (byParameters.map Prod.snd)) shares times
  return ⟨name, verdict, resultType, least shares, mean times⟩

/-- Assess the reports in turn, up to the first that cannot be read. What is not an object is not a
report. -/
def ofReports (modified : Bool) : List (Text × Json) → List Assessment × Option Failure
  | [] => ([], none)
  | (name, report) :: rest =>
      if report.members?.isNone then ofReports modified rest
      else
        match ofReport modified name report with
        | .error failure => ([], some failure)
        | .ok assessment =>
            let (assessments, failure) := ofReports modified rest
            (assessment :: assessments, failure)

private def line (assessment : Assessment) : Text :=
  (if assessment.verdict.isGood then "    ".toList else "  * ".toList)
    ++ Text.padRight 32 assessment.name ++ [' '] ++ Text.padRight 16 assessment.verdict.name
    ++ " (".toList ++ assessment.resultType.getD ['?'] ++ ", repo ".toList
    ++ Number.fixed 0 (100 * assessment.share) ++ "%) ".toList
    ++ Number.fixed 1 assessment.milliseconds ++ "ms".toList

def lines (assessments : List Assessment) : List Text :=
  if assessments.isEmpty then []
  else
    let (good, bad) := assessments.partition (·.verdict.isGood)
    [] :: "self-check (* = fix needed):".toList ::
      (Verdict.advice.map fun (verdict, advice) =>
        "  ".toList ++ verdict.name ++ ": ".toList ++ advice)
      ++ (bad ++ good).map line

end Assessment

end Linewise.Measure
