import Linewise.Measure.Verdict
import Linewise.Text.Blank

/-!
A round of measuring: the coverage of the workloads, the shares of their time, and what their
results are worth. The round is added to a history, and that tells when another one is not worth
the while.
-/

namespace Linewise.Measure

/-- The programs that a round runs. -/
inductive Tool
  | coverage
  | timeShares
  /-- Which files of the repository were changed. -/
  | status
  | selfCheck
deriving DecidableEq, Repr

/-- What comes of running a tool. -/
inductive Run
  | ended (exit : Int) (output errors : Text)
  | failed (failure : Failure)

/-- What a round finds around it. -/
structure Surroundings where
  coverageReport : Option Text
  history : Option Text
  workloadSource : Option Text
  hasTimeShares : Bool
  hasSelfCheck : Bool
  run : Tool → Run
  /-- The readings of the stop watch; after them it shows zero. -/
  clock : List Float
  now : Float

/-- What a round leaves behind. -/
structure Outcome where
  exit : Option Int
  output : Text
  errors : Text
  ran : List Tool
  /-- The entry that was added to the history. -/
  checkpoint : Option Json
  failure : Option Failure

/-! ## Reports of the tools -/

private def complaintOf (name : String) (failure : Failure) : Text :=
  '[' :: name.toList ++ " runner: ".toList ++ failure.message ++ "]\n".toList

/-- The last line of a tool's output holds its report. Without one, what it complained about is
shown. -/
private def lastReport (name : String) (run : Run) : Except Text Json :=
  match run with
  | .failed failure => .error (complaintOf name failure)
  | .ended _ output errors =>
      match (Text.lines (Text.strip output)).getLast? with
      | none => .error errors
      | some line =>
          match Report.readObject line with
          | .ok json => .ok json
          | .error failure => .error (complaintOf name failure)

private def memberObject (json : Json) (name : String) : List (Text × Json) :=
  ((json.presentMember? name.toList).bind Json.members?).getD []

/-! ## Shares of the time -/

/-- The share that the repository should have, in percent, with a little allowance. -/
def leastPercent : Float := 45

structure Shares where
  percents : List (Text × Float)
  hottest : List (Text × Json)

namespace Shares

def none : Shares := ⟨[], []⟩

private def ofJson (json : Json) : Except Failure Shares := do
  let percents ← (memberObject json "repo_time_pct").mapM fun (name, value) => do
    return (name, ← Report.toFloat value)
  return ⟨percents, memberObject json "hot_ext"⟩

def isValid (percent : Float) : Bool := percent >= 0

def isBelow (percent : Float) : Bool := isValid percent && percent < leastPercent

def valid (shares : Shares) : Nat := shares.percents.countP fun entry => isValid entry.2

def below (shares : Shares) : Nat := shares.percents.countP fun entry => isBelow entry.2

def below? (shares : Shares) : Option Nat :=
  if shares.valid = 0 then Option.none else some shares.below

private def hottestText (shares : Shares) (name : Text) : Text :=
  let modules := ((shares.hottest.lookup name).bind Json.items?).getD []
  let entries := modules.filterMap fun entry =>
    match entry with
    | .array [percent, .text module] =>
        (Report.toFloat percent).toOption.map fun percent =>
          module ++ [' '] ++ Number.fixed 0 percent ++ ['%']
    | _ => Option.none
  if entries.isEmpty then [] else " (hot: ".toList ++ Text.join [' '] entries ++ [')']

private def line (shares : Shares) (name : Text) (percent : Float) : Text :=
  (if isBelow percent then "  * ".toList else "    ".toList) ++ Text.padRight 32 name ++ [' ']
    ++ Text.padLeft 5 (Number.fixed 1 (if isValid percent then percent else 0)) ++ ['%']
    ++ (if !isValid percent then "  <error>".toList
        else if isBelow percent then shares.hottestText name else [])

def lines (shares : Shares) : List Text :=
  if shares.percents.isEmpty then []
  else
    let sorted := shares.percents.mergeSort fun left right => left.2 <= right.2
    [] :: "repo_time (target 50%; * = below 45%):".toList ::
      sorted.map fun (name, percent) => shares.line name percent

end Shares

/-! ## Changes to the repository -/

private def changedFiles (status : Run) : List Text :=
  match status with
  | .failed _ => []
  | .ended _ output _ =>
      ((Text.lines output).filterMap fun line =>
        if (Text.strip line).isEmpty then none else some (line.drop 3)).filter fun path =>
          let name := Path.lastName path
          name ≠ Profile.workloadFile && !Text.startsWith name Profile.toolMark
            && !Text.startsWith name ".pti_".toList

private def changeLines (files : List Text) : List Text :=
  if files.isEmpty then []
  else
    [] :: ("** repo modified (".toList ++ Text.ofNat files.length
      ++ " file(s)) — revert these; only ".toList ++ Profile.workloadFile
      ++ " is yours to edit:".toList) ::
        files.map fun file => "   ".toList ++ file

/-! ## The history -/

/-- The number of workloads in a source text: definitions at the start of a line. -/
private def workloadCount (source : Option Text) : Nat :=
  (Text.splitAt '\n' (source.getD [])).countP fun line =>
    Text.startsWith line "def bench_".toList

def leastCoverage : Float := 60

def patience : Nat := 3

private def smallest (first : Int) (rest : List Int) : Int := rest.foldl min first

/-- Why no further round is needed, given the numbers of workloads below the least share in all
rounds so far, the last round at the end. -/
private def convergence? (coverage : Float) (below : Nat) (earlier : List Int) : Option Text :=
  if coverage < leastCoverage then none
  else if below = 0 then some "0 below".toList
  else
    let rounds := earlier ++ [(below : Int)]
    match rounds.take (rounds.length - patience), rounds.drop (rounds.length - patience) with
    | first :: before, latest :: recent =>
        if smallest first before ≤ smallest latest recent then
          some ("no improvement in ".toList ++ Text.ofNat patience ++ " rounds; best ".toList
            ++ Text.ofInt (smallest first (before ++ latest :: recent)) ++ " below".toList)
        else none
    | _, _ => none

private def historyLines (history : Option Text) : List Text :=
  (Text.lines (history.getD [])).filter fun line => !(Text.strip line).isEmpty

private def sinceLast (entries : List Json) (now : Float) : Float :=
  match (entries.getLast?.bind fun entry =>
      entry.presentMember? "ts".toList).map Report.toFloat with
  | some (.ok before) =>
      let elapsed := now - before
      (Number.roundTo? elapsed 2).getD elapsed
  | _ => 0

/-! ## The round -/

private def unlines (lines : List Text) : Text := lines.flatMap (· ++ ['\n'])

private def elapsed (clock : List Float) : Float := clock.getD 1 0 - clock.getD 0 0

private def rounded (number : Float) (places : Int) : Float :=
  (Number.roundTo? number places).getD number

private structure Findings where
  coverage : Coverage
  seconds : Float
  workloads : Nat
  shares : Shares
  assessments : List Assessment

namespace Findings

private def needFix (findings : Findings) : Nat :=
  findings.assessments.countP fun assessment => !assessment.verdict.isGood

private def summary (findings : Findings) (round : Nat) : Text :=
  "[round ".toList ++ Text.ofNat round ++ ": ".toList ++ Text.ofNat findings.workloads
    ++ " benches, ".toList ++ Number.fixed 1 findings.coverage.percent ++ "% covered, ".toList
    ++ (if findings.shares.percents.isEmpty then []
        else Text.ofNat findings.shares.below ++ ['/'] ++ Text.ofNat findings.shares.valid
          ++ " below repo_time 45%, ".toList)
    ++ (if findings.assessments.isEmpty then []
        else Text.ofNat findings.needFix ++ ['/'] ++ Text.ofNat findings.assessments.length
          ++ " not self-checking, ".toList)
    ++ "measured in ".toList ++ Number.fixed 1 findings.seconds ++ "s]".toList

private def checkpoint (findings : Findings) (round : Nat) (now sinceLast : Float) : Json :=
  let number (count : Nat) : Json := .integer count
  .object
    [("round".toList, number round),
     ("ts".toList, .float now),
     ("wall_since_prev_s".toList, .float sinceLast),
     ("coverage_pct".toList, .float findings.coverage.percent),
     ("covered_lines".toList, .integer findings.coverage.covered),
     ("num_statements".toList, .integer findings.coverage.statements),
     ("n_bench_fns".toList, number findings.workloads),
     ("n_bench_errors".toList, number findings.coverage.failures.length),
     ("cov_measure_s".toList, .float (rounded findings.seconds 3)),
     ("repo_time_pct".toList, .object (findings.shares.percents.map fun (name, percent) =>
       (name, .float percent))),
     ("n_below_repo_time".toList, (findings.shares.below?.map number).getD .null),
     ("semcheck".toList, .object (findings.assessments.map fun assessment =>
       (assessment.name, .text assessment.verdict.name))),
     ("n_not_self_checking".toList, number findings.needFix)]

end Findings

/-- Sum up a round, add it to the history if that can be read, and say whether to stop. -/
private def conclude (surroundings : Surroundings) (findings : Findings) :
    Text × Option Json :=
  let lines := historyLines surroundings.history
  let round := lines.length + 1
  let summary := unlines [[], findings.summary round]
  match lines.mapM fun line => (Report.readObject line).toOption with
  | none => (summary, none)
  | some entries =>
      let earlier := entries.filterMap fun entry =>
        (entry.member? "n_below_repo_time".toList).bind Json.integer?
      let stop := findings.shares.below?.bind fun below =>
        convergence? findings.coverage.percent below earlier
      let advice := match stop with
        | none => []
        | some reason =>
            unlines [[], ">>> STOP: repo_time converged (".toList ++ reason
              ++ "). Finalize ".toList ++ Profile.workloadFile ++ " now. <<<".toList]
      (summary ++ advice,
        some (findings.checkpoint round surroundings.now (sinceLast entries surroundings.now)))

private def measureShares (surroundings : Surroundings) : Shares × Text × List Tool :=
  if !surroundings.hasTimeShares then (.none, [], [])
  else
    match lastReport "repotime" (surroundings.run .timeShares) with
    | .error complaint => (.none, complaint, [.timeShares])
    | .ok json =>
        match Shares.ofJson json with
        | .ok shares => (shares, [], [.timeShares])
        | .error failure => (.none, complaintOf "repotime" failure, [.timeShares])

/-- The assessments of the workloads, if there is a tool that checks them, the changed files, and
what the tool complained about. -/
private def assess (surroundings : Surroundings) :
    List Assessment × List Text × Text × List Tool :=
  if !surroundings.hasSelfCheck then ([], [], [], [])
  else
    let changed := changedFiles (surroundings.run .status)
    let ran := [.status, .selfCheck]
    match lastReport "semcheck" (surroundings.run .selfCheck) with
    | .error complaint => ([], changed, complaint, ran)
    | .ok json =>
        match Assessment.ofReports (!changed.isEmpty) (memberObject json "semcheck") with
        | (assessments, none) => (assessments, changed, [], ran)
        | (assessments, some failure) =>
            (assessments, changed, complaintOf "semcheck" failure, ran)

private def failedRound (exit : Int) (output errors : Text) : Outcome :=
  { exit := some (if exit = 0 then 1 else exit)
    output := unlines ["coverage measurement failed (exit ".toList ++ Text.ofInt exit ++ [')'],
      output]
    errors, ran := [.coverage], checkpoint := none, failure := none }

private def brokenRound (failure : Failure) (errors : Text) : Outcome :=
  ⟨none, [], errors, [.coverage], none, some failure⟩

def measureRound (surroundings : Surroundings) : Outcome :=
  match surroundings.run .coverage with
  | .failed failure => brokenRound failure []
  | .ended exit output errors =>
      match surroundings.coverageReport with
      | none => failedRound exit output errors
      | some report =>
          if exit ≠ 0 then failedRound exit output errors
          else
            match Report.readObject report with
            | .error failure => brokenRound failure errors
            | .ok json =>
                let coverage := Coverage.ofJson json
                let (shares, shareErrors, ranShares) := measureShares surroundings
                let (assessments, changed, checkErrors, ranChecks) := assess surroundings
                let findings : Findings :=
                  ⟨coverage, elapsed surroundings.clock, workloadCount surroundings.workloadSource,
                   shares, assessments⟩
                let (conclusion, checkpoint) := conclude surroundings findings
                { exit := none
                  output := unlines (coverage.table ++ coverage.failureLines ++ shares.lines
                    ++ changeLines changed ++ Assessment.lines assessments) ++ conclusion
                  errors := errors ++ shareErrors ++ checkErrors
                  ran := .coverage :: ranShares ++ ranChecks
                  checkpoint := checkpoint
                  failure := none }

end Linewise.Measure
