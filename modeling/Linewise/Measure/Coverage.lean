import Linewise.File.Path
import Linewise.Json.Access
import Linewise.Measure.Workload
import Linewise.Number.Fixed

/-!
Which lines of the repository were reached, as a table by files.
-/

namespace Linewise.Measure

namespace Failure

def notJson : Failure :=
  .raised "JSONDecodeError".toList "Expecting value: line 1 column 1 (char 0)".toList

def notAnObject (json : Json) (wanted : Text) : Failure :=
  .raised "AttributeError".toList
    ("'".toList ++ json.typeName ++ "' object has no attribute '".toList ++ wanted
      ++ "'".toList)

end Failure

namespace Report

def readObject (source : Text) : Except Failure Json :=
  match Json.read? source with
  | none => .error .notJson
  | some json =>
      if json.members?.isSome then .ok json else .error (.notAnObject json "get".toList)

def toFloat (json : Json) : Except Failure Float :=
  match json.toValue.toFloat with
  | .ok number => .ok number
  | .error cause =>
      let kind := match cause with
        | .notANumber _ => "ValueError"
        | .integerTooLarge => "OverflowError"
        | _ => "TypeError"
      .error (.raised kind.toList cause.message)

end Report

structure FileCoverage where
  /-- The path of the file from the repository. -/
  name : Text
  statements : Int
  missing : Int
  percent : Float
  missingLines : List Json

structure Coverage where
  percent : Float
  covered : Int
  statements : Int
  files : List FileCoverage
  /-- The workloads that failed, with what they said. -/
  failures : List (Text × Json)

namespace Coverage

private def present (json : Json) (name : String) : Json :=
  (json.presentMember? name.toList).getD (.object [])

private def count (json : Json) (name : String) : Int :=
  ((json.member? name.toList).bind Json.integer?).getD 0

private def number (json : Json) (name : String) : Float :=
  match json.member? name.toList with
  | some (.float number) => number
  | some (.integer number) => (Number.ofInt? number).getD 0
  | _ => 0

private def fileOf (path : Text) (json : Json) : FileCoverage :=
  let summary := present json "summary"
  { name := Path.relative Profile.repository (Path.absolute Profile.repository path)
    statements := count summary "num_statements"
    missing := count summary "missing_lines"
    percent := number summary "percent_covered"
    missingLines := ((json.member? "missing_lines".toList).bind Json.items?).getD [] }

def ofJson (json : Json) : Coverage :=
  let totals := present json "totals"
  { percent := number totals "percent_covered"
    covered := count totals "covered_lines"
    statements := count totals "num_statements"
    files := ((present json "files").members?.getD []).map fun (path, file) => fileOf path file
    failures := (present (present json "meta") "_pti_bench_errors").members?.getD [] }

/-! ## The table -/

def widestName : Nat := 60

def listedLines : Nat := 12

private def shownNumber (json : Json) : Text := (json.toValue.written.toOption).getD []

private def missingText (lines : List Json) : Text :=
  Text.join [','] ((lines.take listedLines).map shownNumber) ++
    (if listedLines < lines.length then ['…'] else [])

private def row (width : Nat) (name : Text) (statements missing : Int) (percent : Float) : Text :=
  Text.padRight width (name.take widestName) ++ "  ".toList
    ++ Text.padLeft 5 (Text.ofInt statements) ++ "  ".toList
    ++ Text.padLeft 4 (Text.ofInt missing) ++ "  ".toList
    ++ Text.padLeft 4 (Number.fixed 0 percent) ++ ['%']

/-- The least covered files come first, and of those the ones that miss the most. -/
private def comesFirst (left right : FileCoverage) : Bool :=
  left.percent < right.percent || (left.percent == right.percent && right.missing ≤ left.missing)

def table (coverage : Coverage) : List Text :=
  let files := coverage.files.mergeSort comesFirst
  let width := files.foldl (fun width file => max width (file.name.take widestName).length) 4
  let rule := List.replicate (width + 42) '-'
  let head := Text.padRight width "Name".toList ++ "  Stmts  Miss  Cover  Missing".toList
  let rows := files.map fun file =>
    row width file.name file.statements file.missing file.percent ++ "  ".toList
      ++ missingText file.missingLines
  head :: rule :: rows ++ [rule, row width "TOTAL".toList coverage.statements
    (coverage.statements - coverage.covered) coverage.percent]

def listedFailures : Nat := 8

def failureLines (coverage : Coverage) : List Text :=
  if coverage.failures.isEmpty then []
  else
    [] :: (Text.ofNat coverage.failures.length ++ " bench error(s):".toList) ::
      (coverage.failures.take listedFailures).map fun (name, said) =>
        "  ".toList ++ name ++ ": ".toList ++ shownNumber said

end Coverage

end Linewise.Measure
