import ScriptReview.Console.Painted
import ScriptReview.Review.Report
import ScriptReview.Review.Rule

/-!
# Reports on the console

Main definitions:

* `FileReport.painted` shows one file: its metrics, its issues and its suggestions.
* `ScanReport.summary` is the line with the totals of a scan, `ScanReport.painted` the whole scan.
* `Rule.paintedList` lists rules with their numbers.
* `failLine` says that a check has failed.
-/

namespace ScriptReview

/-- The color of a rating. -/
def Maintainability.color : Maintainability → Color
  | .good => .green
  | .fair => .yellow
  | .poor => .red

/-- The style of the tag of a kind of issues. -/
def IssueKind.style : IssueKind → Style
  | .error => .both .bold .red
  | .warning => .color .yellow
  | .suggestion => .color .blue
  | .info => .weight .dimmed

namespace FileReport

/-- The place of an issue: the path as it is shown, and the line if the issue has one. -/
def place (f : FileReport) (i : Issue) : String :=
  match i.line with
  | some n => f.path.shown ++ ":" ++ toString n
  | none => f.path.shown

/-- The line with the metrics of a file. -/
def metricsLine (m : Metrics) : Painted :=
  .line [.plain "  ", .styled (.color .cyan) "metrics",
    .plain (" complexity " ++ toString m.complexity ++ "  functions " ++ toString m.functions ++
      "  lines " ++ toString m.lines ++ "  maintainability "),
    .styled (.color m.maintainability.color) m.maintainability.label]

/-- The line of an issue. -/
def issueLine (f : FileReport) (i : Issue) : Painted :=
  .line [.plain "  ", .styled i.kind.style (i.kind.label ++ "[" ++ i.severity.label ++ "]"),
    .plain (" " ++ i.message ++ " "), .styled (.color .blue) "-->", .plain (" " ++ f.place i)]

/-- The line of a suggestion. -/
def suggestionLine (s : String) : Painted :=
  .line [.plain "  ", .styled (.color .green) "tip:", .plain (" " ++ s)]

/-- The report of one file, with an empty line at its end. -/
def painted (f : FileReport) : Painted :=
  .line [.styled (.weight .bold) f.path.shown] ++ metricsLine f.report.metrics ++
    f.report.issues.flatMap f.issueLine ++ f.report.suggestions.flatMap suggestionLine ++ .line []

end FileReport

namespace ScanReport

/-- The totals of a scan in one line, which is not ended. -/
def summary (s : ScanReport) : Painted :=
  let files := toString s.files.length
  if s.totalIssues = 0 then
    [.styled (.both .bold .green) ("[OK] " ++ files ++ " file(s), no issues.")]
  else
    [.styled (.both .bold .yellow) (toString s.totalIssues ++ " issue(s) in " ++ files ++
      " file(s), " ++ toString (s.countAtLeast .high) ++ " high severity.")]

/-- The reports of all files and the totals. -/
def painted (s : ScanReport) : Painted :=
  s.files.flatMap FileReport.painted ++ s.summary.line

end ScanReport

/-- The line that says how many issues have made a check fail. -/
def failLine (failing : Nat) (threshold : Severity) : Painted :=
  .line [.styled (.both .bold .red) ("[FAIL] " ++ toString failing ++ " issue(s) at " ++
    threshold.label ++ " severity or above.")]

namespace Rule

/-- A number with a blank in front where it has one digit. -/
def numberText (n : Nat) : String :=
  if n < 10 then " " ++ toString n else toString n

/-- The line of a rule with its number. -/
def listLine (r : Rule) (number : Nat) : Painted :=
  .line [.plain (numberText number ++ ". "), ⟨some (.weight .bold), 20, r.id.toList⟩, .plain " ",
    .styled (.weight .dimmed) r.summary]

/-- The lines of rules, the first of which has the given number. -/
def listFrom (number : Nat) : List Rule → Painted
  | [] => []
  | r :: rs => r.listLine number ++ listFrom (number + 1) rs

/-- The rules in the order in which they fire. -/
def paintedList (rules : List Rule) : Painted :=
  listFrom 1 rules

end Rule
end ScriptReview
