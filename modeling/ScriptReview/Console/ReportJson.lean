import ScriptReview.Fault
import ScriptReview.Json.Value
import ScriptReview.Review.Report

/-!
# Reports as JSON

Main definitions:

* `Issue.toJson`, `Metrics.toJson`, `Report.toJson`, `FileReport.toJson` and `ScanReport.toJson`
  write reports with their members in a fixed order. A file has the members of its report beside
  its path, and it cannot be written if the path is no text.
-/

namespace ScriptReview

open Json (Value)

/-- An issue as JSON. The line is left out where there is none. -/
def Issue.toJson (i : Issue) : Value :=
  .object ([("type", .string i.kind.label), ("message", .string i.message)] ++
    (i.line.map fun n => ("line", Value.int n)).toList ++ [("severity", .string i.severity.label)])

/-- Metrics as JSON. -/
def Metrics.toJson (m : Metrics) : Value :=
  .object [("complexity", .int m.complexity), ("maintainability", .string m.maintainability.label),
    ("functions", .int m.functions), ("lines", .int m.lines)]

/-- The members of a report. -/
def Report.members (r : Report) : List (String × Value) :=
  [("issues", .array (r.issues.map Issue.toJson)), ("metrics", r.metrics.toJson),
    ("suggestions", .array (r.suggestions.map Value.string))]

/-- A report as JSON. -/
def Report.toJson (r : Report) : Value :=
  .object r.members

/-- The report of a file as JSON, whose path has to be a text. -/
def FileReport.toJson (f : FileReport) : Except Fault Value :=
  match f.path.text? with
  | some path => .ok (.object (("path", .string path) :: f.report.members))
  | none => .error .unprintablePath

/-- A scan as JSON, or the fault of the first file that cannot be written. -/
def ScanReport.toJson (s : ScanReport) : Except Fault Value :=
  (s.files.mapM FileReport.toJson).map fun files =>
    .object [("files", .array files), ("total_issues", .int s.totalIssues)]

end ScriptReview
