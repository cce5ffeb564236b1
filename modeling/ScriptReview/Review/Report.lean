import ScriptReview.Numeric.Natural
import ScriptReview.Review.Severity
import ScriptReview.Text.Raw

/-!
# Reports

A review of one text gives a report: the issues of its lines, the metrics of the whole text, and
some advice. The reports of several files together are a scan.

Main definitions:

* `Issue`, `Metrics`, `Report`, `FileReport` and `ScanReport` are what a review gives.
* `Report.countAtLeast` and `ScanReport.countAtLeast` count the issues from a severity on.
* `Report.highest?` is the severity of the worst issue.
-/

namespace ScriptReview

/-- A concern about a text. A concern about the whole text has no line. -/
structure Issue where
  kind : IssueKind
  message : String
  line : Option Nat
  severity : Severity
  deriving DecidableEq, Repr, Inhabited

/-- How easy a text is to maintain. -/
inductive Maintainability where
  | good
  | fair
  | poor
  deriving DecidableEq, Repr, Inhabited

namespace Maintainability

/-- The name of a rating. -/
def label : Maintainability → String
  | .good => "Good"
  | .fair => "Fair"
  | .poor => "Poor"

/-- The complexity above which a text is rated fair. -/
def fairAbove : Nat := 5

/-- The complexity above which a text is rated poor. -/
def poorAbove : Nat := 10

/-- The rating of a complexity. -/
def ofComplexity (complexity : Nat) : Maintainability :=
  if complexity > poorAbove then .poor
  else if complexity > fairAbove then .fair
  else .good

end Maintainability

/-- The measures of a text. -/
structure Metrics where
  complexity : Nat
  maintainability : Maintainability
  functions : Nat
  lines : Nat
  deriving DecidableEq, Repr, Inhabited

namespace Metrics

/-- The measures with the rating that follows from the complexity. -/
def ofCounts (complexity functions lines : Nat) : Metrics :=
  ⟨complexity, .ofComplexity complexity, functions, lines⟩

end Metrics

/-- The outcome of reviewing one text. -/
structure Report where
  issues : List Issue
  metrics : Metrics
  suggestions : List String
  deriving DecidableEq, Repr, Inhabited

namespace Report

/-- Whether there is any issue. -/
def hasIssues (r : Report) : Bool :=
  !r.issues.isEmpty

/-- The number of issues from a severity on. -/
def countAtLeast (r : Report) (least : Severity) : Nat :=
  r.issues.countP fun i => decide (least ≤ i.severity)

/-- The severity of the worst issue. -/
def highest? (r : Report) : Option Severity :=
  r.issues.foldl (fun worst i => some (worst.elim i.severity (·.worse i.severity))) none

end Report

/-- The report of a text together with the path it was read from. -/
structure FileReport where
  path : RawText
  report : Report
  deriving DecidableEq, Repr, Inhabited

/-- The reports of several files in the order in which they were given. -/
structure ScanReport where
  files : List FileReport
  totalIssues : Nat
  deriving DecidableEq, Repr, Inhabited

namespace ScanReport

/-- The scan of some files. -/
def ofFiles (files : List FileReport) : ScanReport :=
  ⟨files, total (files.map (·.report.issues.length))⟩

/-- The number of issues from a severity on in all files. -/
def countAtLeast (s : ScanReport) (least : Severity) : Nat :=
  total (s.files.map (·.report.countAtLeast least))

@[simp]
theorem files_ofFiles (files : List FileReport) : (ofFiles files).files = files :=
  rfl

end ScanReport
end ScriptReview
