import ScriptReview.Numeric.Natural
import ScriptReview.Text.Word

/-!
# Branches

The complexity of a text is one more than the number of its branches, and every branch word that
stands as a whole word is a branch.

Main definitions:

* `branchWords` are the words that begin a branch.
* `branchCounts` counts each of them, `complexity` all of them.

Main results:

* `complexity_eq_total_branchCounts` says that the complexity is one more than the total of the
  counts.
-/

namespace ScriptReview

/-- The words that begin a branch. -/
def branchWords : List String :=
  ["if", "else", "for", "while", "switch", "case", "catch"]

/-- How often each branch word stands in a text, in the order of the words. -/
def branchCounts (cs : List Char) : List (String × Nat) :=
  branchWords.map fun w => (w, Text.occurrences w.toList cs)

/-- One more than the number of branches of a text. -/
def complexity (cs : List Char) : Nat :=
  branchWords.foldl (fun n w => n + Text.occurrences w.toList cs) 1

/-- The complexity is one more than the total of the counts of the branch words. -/
theorem complexity_eq_total_branchCounts (cs : List Char) :
    complexity cs = 1 + total ((branchCounts cs).map (·.2)) := by
  simp [complexity, branchCounts, foldl_add_eq_total, Function.comp_def]

end ScriptReview
