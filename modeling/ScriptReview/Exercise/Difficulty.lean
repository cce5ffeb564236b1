import ScriptReview.Text.Blank
import ScriptReview.Text.Word

/-!
# Difficulties

Exercises are easy, medium or hard.

Main definitions:

* `Difficulty.ofLabel?` finds a difficulty by its exact name.
* `Difficulty.ofText?` also accepts blanks around the name and capital letters.
-/

namespace ScriptReview

/-- How hard an exercise is. -/
inductive Difficulty where
  | easy
  | medium
  | hard
  deriving DecidableEq, Repr, Inhabited

namespace Difficulty

/-- All difficulties, from the easiest to the hardest. -/
def all : List Difficulty := [.easy, .medium, .hard]

/-- The name of a difficulty. -/
def label : Difficulty → String
  | .easy => "easy"
  | .medium => "medium"
  | .hard => "hard"

/-- The difficulty with a name. -/
def ofLabel? (name : String) : Option Difficulty :=
  all.find? (·.label == name)

/-- The difficulty with a name in letters of either case and with white space around it. -/
def ofText? (text : String) : Option Difficulty :=
  let name := Text.trimBy Text.isWhiteSpace text.toList
  all.find? fun d => Text.sameIgnoringCase d.label.toList name

/-- A difficulty is found by its name. -/
@[simp]
theorem ofLabel?_label (d : Difficulty) : ofLabel? d.label = some d := by
  cases d <;> rfl

end Difficulty
end ScriptReview
