import ScriptReview.Numeric.Binary64
import ScriptReview.Review.Report

/-!
# Advice on a whole text

Four thresholds on the measures of a text call for advice. They are tested in a fixed order, and
each of them gives its advice at most once.

Main definitions:

* `Advice.isDue` says whether the measures of a text call for a piece of advice.
* `Advice.due` lists all advice that is called for.
-/

namespace ScriptReview

/-- The advice that a text can be given. -/
inductive Advice where
  | noFunctions
  | highComplexity
  | largeFile
  | fewComments
  deriving DecidableEq, Repr, Inhabited

namespace Advice

/-- All advice in the order in which it is given. -/
def all : List Advice := [.noFunctions, .highComplexity, .largeFile, .fewComments]

/-- The text of a piece of advice. -/
def text : Advice → String
  | .noFunctions => "Consider breaking code into smaller, reusable functions"
  | .highComplexity => "High complexity detected - consider refactoring into smaller functions"
  | .largeFile => "Large file detected - consider splitting into modules"
  | .fewComments => "Add more comments to improve code documentation"

/-- The complexity above which a text is complex. -/
def complexAbove : Nat := 7

/-- The number of lines above which a text is large. -/
def largeAbove : Nat := 50

/-- The number of lines above which comments are looked for. -/
def commentsAbove : Nat := 20

/-- The share of comment lines below which there are few: a tenth. -/
def commentShare : Binary64 := Binary64.ofRatio 1 10

/-- Whether the measures of a text call for a piece of advice. -/
def isDue (metrics : Metrics) (commentRatio : Binary64) : Advice → Bool
  | .noFunctions => metrics.functions == 0
  | .highComplexity => decide (complexAbove < metrics.complexity)
  | .largeFile => decide (largeAbove < metrics.lines)
  | .fewComments => commentRatio.lt commentShare && decide (commentsAbove < metrics.lines)

/-- All advice that the measures of a text call for. -/
def due (metrics : Metrics) (commentRatio : Binary64) : List Advice :=
  all.filter (isDue metrics commentRatio)

end Advice
end ScriptReview
