import ScriptReview.Review.Advice
import ScriptReview.Review.Branch
import ScriptReview.Review.Comment
import ScriptReview.Review.RuleBook
import ScriptReview.Review.Shape

/-!
# Reviewing a text

The review of a text applies a rule book to its lines and measures the text as a whole. It depends
on the text and the rules only.

Main definitions:

* `linesOf` cuts a text into lines.
* `RuleBook.review` gives the report of a text.

Main results:

* `RuleBook.review_metrics` says that the metrics do not depend on the rules.
-/

namespace ScriptReview

/-- The lines of a text, which line feeds separate. The empty text has one line. -/
def linesOf (source : String) : List (List Char) :=
  Text.splitAt '\n' source.toList

/-- The measures of a text. -/
def metricsOf (source : String) : Metrics :=
  .ofCounts (complexity source.toList) (functionCount source.toList) (linesOf source).length

/-- The advice for a text. -/
def adviceOn (source : String) : List Advice :=
  Advice.due (metricsOf source) (commentRatio (linesOf source))

namespace RuleBook

/-- The report of a text under the rules of a book. -/
def review (book : RuleBook) (source : String) : Report where
  issues := book.scan (linesOf source)
  metrics := metricsOf source
  suggestions := (adviceOn source).map Advice.text

/-- The metrics of a text do not depend on the rules. -/
@[simp]
theorem review_metrics (book : RuleBook) (source : String) :
    (book.review source).metrics = metricsOf source :=
  rfl

/-- The suggestions for a text do not depend on the rules. -/
@[simp]
theorem review_suggestions (book : RuleBook) (source : String) :
    (book.review source).suggestions = (adviceOn source).map Advice.text :=
  rfl

@[simp]
theorem review_issues (book : RuleBook) (source : String) :
    (book.review source).issues = book.scan (linesOf source) :=
  rfl

end RuleBook
end ScriptReview
