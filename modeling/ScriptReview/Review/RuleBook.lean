import ScriptReview.Review.Rule
import ScriptReview.Text.Blank

/-!
# Rule books

A rule book holds rules in the order in which they fire. Its rules are applied to every line of a
text from top to bottom, and no rule knows what the others find.

Main definitions:

* `RuleBook.builtin` and `RuleBook.empty` are the books to begin with, `RuleBook.add` adds a rule.
* `RuleBook.scan` finds the issues of some lines.

Main results:

* `RuleBook.rules_addAll` says that rules are added at the end, in order.
* `RuleBook.scanFrom_cons` says that the issues of the first line come first.
-/

namespace ScriptReview

/-- Rules in the order in which they fire. -/
structure RuleBook where
  rules : List Rule
  deriving Inhabited

namespace RuleBook

/-- The book of the built-in rules. -/
def builtin : RuleBook := ⟨Rule.builtin⟩

/-- The book without rules. -/
def empty : RuleBook := ⟨[]⟩

/-- Adds a rule that fires after all the others. -/
def add (book : RuleBook) (rule : Rule) : RuleBook :=
  ⟨book.rules ++ [rule]⟩

/-- Adds several rules in order. -/
def addAll (book : RuleBook) (rules : List Rule) : RuleBook :=
  rules.foldl add book

@[simp]
theorem rules_add (book : RuleBook) (rule : Rule) : (book.add rule).rules = book.rules ++ [rule] :=
  rfl

/-- Several rules are added at the end. -/
@[simp]
theorem rules_addAll (book : RuleBook) (rules : List Rule) :
    (book.addAll rules).rules = book.rules ++ rules := by
  induction rules generalizing book with
  | nil => simp [addAll]
  | cons r rs ih =>
    have h : book.addAll (r :: rs) = (book.add r).addAll rs := rfl
    rw [h, ih]
    simp

/-- What the rules see of the first of some lines. -/
def viewOf (number : Nat) (line : List Char) (rest : List (List Char)) : LineView :=
  ⟨number, Text.trim line, rest.head?.map Text.trim⟩

/-- The issues that the rules find in one line, in their order. -/
def issuesAt (book : RuleBook) (view : LineView) : List Issue :=
  book.rules.filterMap (·.check view)

/-- The issues of the lines that remain, the first of which has the given number. -/
def scanFrom (book : RuleBook) (number : Nat) : List (List Char) → List Issue
  | [] => []
  | line :: rest => book.issuesAt (viewOf number line rest) ++ book.scanFrom (number + 1) rest

/-- The issues of some lines, line by line and in each line rule by rule. -/
def scan (book : RuleBook) (lines : List (List Char)) : List Issue :=
  book.scanFrom 1 lines

@[simp]
theorem scanFrom_nil (book : RuleBook) (number : Nat) : book.scanFrom number [] = [] :=
  rfl

/-- The issues of the first line come first. -/
theorem scanFrom_cons (book : RuleBook) (number : Nat) (line : List Char)
    (rest : List (List Char)) :
    book.scanFrom number (line :: rest) =
      book.issuesAt (viewOf number line rest) ++ book.scanFrom (number + 1) rest :=
  rfl

end RuleBook
end ScriptReview
