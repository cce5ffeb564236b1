/-!
# Kinds and severities of issues

An issue is of one of four kinds, and it is more or less urgent.

Main definitions:

* `Severity` is ordered from `low` to `high` by its rank.
* `IssueKind` says what an issue is.
-/

namespace ScriptReview

/-- How urgent an issue is. -/
inductive Severity where
  | low
  | medium
  | high
  deriving DecidableEq, Repr, Inhabited

namespace Severity

/-- All severities, from the least to the most urgent. -/
def all : List Severity := [.low, .medium, .high]

/-- The place of a severity in their order. -/
def rank : Severity → Nat
  | .low => 0
  | .medium => 1
  | .high => 2

instance : LE Severity := ⟨fun a b => a.rank ≤ b.rank⟩

instance (a b : Severity) : Decidable (a ≤ b) :=
  inferInstanceAs (Decidable (a.rank ≤ b.rank))

/-- Severities are compared by their ranks. -/
theorem le_iff_rank_le (a b : Severity) : a ≤ b ↔ a.rank ≤ b.rank :=
  Iff.rfl

/-- Two severities with one rank are equal. -/
theorem eq_of_rank_eq {a b : Severity} (h : a.rank = b.rank) : a = b := by
  cases a <;> cases b <;> simp_all [rank]

/-- The more urgent of two severities. -/
def worse (a b : Severity) : Severity :=
  if a ≤ b then b else a

/-- The name of a severity. -/
def label : Severity → String
  | .low => "low"
  | .medium => "medium"
  | .high => "high"

/-- The severity with a name. -/
def ofLabel? (name : String) : Option Severity :=
  all.find? (·.label == name)

/-- A severity is found by its name. -/
@[simp]
theorem ofLabel?_label (s : Severity) : ofLabel? s.label = some s := by
  cases s <;> rfl

end Severity

/-- What an issue is. -/
inductive IssueKind where
  | error
  | warning
  | info
  | suggestion
  deriving DecidableEq, Repr, Inhabited

namespace IssueKind

/-- All kinds of issues. -/
def all : List IssueKind := [.error, .warning, .info, .suggestion]

/-- The name of a kind. -/
def label : IssueKind → String
  | .error => "error"
  | .warning => "warning"
  | .info => "info"
  | .suggestion => "suggestion"

/-- The kind with a name. -/
def ofLabel? (name : String) : Option IssueKind :=
  all.find? (·.label == name)

/-- A kind is found by its name. -/
@[simp]
theorem ofLabel?_label (k : IssueKind) : ofLabel? k.label = some k := by
  cases k <;> rfl

end IssueKind
end ScriptReview
