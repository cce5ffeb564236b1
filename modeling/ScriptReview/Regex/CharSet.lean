import ScriptReview.Unicode.CaseFold

/-!
# Sets of characters

A set of characters is a list of inclusive ranges of code points. The ranges increase and are kept
apart by gaps, so that a set has one list only.

Main definitions:

* `CharSet.contains` is membership.
* `CharSet.ofRanges` brings any list of ranges into order.
* `union`, `inter`, `diff`, `symmDiff` and `compl` are the set operations.
* `CharSet.foldCase` closes a set under simple case folding, `CharSet.foldAscii` under the case of
  ASCII letters.
-/

namespace ScriptReview
namespace Regex

/-- A set of characters as increasing ranges with gaps between them. -/
structure CharSet where
  ranges : List (Nat × Nat)
  deriving DecidableEq, Repr, Inhabited

namespace CharSet

/-- The largest code point. -/
def top : Nat := 0x10FFFF

/-- Membership in increasing ranges stops at the first range that lies beyond the character. -/
def containsIn : List (Nat × Nat) → Nat → Bool
  | [], _ => false
  | (lo, hi) :: rest, c => if c < lo then false else if c ≤ hi then true else containsIn rest c

/-- Membership of a code point. -/
def contains (s : CharSet) (c : Nat) : Bool :=
  containsIn s.ranges c

/-- Joins ranges that touch or overlap, given ranges ordered by their lower ends. -/
def merge : Nat × Nat → List (Nat × Nat) → List (Nat × Nat)
  | r, [] => [r]
  | (lo, hi), (lo', hi') :: rest =>
    if lo' ≤ hi + 1 then merge (lo, max hi hi') rest else (lo, hi) :: merge (lo', hi') rest

/-- The set of the characters in any of the given ranges. -/
def ofRanges (ranges : List (Nat × Nat)) : CharSet :=
  match ranges.mergeSort (fun a b => decide (a.1 ≤ b.1)) with
  | [] => ⟨[]⟩
  | r :: rest => ⟨merge r rest⟩

/-- The empty set. -/
def empty : CharSet := ⟨[]⟩

/-- Every character. -/
def all : CharSet := ⟨[(0, top)]⟩

/-- The characters from `lo` to `hi`. -/
def range (lo hi : Nat) : CharSet := ⟨[(lo, hi)]⟩

/-- The set of one character. -/
def singleton (c : Nat) : CharSet := range c c

/-- The characters in either set. -/
def union (a b : CharSet) : CharSet :=
  ofRanges (a.ranges ++ b.ranges)

/-- The gaps from `start` up to `last` that increasing ranges leave. -/
def gaps (last : Nat) : Nat → List (Nat × Nat) → List (Nat × Nat)
  | start, [] => if start ≤ last then [(start, last)] else []
  | start, (lo, hi) :: rest =>
    if start < lo then (start, lo - 1) :: gaps last (hi + 1) rest else gaps last (hi + 1) rest

/-- The characters up to `last` that are not in the set. -/
def complUpTo (last : Nat) (s : CharSet) : CharSet :=
  ⟨gaps last 0 s.ranges⟩

/-- The characters that are not in the set. -/
def compl (s : CharSet) : CharSet :=
  s.complUpTo top

/-- The characters in both sets. -/
def inter (a b : CharSet) : CharSet :=
  (a.compl.union b.compl).compl

/-- The characters in the first set only. -/
def diff (a b : CharSet) : CharSet :=
  a.inter b.compl

/-- The characters in exactly one of the two sets. -/
def symmDiff (a b : CharSet) : CharSet :=
  (a.union b).diff (a.inter b)

/-- Whether the set has no character. -/
def isEmpty (s : CharSet) : Bool :=
  s.ranges.isEmpty

/-- Whether every character of the set is ASCII. -/
def isAscii (s : CharSet) : Bool :=
  s.ranges.all (·.2 ≤ 0x7F)

/-- Adds each class of characters that has a member in the set. -/
def closeUnder (classes : List (List Nat)) (s : CharSet) : CharSet :=
  s.union (ofRanges ((classes.filter (·.any s.contains)).flatten.map fun c => (c, c)))

/-- Adds all characters that differ from a member in case only. -/
def foldCase (s : CharSet) : CharSet :=
  s.closeUnder Unicode.CaseFold.classes

/-- Adds the other case of each ASCII letter in the set. -/
def foldAscii (s : CharSet) : CharSet :=
  s.closeUnder (Unicode.CaseFold.pairsOfRun 0x41 26 1 32)

/-- No character belongs to the empty set. -/
@[simp]
theorem contains_empty (c : Nat) : empty.contains c = false :=
  rfl

/-- A range holds exactly the characters between its ends. -/
theorem contains_range (lo hi c : Nat) : (range lo hi).contains c = true ↔ lo ≤ c ∧ c ≤ hi := by
  simp only [contains, range, containsIn]
  split
  · simp; omega
  · split
    · simp; omega
    · simp; omega

end CharSet
end Regex
end ScriptReview
