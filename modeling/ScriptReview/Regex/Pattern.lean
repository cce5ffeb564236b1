import ScriptReview.Regex.CharSet

/-!
# Resolved patterns

A resolved pattern has no flags, names or classes left: it says which characters may come one after
the other and what has to hold between them.

Main definitions:

* `Look` is a condition on the place between two characters, and `Look.holds` decides it.
* `Pattern` is a resolved pattern; `Pattern.repeated` builds repetitions.
* `Pattern.onlyEmpty` and `Pattern.canBeEmpty` say when the empty text is matched.
-/

namespace ScriptReview
namespace Regex

/-- The sides of a place at which a word can begin or end. -/
inductive WordLook where
  | edge
  | notEdge
  | start
  | finish
  | startHalf
  | finishHalf
  deriving DecidableEq, Repr, Inhabited

/-- A condition on the place between two characters. A condition on words carries the set of word
characters. -/
inductive Look where
  | textStart
  | textEnd
  | lineStart
  | lineEnd
  | crlfStart
  | crlfEnd
  | word (kind : WordLook) (members : CharSet)
  deriving DecidableEq, Repr, Inhabited

/-- Whether a neighbour of a place is a member of a set. The ends of the text have no neighbour. -/
def isMember (members : CharSet) (c : Option Char) : Bool :=
  c.any fun c => members.contains c.toNat

/-- Whether a condition on words holds between two neighbours, of which it is known whether they are
word characters. -/
def WordLook.holds (before after : Bool) : WordLook → Bool
  | .edge => before != after
  | .notEdge => before == after
  | .start => !before && after
  | .finish => before && !after
  | .startHalf => !before
  | .finishHalf => !after

/-- Whether a condition holds between two neighbours. -/
def Look.holds (before after : Option Char) : Look → Bool
  | .textStart => before.isNone
  | .textEnd => after.isNone
  | .lineStart => before.all (· == '\n')
  | .lineEnd => after.all (· == '\n')
  | .crlfStart => before.all fun c => c == '\n' || (c == '\r' && after != some '\n')
  | .crlfEnd => after.all fun c => c == '\r' || (c == '\n' && before != some '\r')
  | .word kind members => kind.holds (isMember members before) (isMember members after)

/-- A resolved pattern. -/
inductive Pattern where
  | empty
  | chars (set : CharSet)
  | look (l : Look)
  | sequence (ps : List Pattern)
  | choice (ps : List Pattern)
  | repetition (min : Nat) (max : Option Nat) (p : Pattern)
  | group (p : Pattern)

namespace Pattern

mutual

/-- Whether the pattern matches the empty text and nothing else. -/
def onlyEmpty : Pattern → Bool
  | .empty => true
  | .chars _ => false
  | .look _ => true
  | .sequence ps => allOnlyEmpty ps
  | .choice ps => allOnlyEmpty ps
  | .repetition _ max p => max.isSome && p.onlyEmpty
  | .group p => p.onlyEmpty

/-- Whether each of the patterns matches the empty text and nothing else. -/
def allOnlyEmpty : List Pattern → Bool
  | [] => true
  | p :: ps => p.onlyEmpty && allOnlyEmpty ps

end

mutual

/-- Whether the pattern can match the empty text where its conditions hold. -/
def canBeEmpty : Pattern → Bool
  | .empty => true
  | .chars _ => false
  | .look _ => true
  | .sequence ps => allCanBeEmpty ps
  | .choice ps => anyCanBeEmpty ps
  | .repetition min _ p => min == 0 || p.canBeEmpty
  | .group p => p.canBeEmpty

/-- Whether each of the patterns can match the empty text. -/
def allCanBeEmpty : List Pattern → Bool
  | [] => true
  | p :: ps => p.canBeEmpty && allCanBeEmpty ps

/-- Whether one of the patterns can match the empty text. -/
def anyCanBeEmpty : List Pattern → Bool
  | [] => false
  | p :: ps => p.canBeEmpty || anyCanBeEmpty ps

end

/-- A repetition. What matches only the empty text is repeated at most once. -/
def repeated (min : Nat) (max : Option Nat) (p : Pattern) : Pattern :=
  let (min, max) :=
    if p.onlyEmpty then (Nat.min min 1, some (Nat.min (max.getD 1) 1)) else (min, max)
  if max = some 0 then .empty
  else if min = 1 ∧ max = some 1 then p
  else .repetition min max p

end Pattern
end Regex
end ScriptReview
