import ScriptReview.Numeric.Natural
import ScriptReview.Regex.Pattern

/-!
# The size of compiled patterns

A pattern is refused when its compiled form would be too large. The form that is measured works on
the bytes of a text: it has one state for each step over a range of bytes, and the steps over a
set of characters share their beginnings. Counted repetitions are written out in full.

Two forms are measured. The forward one marks where groups begin and end; the backward one reads
characters from their last byte.

Main definitions:

* `Utf8.sequences` splits a range of characters into sequences of byte ranges.
* `Pattern.forwardSize` and `Pattern.backwardSize` measure the two forms in bytes.
* `Pattern.fits` says whether both stay within the limit.
-/

namespace ScriptReview
namespace Regex

/-- A range of bytes. -/
abbrev ByteRange := Nat × Nat

namespace Utf8

/-- Splits a range of characters at the ends of the lengths of their encodings, and leaves out the
surrogates. -/
def splitByLength (lo hi : Nat) : List (Nat × Nat) :=
  [(0, 0x7F), (0x80, 0x7FF), (0x800, 0xD7FF), (0xE000, 0xFFFF), (0x10000, 0x10FFFF)].filterMap
    fun r => if max lo r.1 ≤ min hi r.2 then some (max lo r.1, min hi r.2) else none

/-- Splits a range at the boundaries of the blocks whose characters share all but their last
`k` bytes, from the largest blocks to the smallest. -/
def splitByBlock : Nat → Nat → Nat → List (Nat × Nat)
  | 0, lo, hi => [(lo, hi)]
  | k + 1, lo, hi =>
    let size := powerOfTwo (6 * (k + 1))
    if lo / size = hi / size then splitByBlock k lo hi
    else
      let first := if lo % size = 0 then [] else splitByBlock k lo (lo / size * size + size - 1)
      let last :=
        if hi % size = size - 1 then [] else splitByBlock k (hi / size * size) hi
      let from' := if lo % size = 0 then lo else lo / size * size + size
      let upTo := if hi % size = size - 1 then hi else hi / size * size - 1
      first ++ (if from' ≤ upTo then [(from', upTo)] else []) ++ last

/-- The bytes of a character. -/
def bytes (c : Nat) : List Nat :=
  if c < 0x80 then [c]
  else if c < 0x800 then [0xC0 + c / 64, 0x80 + c % 64]
  else if c < 0x10000 then [0xE0 + c / 4096, 0x80 + c / 64 % 64, 0x80 + c % 64]
  else [0xF0 + c / 262144, 0x80 + c / 4096 % 64, 0x80 + c / 64 % 64, 0x80 + c % 64]

/-- The sequences of byte ranges that encode a range of characters. -/
def sequences (lo hi : Nat) : List (List ByteRange) :=
  (splitByLength lo hi).flatMap fun (lo, hi) =>
    (splitByBlock ((bytes lo).length - 1) lo hi).map fun (lo, hi) => (bytes lo).zip (bytes hi)

/-- The sequences of byte ranges that encode a set of characters. -/
def sequencesOf (s : CharSet) : List (List ByteRange) :=
  s.ranges.flatMap fun (lo, hi) => sequences lo hi

/-- How many ranges of a sequence lie beyond the beginning that it shares with another. -/
def unshared : List ByteRange → List ByteRange → Nat
  | _, [] => 0
  | [], s => s.length
  | a :: as, b :: bs => if a = b then unshared as bs else (b :: bs).length

/-- How many steps a list of sequences takes when each shares its beginning with the one before. -/
def steps : List ByteRange → List (List ByteRange) → Nat
  | _, [] => 0
  | previous, s :: rest => unshared previous s + steps s rest

end Utf8

/-- The size of one state. -/
def stateSize : Nat := 32

/-- The additional size of one step out of a state with several ranges. -/
def stepSize : Nat := 8

/-- The additional size of one way out of a fork. -/
def wayOutSize : Nat := 4

/-- The size of a fork with two ways out. -/
def forkSize : Nat := stateSize + 2 * wayOutSize

/-- The character of a set that has one only. -/
def CharSet.only? (s : CharSet) : Option Nat :=
  match s.ranges with
  | [(lo, hi)] => if lo = hi then some lo else none
  | _ => none

/-- The size of a set of characters in the forward form. -/
def CharSet.forwardSize (s : CharSet) : Nat :=
  if s.isEmpty then stateSize
  else
    match s.only? with
    | some c => (Utf8.bytes c).length * stateSize
    | none =>
      if s.isAscii then
        if s.ranges.length = 1 then 2 * stateSize
        else 2 * stateSize + s.ranges.length * stepSize
      else
        let sequences := Utf8.sequencesOf s
        let steps := Utf8.steps [] sequences
        (2 + steps - sequences.length) * stateSize + steps * stepSize

/-- The size of a set of characters in the backward form. -/
def CharSet.backwardSize (s : CharSet) : Nat :=
  if s.isEmpty || s.only?.isSome || s.isAscii then s.forwardSize
  else
    let sequences := Utf8.sequencesOf s
    (2 + Utf8.steps [] sequences) * stateSize + sequences.length * wayOutSize

/-- The size of a repetition, given the size of one round and whether a round can be empty. -/
def repetitionSize (round : Nat) (canBeEmpty : Bool) (min : Nat) : Option Nat → Nat
  | some max =>
    let required := if min = 0 then stateSize else min * round
    if max = min then required
    else if min = 0 ∧ max = 1 then forkSize + round + stateSize
    else required + (max - min) * (forkSize + round) + stateSize
  | none =>
    if min = 0 then if canBeEmpty then round + 2 * forkSize + stateSize else forkSize + round
    else min * round + forkSize

namespace Pattern

mutual

/-- The size of the compiled form that reads a text forwards. -/
def forwardSize : Pattern → Nat
  | .empty => stateSize
  | .chars s => s.forwardSize
  | .look _ => stateSize
  | .sequence ps => forwardSizes ps
  | .choice ps => 2 * stateSize + ps.length * wayOutSize + forwardSizes ps
  | .repetition min max p => repetitionSize p.forwardSize p.canBeEmpty min max
  | .group p => p.forwardSize + 2 * stateSize

/-- The sum of the sizes of several forward forms. -/
def forwardSizes : List Pattern → Nat
  | [] => 0
  | p :: ps => p.forwardSize + forwardSizes ps

end

mutual

/-- The size of the compiled form that reads a text backwards. -/
def backwardSize : Pattern → Nat
  | .empty => stateSize
  | .chars s => s.backwardSize
  | .look _ => stateSize
  | .sequence ps => backwardSizes ps
  | .choice ps => 2 * stateSize + ps.length * wayOutSize + backwardSizes ps
  | .repetition min max p => repetitionSize p.backwardSize p.canBeEmpty min max
  | .group p => p.backwardSize

/-- The sum of the sizes of several backward forms. -/
def backwardSizes : List Pattern → Nat
  | [] => 0
  | p :: ps => p.backwardSize + backwardSizes ps

end

/-- The size of the states that every compiled form has: the search for a beginning, the marks of
the whole match, and acceptance. -/
def frameSize : Nat := forkSize + 4 * stateSize

/-- The largest size that is accepted. -/
def sizeLimit : Nat := 10 * powerOfTwo 20

/-- Whether both compiled forms stay within the limit. -/
def fits (p : Pattern) : Bool :=
  p.forwardSize + frameSize ≤ sizeLimit && p.backwardSize + frameSize ≤ sizeLimit

end Pattern
end Regex
end ScriptReview
