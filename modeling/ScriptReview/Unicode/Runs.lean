/-!
# Sets of characters as run lengths

The character tables of this library are rows of hexadecimal numbers. A set is written as the
lengths of its gaps and of its stretches in turn, starting with the gap before its first
character.

Main definitions:

* `Runs.numbers` reads the numbers of some rows.
* `Runs.decode` turns run lengths into inclusive ranges.
-/

namespace ScriptReview
namespace Unicode
namespace Runs

/-- The value of a lower-case hexadecimal digit. -/
def hexValue (c : Char) : Nat :=
  if c.isDigit then c.toNat - '0'.toNat else c.toNat - 'a'.toNat + 10

/-- Reads the numbers that remain in a row, given the number that is being read. -/
def numbersFrom : Option Nat → List Char → List Nat
  | none, [] => []
  | some n, [] => [n]
  | none, c :: cs => if c = ' ' then numbersFrom none cs else numbersFrom (some (hexValue c)) cs
  | some n, c :: cs =>
    if c = ' ' then n :: numbersFrom none cs else numbersFrom (some (16 * n + hexValue c)) cs

/-- The hexadecimal numbers of some rows. Blanks separate the numbers of a row. -/
def numbers (rows : List String) : List Nat :=
  rows.flatMap fun row => numbersFrom none row.toList

/-- The inclusive ranges of the stretches that follow position `start`. -/
def rangesFrom (start : Nat) : List Nat → List (Nat × Nat)
  | gap :: length :: rest =>
    (start + gap, start + gap + length - 1) :: rangesFrom (start + gap + length) rest
  | _ => []

/-- The inclusive ranges that rows of run lengths stand for. -/
def decode (rows : List String) : List (Nat × Nat) :=
  rangesFrom 0 (numbers rows)

end Runs
end Unicode
end ScriptReview
