/-!
# Blank characters and trimming

Two sets of blank characters are in use. The general one holds every character with the White_Space
property. The one that scripts are read with follows the script standard: it lacks NEXT LINE and has
the byte order mark.

Main definitions:

* `isWhiteSpace` is the general set, `isBlank` the set of scripts.
* `blankRanges` lists the set of scripts as ranges.
* `trimBy` removes the characters of a set from both ends of a text, `trim` the blanks of scripts.

Main results:

* `isBlank_iff_mem_blankRanges` says that the two descriptions of the blanks of scripts agree.
-/

namespace ScriptReview
namespace Text

/-- The White_Space property. -/
def isWhiteSpace (c : Char) : Bool :=
  let n := c.toNat
  (9 ≤ n && n ≤ 13) || n == 0x20 || n == 0x85 || n == 0xA0 || n == 0x1680 ||
    (0x2000 ≤ n && n ≤ 0x200A) || n == 0x2028 || n == 0x2029 || n == 0x202F || n == 0x205F ||
    n == 0x3000

/-- The blank characters of scripts: white space without NEXT LINE, and the byte order mark. -/
def isBlank (c : Char) : Bool :=
  (isWhiteSpace c && c.toNat != 0x85) || c.toNat == 0xFEFF

/-- The blank characters of scripts as inclusive ranges of code points. -/
def blankRanges : List (Nat × Nat) :=
  [(0x09, 0x0D), (0x20, 0x20), (0xA0, 0xA0), (0x1680, 0x1680), (0x2000, 0x200A), (0x2028, 0x2029),
    (0x202F, 0x202F), (0x205F, 0x205F), (0x3000, 0x3000), (0xFEFF, 0xFEFF)]

/-- Membership in one of the ranges. -/
def inRanges (ranges : List (Nat × Nat)) (c : Char) : Bool :=
  ranges.any fun r => r.1 ≤ c.toNat && c.toNat ≤ r.2

/-- The blanks of scripts are the characters of `blankRanges`. -/
theorem isBlank_iff_mem_blankRanges (c : Char) : isBlank c = inRanges blankRanges c := by
  rw [Bool.eq_iff_iff]
  simp [isBlank, isWhiteSpace, inRanges, blankRanges]
  omega

/-- A text without the characters of a set at its end. -/
def trimEndBy (p : Char → Bool) (cs : List Char) : List Char :=
  (cs.reverse.dropWhile p).reverse

/-- A text without the characters of a set at its two ends. -/
def trimBy (p : Char → Bool) (cs : List Char) : List Char :=
  trimEndBy p (cs.dropWhile p)

/-- A text without the blanks of scripts at its two ends. -/
def trim (cs : List Char) : List Char :=
  trimBy isBlank cs

@[simp]
theorem trim_nil : trim [] = [] :=
  rfl

end Text
end ScriptReview
