import ScriptReview.Numeric.Binary64
import ScriptReview.Text.Blank

/-!
# Comment lines

A line counts as a comment when nothing is left of it without its blanks, or when two slashes are
left at its beginning. The bodies of block comments are not recognised.

Main definitions:

* `isCommentLine` tells comment lines, and `commentLines` counts them.
* `commentRatio` is their share of all lines.
-/

namespace ScriptReview

/-- Whether a line is blank or begins with two slashes. -/
def isCommentLine (line : List Char) : Bool :=
  let trimmed := Text.trim line
  trimmed.isEmpty || ['/', '/'].isPrefixOf trimmed

/-- A comment line is empty or begins with two slashes when it is trimmed. -/
theorem isCommentLine_iff (line : List Char) :
    isCommentLine line = true ↔ Text.trim line = [] ∨ "//".toList <+: Text.trim line := by
  simp [isCommentLine]

/-- The number of comment lines. -/
def commentLines (lines : List (List Char)) : Nat :=
  lines.countP isCommentLine

/-- The share of comment lines among some lines, zero where there are no lines. -/
def commentRatio (lines : List (List Char)) : Binary64 :=
  if lines.isEmpty then .zero
  else (Binary64.ofNat (commentLines lines)).div (Binary64.ofNat lines.length)

end ScriptReview
