import ScriptReview.Numeric.Natural

/-!
# Sources of random words

Numbers are drawn from whatever gives random words, of 32 bits or of 64 bits, and goes on with every
word that is drawn.

Main definitions:

* `WordSource` is what words are drawn from.
* `WordSource.below` draws a number below a bound.
-/

namespace ScriptReview

/-- A source of random words of two widths. A word that is drawn comes with the source after it. -/
class WordSource (G : Type) where
  next32 : G → UInt32 × G
  next64 : G → UInt64 × G

namespace WordSource

/-- The widths of words. -/
inductive Width where
  | narrow
  | wide
  deriving DecidableEq, Repr, Inhabited

/-- The number of words of a width. -/
def Width.count : Width → Nat
  | .narrow => powerOfTwo 32
  | .wide => powerOfTwo 64

/-- The width of the words that numbers below a bound are drawn with. -/
def widthFor (n : Nat) : Width :=
  if n < powerOfTwo 32 then .narrow else .wide

variable {G : Type} [WordSource G]

/-- Draws a word of a width. -/
def next (g : G) : Width → Nat × G
  | .narrow => ((next32 g).1.toNat, (next32 g).2)
  | .wide => ((next64 g).1.toNat, (next64 g).2)

/-- Draws a number below `n`. One word is stretched over the numbers; a second word decides where
the rest of the first one is too close to the next number. -/
def below (g : G) (n : Nat) : Nat × G :=
  let width := widthFor n
  let (x, g) := next g width
  let high := x * n / width.count
  let low := x * n % width.count
  if width.count - n < low then
    let (y, g) := next g width
    (if width.count ≤ low + y * n / width.count then high + 1 else high, g)
  else (high, g)

end WordSource
end ScriptReview
