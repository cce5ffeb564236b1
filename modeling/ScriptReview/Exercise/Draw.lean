import ScriptReview.Exercise.Catalog
import ScriptReview.Random.WordSource

/-!
# Drawing exercises

An exercise of a difficulty is drawn with the words of any source. A bucket without exercises gives
a fault and draws nothing.

Main definitions:

* `Catalog.draw` draws one exercise, `Catalog.drawAll` several from one source.
-/

namespace ScriptReview
namespace Catalog

variable {G : Type} [WordSource G]

/-- Draws an exercise of a difficulty. -/
def draw (c : Catalog) (d : Difficulty) (g : G) : Except Fault Exercise × G :=
  if (c.bucket d).isEmpty then (.error (.emptyBucket d), g)
  else
    let (i, g) := WordSource.below g (c.bucket d).length
    match (c.bucket d)[i]? with
    | some e => (.ok e, g)
    | none => (.error (.emptyBucket d), g)

/-- Draws exercises of several difficulties in order. -/
def drawAll (c : Catalog) : List Difficulty → G → List (Except Fault Exercise)
  | [], _ => []
  | d :: ds, g => (c.draw d g).1 :: c.drawAll ds (c.draw d g).2

end Catalog
end ScriptReview
