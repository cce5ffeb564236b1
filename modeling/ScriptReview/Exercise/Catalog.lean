import ScriptReview.Exercise.Basic
import ScriptReview.Fault

/-!
# Catalogs

A catalog holds exercises in three buckets, one for each difficulty. A text is accepted as a catalog
only if every exercise lies in the bucket of the difficulty that it declares.

Main definitions:

* `Catalog.bucket` is the list of exercises of a difficulty.
* `Catalog.ofExercises` sorts loose exercises into buckets.
* `Catalog.ofText` reads a catalog from JSON text.

Main results:

* `Catalog.bucket_put` says that an exercise is added to the bucket that it declares.
-/

namespace ScriptReview

/-- Exercises by difficulty. -/
structure Catalog where
  easy : List Exercise
  medium : List Exercise
  hard : List Exercise
  deriving Inhabited

namespace Catalog

/-- The catalog without exercises. -/
def empty : Catalog := ⟨[], [], []⟩

/-- The exercises of a difficulty. -/
def bucket (c : Catalog) : Difficulty → List Exercise
  | .easy => c.easy
  | .medium => c.medium
  | .hard => c.hard

/-- The number of exercises. -/
def size (c : Catalog) : Nat :=
  c.easy.length + c.medium.length + c.hard.length

/-- Whether there are no exercises. -/
def isEmpty (c : Catalog) : Bool :=
  c.size == 0

/-- Adds an exercise at the end of the bucket that it declares. -/
def put (c : Catalog) (e : Exercise) : Catalog :=
  match e.difficulty with
  | .easy => { c with easy := c.easy ++ [e] }
  | .medium => { c with medium := c.medium ++ [e] }
  | .hard => { c with hard := c.hard ++ [e] }

/-- Sorts exercises into the buckets that they declare. -/
def ofExercises (es : List Exercise) : Catalog :=
  es.foldl put empty

/-- An exercise is added to the bucket that it declares and to no other. -/
theorem bucket_put (c : Catalog) (e : Exercise) (d : Difficulty) :
    (c.put e).bucket d = if e.difficulty = d then c.bucket d ++ [e] else c.bucket d := by
  unfold put
  cases h : e.difficulty <;> cases d <;> simp [bucket]

/-- The first exercise of a bucket that declares another difficulty. -/
def misfiledIn? (c : Catalog) (d : Difficulty) : Option Fault :=
  ((c.bucket d).find? (·.difficulty ≠ d)).map fun e => .misfiled e.title d e.difficulty

/-- The first exercise that lies in a wrong bucket, bucket by bucket. -/
def misfiled? (c : Catalog) : Option Fault :=
  Difficulty.all.findSome? c.misfiledIn?

/-- Accepts a catalog in which every exercise lies in its bucket. -/
def validate (c : Catalog) : Except Fault Catalog :=
  match c.misfiled? with
  | some f => .error f
  | none => .ok c

/-- The exercises of a bucket of a document. A bucket that is missing is empty. -/
def bucketOfDocument? : Option Json.Document → Option (List Exercise)
  | none => some []
  | some d => Exercise.listOfDocument? (Json.Document.depthLimit - 1) d

/-- Reads the three buckets of a document. -/
def ofDocument? (d : Json.Document) : Option Catalog := do
  match ← d.record? (Difficulty.all.map Difficulty.label) with
  | [easy, medium, hard] =>
    let easy ← bucketOfDocument? easy
    let medium ← bucketOfDocument? medium
    let hard ← bucketOfDocument? hard
    some { easy, medium, hard }
  | _ => none

/-- Reads a catalog from JSON text. The text as a whole is read before the buckets are compared with
what the exercises declare. -/
def ofText (text : String) : Except Fault Catalog :=
  match (Json.Document.read? text.toList).bind ofDocument? with
  | none => .error .catalog
  | some c => c.validate

/-- Reads loose exercises from JSON text and sorts them into buckets. -/
def ofLooseText (text : String) : Except Fault Catalog :=
  let list? := Exercise.listOfDocument? Json.Document.depthLimit
  match (Json.Document.read? text.toList).bind list? with
  | none => .error .catalog
  | some es => .ok (ofExercises es)

end Catalog
end ScriptReview
