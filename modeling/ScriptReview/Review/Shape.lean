import ScriptReview.Text.Blank
import ScriptReview.Text.Word

/-!
# Shapes of functions

Functions are found by the shape of their text: a declaration is the word `function` with a name
and a parameter list, a binding is a variable that is given an arrow function. A shape is a list
of pieces, and every piece takes as much of the text as it can. The piece after a repeated one
never begins with a character of the repeated set, so that taking less would not help.

Main definitions:

* `Shape.after?` matches a shape at the beginning of a text.
* `Shape.count` counts the matches from left to right, each beginning after the end of the one
  before.
* `functionCount` counts declarations and bindings.
-/

namespace ScriptReview

/-- A piece of a shape: one of some words, or a stretch of characters of a set. -/
inductive Piece where
  | word (choices : List (List Char))
  | some (set : Char → Bool)
  | any (set : Char → Bool)

/-- A shape of text as a list of pieces. -/
abbrev Shape := List Piece

namespace Piece

/-- The text after one of some words that stands at its beginning. -/
def afterWord? (choices : List (List Char)) (cs : List Char) : Option (List Char) :=
  (choices.find? (·.isPrefixOf cs)).map fun w => cs.drop w.length

/-- The text after a piece that stands at its beginning. -/
def after? (cs : List Char) : Piece → Option (List Char)
  | .word choices => afterWord? choices cs
  | .some set => if cs.head?.any set then Option.some (cs.dropWhile set) else none
  | .any set => Option.some (cs.dropWhile set)

end Piece

namespace Shape

/-- The text after a shape that stands at its beginning. -/
def after? (shape : Shape) (cs : List Char) : Option (List Char) :=
  shape.foldlM (fun rest piece => piece.after? rest) cs

/-- The number of matches from left to right, none of which overlaps another. -/
def count (shape : Shape) (cs : List Char) : Nat :=
  match cs with
  | [] => 0
  | c :: rest =>
    match after? shape (c :: rest) with
    | none => count shape rest
    | some left => if left.length ≤ rest.length then 1 + count shape left else count shape rest
termination_by cs.length
decreasing_by all_goals (simp only [List.length_cons]; omega)

/-- The blanks between the parts of a function. -/
def isSpace (c : Char) : Bool :=
  Text.inRanges Text.blankRanges c

/-- A parameter list: everything between a bracket and the next closing one. -/
def parameters : Shape :=
  [.word [['(']], .any (· != ')'), .word [[')']]]

/-- The shape of a function declaration. -/
def declaration : Shape :=
  [.word ["function".toList], .some isSpace, .some Text.isWordChar, .any isSpace] ++ parameters

/-- The shape of a variable that is given an arrow function. -/
def binding : Shape :=
  [.word ["const".toList, "let".toList, "var".toList], .some isSpace, .some Text.isWordChar,
    .any isSpace, .word [['=']], .any isSpace] ++ parameters ++
    [.any isSpace, .word ["=>".toList]]

end Shape

/-- The number of functions in a text. What has both shapes counts twice. -/
def functionCount (cs : List Char) : Nat :=
  Shape.declaration.count cs + Shape.binding.count cs

end ScriptReview
