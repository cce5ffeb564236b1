import ScriptReview.Exercise.Difficulty
import ScriptReview.Json.Decode

/-!
# Exercises

An exercise asks for a function and gives a template, test cases and hints. The arguments and
results of the test cases are arbitrary JSON values.

Main definitions:

* `TestCase` and `Exercise` are the records, and `toJson` writes them with their fields in order.
* `Exercise.ofDocument?` reads an exercise from a JSON document.
-/

namespace ScriptReview

/-- A call with the result that is expected. -/
structure TestCase where
  input : List Json.Value
  expected : Json.Value
  description : String
  deriving Inhabited

/-- A practice exercise. -/
structure Exercise where
  title : String
  description : String
  difficulty : Difficulty
  stub : String
  testCases : List TestCase
  hints : List String
  deriving Inhabited

namespace TestCase

/-- The names of the fields in order. -/
def fields : List String := ["input", "expected", "description"]

/-- A test case as JSON. -/
def toJson (c : TestCase) : Json.Value :=
  .object [("input", .array c.input), ("expected", c.expected),
    ("description", .string c.description)]

/-- Reads a test case from a document in which at most `depth` arrays and objects may be open. -/
def ofDocument? (depth : Nat) (d : Json.Document) : Option TestCase := do
  match ← d.record? fields with
  | [some input, some expected, some description] =>
    let items ← input.items?
    let input ← Json.Document.values? (depth - 2) items
    let expected ← expected.value? (depth - 1)
    let description ← description.text?
    some { input, expected, description }
  | _ => none

end TestCase

namespace Exercise

/-- The names of the fields in order. -/
def fields : List String :=
  ["title", "description", "difficulty", "functionStub", "testCases", "hints"]

/-- An exercise as JSON. -/
def toJson (e : Exercise) : Json.Value :=
  .object [("title", .string e.title), ("description", .string e.description),
    ("difficulty", .string e.difficulty.label), ("functionStub", .string e.stub),
    ("testCases", .array (e.testCases.map TestCase.toJson)),
    ("hints", .array (e.hints.map Json.Value.string))]

/-- Reads an exercise from a document in which at most `depth` arrays and objects may be open. Every
field is required. -/
def ofDocument? (depth : Nat) (d : Json.Document) : Option Exercise := do
  match ← d.record? fields with
  | [some title, some description, some difficulty, some stub, some testCases, some hints] =>
    let title ← title.text?
    let description ← description.text?
    let difficulty ← difficulty.choice? Difficulty.ofLabel?
    let stub ← stub.text?
    let cases ← testCases.items?
    let testCases ← cases.mapM (TestCase.ofDocument? (depth - 2))
    let hints ← hints.texts?
    some { title, description, difficulty, stub, testCases, hints }
  | _ => none

/-- Reads a list of exercises from a document in which at most `depth` arrays and objects may be
open. -/
def listOfDocument? (depth : Nat) (d : Json.Document) : Option (List Exercise) :=
  d.items?.bind (·.mapM (ofDocument? (depth - 1)))

end Exercise
end ScriptReview
