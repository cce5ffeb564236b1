import ScriptReview.Json.Number

/-!
# Using JSON documents

The parts of a document that are used have to stand for values: their strings for characters,
their numbers for doubles at the worst, and their arrays and objects must not be nested too
deeply. The parts that are not used have to be well formed and nothing more.

Main definitions:

* `Json.Document.value?` is the value of a document.
* `Json.Document.record?` finds the fields of a record.
* `Json.Document.choice?` finds a name among some names.
-/

namespace ScriptReview
namespace Json
namespace Document

/-- How many arrays and objects may be open at one place of a used part. -/
def depthLimit : Nat := 127

mutual

/-- The value of a document in which at most `depth` arrays and objects may be open at one place.
The members of an object are sorted by name, and the last one of a name counts. -/
def value? (depth : Nat) : Document → Option Value
  | .null => some .null
  | .bool b => some (.bool b)
  | .number n => n.value?
  | .string symbols => (textOf? symbols).map .string
  | .array items => if depth = 0 then none else (values? (depth - 1) items).map .array
  | .object members =>
    if depth = 0 then none else (memberValues? (depth - 1) members []).map .object

/-- The values of several documents. -/
def values? (depth : Nat) : List Document → Option (List Value)
  | [] => some []
  | d :: ds => do
    let v ← value? depth d
    let vs ← values? depth ds
    some (v :: vs)

/-- The values of the members of an object, put among the members before them. -/
def memberValues? (depth : Nat) :
    List (List Symbol × Document) → List (String × Value) → Option (List (String × Value))
  | [], sorted => some sorted
  | (name, d) :: rest, sorted => do
    let n ← textOf? name
    let v ← value? depth d
    memberValues? depth rest (Value.putMember n v sorted)

end

/-- The items of an array. -/
def items? : Document → Option (List Document)
  | .array items => some items
  | _ => none

/-- The strings of an array of strings. -/
def texts? (d : Document) : Option (List String) :=
  d.items?.bind (·.mapM text?)

/-- The names of members. Every one of them has to stand for characters. -/
def named? (members : List (List Symbol × Document)) : Option (List (String × Document)) :=
  members.mapM fun (name, d) => (textOf? name).map (·, d)

/-- The fields of a record in the order of their names. A record is an object, in which a field must
not come twice and other members are ignored, or an array of the fields in order, whose last fields
may be missing. -/
def record? (names : List String) : Document → Option (List (Option Document))
  | .array items =>
    if items.length ≤ names.length then
      some (items.map some ++ List.replicate (names.length - items.length) none)
    else none
  | .object members => do
    let members ← named? members
    if names.all fun n => (members.filter (·.1 == n)).length ≤ 1 then
      some (names.map fun n => List.lookup n members)
    else none
  | _ => none

/-- A name among some names, written as a string or as an object with the name as its only member
and no value. -/
def choice? {α : Type} (find : String → Option α) : Document → Option α
  | .string symbols => (textOf? symbols).bind find
  | .object [(name, .null)] => (textOf? name).bind find
  | _ => none

end Document
end Json
end ScriptReview
