import ScriptReview.Toml.Value

/-!
# Using TOML values

Main definitions:

* `Toml.Value.fields?` finds the fields of a record.
* `Toml.Value.choice?` finds a name among some names.
* `Toml.optional?` reads a field that has a default.
-/

namespace ScriptReview
namespace Toml

namespace Value

/-- The fields of a record in the order of their names. A record is a table, whose other members
are ignored, or an array of the fields in order, whose last fields may be missing and whose
further items are ignored. A date is a record in which no field is given. -/
def fields? (names : List String) : Value → Option (List (Option Value))
  | .table members => some (names.map fun n => List.lookup n members)
  | .array items => some ((List.range names.length).map fun i => items[i]?)
  | .dateTime _ => some (names.map fun _ => none)
  | _ => none

/-- A name among some names, written as a string or as a table with the name as its only key and
nothing in its value. -/
def choice? {α : Type} (find : String → Option α) : Value → Option α
  | .string s => find s
  | .table [(name, v)] => if v.isHollow then find name else none
  | _ => none

/-- The strings of an array of strings. -/
def texts? (v : Value) : Option (List String) :=
  v.items?.bind (·.mapM text?)

end Value

/-- Reads a field that has a default. -/
def optional? {α : Type} (default : α) (read : Value → Option α) : Option Value → Option α
  | none => some default
  | some v => read v

/-- A field that is missing has its default. -/
@[simp]
theorem optional?_none {α : Type} (default : α) (read : Value → Option α) :
    optional? default read none = some default :=
  rfl

@[simp]
theorem optional?_some {α : Type} (default : α) (read : Value → Option α) (v : Value) :
    optional? default read (some v) = read v :=
  rfl

end Toml
end ScriptReview
