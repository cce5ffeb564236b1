import ScriptReview.Numeric.Binary64

/-!
# TOML values

Main definitions:

* `Toml.Value` is a TOML value. The members of a table have different names.
* `Toml.Value.decEq` compares two values.
* `Toml.Value.field?` finds a member of a table.
-/

namespace ScriptReview
namespace Toml

/-- A TOML value. Dates and times are kept as they are written. -/
inductive Value where
  | string (s : String)
  | integer (i : Int)
  | float (x : Binary64)
  | bool (b : Bool)
  | dateTime (text : String)
  | array (items : List Value)
  | table (members : List (String × Value))
  deriving Inhabited

namespace Value

mutual

/-- Compares values. Values of different kinds differ. -/
def decEq (v w : Value) : Decidable (v = w) :=
  if h : v.ctorIdx = w.ctorIdx then
    match v, w, h with
    | .string s, .string s', _ => decidable_of_iff (s = s') (by rw [string.injEq])
    | .integer i, .integer i', _ => decidable_of_iff (i = i') (by rw [integer.injEq])
    | .float x, .float x', _ => decidable_of_iff (x = x') (by rw [float.injEq])
    | .bool b, .bool b', _ => decidable_of_iff (b = b') (by rw [bool.injEq])
    | .dateTime t, .dateTime t', _ => decidable_of_iff (t = t') (by rw [dateTime.injEq])
    | .array vs, .array vs', _ =>
      haveI := decEqItems vs vs'
      decidable_of_iff (vs = vs') (by rw [array.injEq])
    | .table ms, .table ms', _ =>
      haveI := decEqMembers ms ms'
      decidable_of_iff (ms = ms') (by rw [table.injEq])
  else isFalse fun heq => h (congrArg Value.ctorIdx heq)

/-- Compares the items of arrays. -/
def decEqItems : (vs ws : List Value) → Decidable (vs = ws)
  | [], [] => isTrue rfl
  | [], _ :: _ => isFalse nofun
  | _ :: _, [] => isFalse nofun
  | v :: vs, w :: ws =>
    haveI := decEq v w
    haveI := decEqItems vs ws
    decidable_of_iff (v = w ∧ vs = ws) (by rw [List.cons.injEq])

/-- Compares the members of tables. -/
def decEqMembers : (ms ns : List (String × Value)) → Decidable (ms = ns)
  | [], [] => isTrue rfl
  | [], _ :: _ => isFalse nofun
  | _ :: _, [] => isFalse nofun
  | (name, v) :: ms, (name', w) :: ns =>
    haveI := decEq v w
    haveI := decEqMembers ms ns
    decidable_of_iff ((name = name' ∧ v = w) ∧ ms = ns) (by rw [List.cons.injEq, Prod.mk.injEq])

end

instance : DecidableEq Value := decEq

/-- The string that a value is. -/
def text? : Value → Option String
  | .string s => some s
  | _ => none

/-- The truth value that a value is. -/
def bool? : Value → Option Bool
  | .bool b => some b
  | _ => none

/-- The items of an array. -/
def items? : Value → Option (List Value)
  | .array items => some items
  | _ => none

/-- Whether a value is a table or an array in which there is nothing. -/
def isHollow : Value → Bool
  | .array [] => true
  | .table [] => true
  | _ => false

end Value
end Toml
end ScriptReview
