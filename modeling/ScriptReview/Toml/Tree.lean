import ScriptReview.Toml.Value

/-!
# Putting tables together

The tables of a TOML text come in pieces: a header names a table by its path, and a dotted key
reaches into a table. A table that was declared by a header, or written in braces, is complete,
while a table that is only mentioned on the path to another may still be declared, and a table
made by dotted keys may be continued by dotted keys.

Main definitions:

* `Toml.Node` is a part of a text that is being put together.
* `Toml.Node.put?` adds the value of a dotted key, `Toml.Node.place?` the table of a header.
* `Toml.inlineTable?` puts the pairs of a table in braces together.
-/

namespace ScriptReview
namespace Toml

/-- How a table came about: by a header, on the path of a header, or by a dotted key. -/
inductive Origin where
  | declared
  | mentioned
  | dotted
  deriving DecidableEq, Repr, Inhabited

/-- A part of a text that is being put together: a complete value, a table, or an array of the
tables that headers in double brackets declare, the last of them first. -/
inductive Node where
  | complete (v : Value)
  | table (origin : Origin) (members : List (String × Node))
  | elements (newestFirst : List (List (String × Node)))
  deriving Inhabited

/-- A dotted key and its value. The path holds all parts of the key but the last. -/
structure Pair where
  path : List String
  key : String
  value : Value
  deriving Inhabited

namespace Node

/-- The members of a table that is being put together. -/
abbrev Members := List (String × Node)

/-! ## Members -/

/-- Changes the member of a name. The change of a missing member adds it at the end. -/
def alter? (name : String) (change : Option Node → Option Node) : Members → Option Members
  | [] => (change none).map fun node => [(name, node)]
  | (n, node) :: rest =>
    if n = name then (change (some node)).map fun node => (n, node) :: rest
    else (alter? name change rest).map ((n, node) :: ·)

/-- Adds a member that must not be there yet. -/
def add? (name : String) (node : Node) (members : Members) : Option Members :=
  alter? name (fun old => if old.isNone then some node else none) members

/-! ## Dotted keys -/

/-- Adds the value of a dotted key to the members that its path begins at. The tables on the path
are made by dotted keys, or mentioned by a header and left by the next part of the path, or the
last of an array of tables and left likewise. -/
def put? (key : String) (v : Value) : List String → Members → Option Members
  | [], members => add? key (.complete v) members
  | name :: path, members =>
    alter? name (fun
      | none => (put? key v path []).map (.table .dotted)
      | some (.table .dotted inner) => (put? key v path inner).map (.table .dotted)
      | some (.table .mentioned inner) =>
        if path.isEmpty then none else (put? key v path inner).map (.table .mentioned)
      | some (.elements (newest :: older)) =>
        if path.isEmpty then none
        else (put? key v path newest).map fun newest => .elements (newest :: older)
      | _ => none) members

/-- Adds several dotted keys in order. -/
def putAll? (members : Members) (pairs : List Pair) : Option Members :=
  pairs.foldlM (fun members p => put? p.key p.value p.path members) members

/-! ## Headers -/

/-- Changes the node at a path that is not empty. The tables on the path may be of any origin, and
missing ones are mentioned. -/
def place? (change : Option Node → Option Node) : List String → Members → Option Members
  | [], _ => none
  | [name], members => alter? name change members
  | name :: next :: path, members =>
    alter? name (fun
      | none => (place? change (next :: path) []).map (.table .mentioned)
      | some (.table origin inner) => (place? change (next :: path) inner).map (.table origin)
      | some (.elements (newest :: older)) =>
        (place? change (next :: path) newest).map fun newest => .elements (newest :: older)
      | _ => none) members

/-- Declares a table. It may have been mentioned before, and then its members are kept. -/
def declare? (pairs : List Pair) : Option Node → Option Node
  | none => (putAll? [] pairs).map (.table .declared)
  | some (.table .mentioned members) => (putAll? members pairs).map (.table .declared)
  | some _ => none

/-- Adds a table to an array of tables. -/
def append? (pairs : List Pair) : Option Node → Option Node
  | none => (putAll? [] pairs).map fun members => .elements [members]
  | some (.elements tables) => (putAll? [] pairs).map fun members => .elements (members :: tables)
  | some _ => none

/-! ## Values -/

mutual

/-- The value of a part when the text is complete. -/
def toValue : Node → Value
  | .complete v => v
  | .table _ members => .table (toMembers members)
  | .elements tables => .array (toTables tables).reverse

/-- The members of a table when the text is complete. -/
def toMembers : List (String × Node) → List (String × Value)
  | [] => []
  | (name, node) :: rest => (name, toValue node) :: toMembers rest

/-- The tables of an array when the text is complete, in the same order. -/
def toTables : List (List (String × Node)) → List Value
  | [] => []
  | members :: rest => .table (toMembers members) :: toTables rest

end

end Node

/-- The table of some pairs in braces. -/
def inlineTable? (pairs : List Pair) : Option Value :=
  (Node.putAll? [] pairs).map fun members => .table (Node.toMembers members)

end Toml
end ScriptReview
