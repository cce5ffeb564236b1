import ScriptReview.Toml.Quoted
import ScriptReview.Toml.Scalar
import ScriptReview.Toml.Tree

/-!
# TOML texts

A text is a list of statements, one in a line: a key with its value, or a header that says which
table the following keys belong to. Arrays may go on over several lines.

Main definitions:

* `Toml.Statement` is a statement, and `Toml.statements?` reads those of a text.
* `Toml.Section.ofStatements` gathers the keys of each header.
* `Toml.read?` gives the table that a text stands for.
-/

namespace ScriptReview
namespace Toml

/-- How many parts a dotted key may have, and how many arrays and tables in braces may be open at
one place. -/
def depthLimit : Nat := 79

/-! ## Keys -/

/-- The characters of keys without quotes. -/
def isBareChar (c : Char) : Bool :=
  c.isAlphanum || c == '-' || c == '_'

/-- Reads one part of a key. -/
def part? : List Char → Option (String × List Char)
  | '"' :: rest => (basic? rest).map fun (text, rest) => (String.ofList text, rest)
  | '\'' :: rest => (literal? rest).map fun (text, rest) => (String.ofList text, rest)
  | cs =>
    let bare := cs.takeWhile isBareChar
    if bare = [] then none else some (String.ofList bare, cs.dropWhile isBareChar)

/-- Reads a key of at most so many parts, with the blanks around it. -/
def key? : Nat → List Char → Option (List String × List Char)
  | 0, _ => none
  | limit + 1, cs =>
    match part? (skipBlanks cs) with
    | none => none
    | some (name, rest) =>
      match skipBlanks rest with
      | '.' :: rest => (key? limit rest).map fun (names, rest) => (name :: names, rest)
      | rest => some ([name], rest)

/-! ## Comments and line ends -/

/-- The text after blanks, line ends and comments at its beginning. The flag says that a comment has
begun. -/
def skipLines : Bool → List Char → List Char
  | _, [] => []
  | _, '\n' :: rest => skipLines false rest
  | _, '\r' :: '\n' :: rest => skipLines false rest
  | inComment, c :: rest =>
    if inComment && isPlain c then skipLines true rest
    else if !inComment && isBlank c then skipLines false rest
    else if !inComment && c == '#' then skipLines true rest
    else c :: rest

/-- The text after a comment that it may begin with. -/
def skipComment : List Char → List Char
  | '#' :: rest => rest.dropWhile isPlain
  | cs => cs

/-- The text after the end of a line, before which there may be blanks and a comment. -/
def afterLine? (cs : List Char) : Option (List Char) :=
  match skipComment (skipBlanks cs) with
  | [] => some []
  | cs => afterNewline? cs

/-! ## Values -/

/-- A key with its value as a pair. -/
def pairOf? (names : List String) (v : Value) : Option Pair :=
  names.getLast?.map fun key => ⟨names.dropLast, key, v⟩

/-- Reads a value that is neither an array nor a table. -/
def scalar? : List Char → Option (Value × List Char)
  | 't' :: 'r' :: 'u' :: 'e' :: rest => some (.bool true, rest)
  | 'f' :: 'a' :: 'l' :: 's' :: 'e' :: rest => some (.bool false, rest)
  | cs => ((string? cs).map fun (s, rest) => (.string s, rest)).or (number? cs)

mutual

/-- Reads a value in which at most `depth` arrays and tables may be open at one place. The first
number bounds how many more calls are made. -/
def valueFrom? : Nat → Nat → List Char → Option (Value × List Char)
  | 0, _, _ => none
  | fuel + 1, depth, cs =>
    match cs with
    | '[' :: rest =>
      if depth = 0 then none
      else (itemsFrom? fuel (depth - 1) rest).map fun (items, rest) => (.array items, rest)
    | '\x7b' :: rest =>
      if depth = 0 then none
      else
        match skipBlanks rest with
        | '\x7d' :: rest => some (.table [], rest)
        | rest =>
          match pairsFrom? fuel (depth - 1) rest with
          | none => none
          | some (pairs, rest) => (inlineTable? pairs).map (·, rest)
    | cs => scalar? cs

/-- Reads the items of an array up to its closing bracket. A comma may follow the last item. -/
def itemsFrom? : Nat → Nat → List Char → Option (List Value × List Char)
  | 0, _, _ => none
  | fuel + 1, depth, cs =>
    match skipLines false cs with
    | ']' :: rest => some ([], rest)
    | cs =>
      match valueFrom? fuel depth cs with
      | none => none
      | some (v, rest) =>
        match skipLines false rest with
        | ',' :: rest => (itemsFrom? fuel depth rest).map fun (vs, rest) => (v :: vs, rest)
        | ']' :: rest => some ([v], rest)
        | _ => none

/-- Reads the pairs of a table in braces, of which there is at least one, and its closing brace. -/
def pairsFrom? : Nat → Nat → List Char → Option (List Pair × List Char)
  | 0, _, _ => none
  | fuel + 1, depth, cs =>
    match key? depthLimit cs with
    | some (names, '=' :: rest) =>
      match valueFrom? fuel depth (skipBlanks rest) with
      | none => none
      | some (v, rest) =>
        match pairOf? names v, skipBlanks rest with
        | some p, ',' :: rest => (pairsFrom? fuel depth rest).map fun (ps, rest) => (p :: ps, rest)
        | some p, '\x7d' :: rest => some ([p], rest)
        | _, _ => none
    | _ => none

end

/-- Reads a value. Every call but the first leaves a character behind before the next call of its
kind, so that twice the length of the text bounds their number. -/
def value? (cs : List Char) : Option (Value × List Char) :=
  valueFrom? (2 * cs.length + 2) depthLimit cs

/-! ## Statements -/

/-- A statement: a key with its value, the header of a table, or the header of a table that is added
to an array. -/
inductive Statement where
  | pair (p : Pair)
  | table (path : List String)
  | element (path : List String)
  deriving Inhabited

/-- Reads a statement up to the end of its line. -/
def statement? : List Char → Option (Statement × List Char)
  | '[' :: '[' :: rest =>
    match key? depthLimit rest with
    | some (path, ']' :: ']' :: rest) => (afterLine? rest).map (.element path, ·)
    | _ => none
  | '[' :: rest =>
    match key? depthLimit rest with
    | some (path, ']' :: rest) => (afterLine? rest).map (.table path, ·)
    | _ => none
  | cs =>
    match key? depthLimit cs with
    | some (names, '=' :: rest) => do
      let (v, rest) ← value? (skipBlanks rest)
      let p ← pairOf? names v
      let rest ← afterLine? rest
      some (.pair p, rest)
    | _ => none

/-- Reads statements up to the end of the text. The number bounds how many there are. -/
def statementsFrom? : Nat → List Char → Option (List Statement)
  | 0, _ => none
  | fuel + 1, cs =>
    match skipLines false cs with
    | [] => some []
    | cs =>
      match statement? cs with
      | none => none
      | some (s, rest) => (statementsFrom? fuel rest).map (s :: ·)

/-- The text after a byte order mark that it may begin with. -/
def skipMark : List Char → List Char
  | [] => []
  | c :: rest => if c.toNat = 0xFEFF then rest else c :: rest

/-- Reads the statements of a text. -/
def statements? (text : List Char) : Option (List Statement) :=
  statementsFrom? (text.length + 1) (skipMark text)

/-! ## Sections -/

/-- A header with the pairs that follow it. -/
structure Section where
  isElement : Bool
  path : List String
  pairs : List Pair
  deriving Inhabited

namespace Section

/-- Gathers the pairs before the first header, and the sections of all headers. -/
def ofStatements : List Statement → List Pair × List Section
  | [] => ([], [])
  | s :: rest =>
    let (pairs, sections) := ofStatements rest
    match s with
    | .pair p => (p :: pairs, sections)
    | .table path => ([], ⟨false, path, pairs⟩ :: sections)
    | .element path => ([], ⟨true, path, pairs⟩ :: sections)

/-- Adds the table of a section. -/
def addTo? (members : Node.Members) (s : Section) : Option Node.Members :=
  Node.place? (if s.isElement then Node.append? s.pairs else Node.declare? s.pairs) s.path members

end Section

/-- The table that statements stand for. -/
def tableOf? (statements : List Statement) : Option (List (String × Value)) := do
  let (pairs, sections) := Section.ofStatements statements
  let members ← Node.putAll? [] pairs
  let members ← sections.foldlM Section.addTo? members
  some (Node.toMembers members)

/-- The members of the table that a text stands for. -/
def read? (text : List Char) : Option (List (String × Value)) :=
  (statements? text).bind tableOf?

end Toml
end ScriptReview
