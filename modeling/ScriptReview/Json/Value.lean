import ScriptReview.Decimal.Shortest

/-!
# JSON values

Main definitions:

* `Json.Value` is a JSON value. The members of an object keep the order in which they are listed.
* `Json.Value.putMember` adds a member to members that are sorted by name.
* `Json.Value.compact` and `Json.Value.pretty` write a value in one line and in several lines.
-/

namespace ScriptReview
namespace Json

/-- A JSON value. Numbers are integers or doubles. -/
inductive Value where
  | null
  | bool (b : Bool)
  | int (i : Int)
  | double (x : Binary64)
  | string (s : String)
  | array (items : List Value)
  | object (members : List (String × Value))
  deriving Inhabited

namespace Value

/-- Puts a member among members that are sorted by name. A member of the same name is replaced. -/
def putMember (name : String) (v : Value) : List (String × Value) → List (String × Value)
  | [] => [(name, v)]
  | (n, w) :: rest =>
    if name < n then (name, v) :: (n, w) :: rest
    else if name = n then (name, v) :: rest
    else (n, w) :: putMember name v rest

/-! ## Writing scalars -/

/-- The four hexadecimal digits of a control character. -/
def hexEscape (n : Nat) : List Char :=
  ['\\', 'u', '0', '0', Nat.digitChar (n / 16), Nat.digitChar (n % 16)]

/-- One character of a string as it is written. Quotes, backslashes and control characters are
escaped. -/
def escapeChar (c : Char) : List Char :=
  if c = '"' then ['\\', '"']
  else if c = '\\' then ['\\', '\\']
  else if 0x20 ≤ c.toNat then [c]
  else if c.toNat = 0x08 then ['\\', 'b']
  else if c.toNat = 0x09 then ['\\', 't']
  else if c.toNat = 0x0A then ['\\', 'n']
  else if c.toNat = 0x0C then ['\\', 'f']
  else if c.toNat = 0x0D then ['\\', 'r']
  else hexEscape c.toNat

/-- A string in quotes. -/
def quote (s : String) : List Char :=
  '"' :: s.toList.flatMap escapeChar ++ ['"']

/-- The digits of an integer. -/
def intText (i : Int) : List Char :=
  if i < 0 then '-' :: Nat.toDigits 10 i.natAbs else Nat.toDigits 10 i.natAbs

/-- Doubles are written with an exponent from `1e16` up and below `1e-5`. -/
def doubleLayout : Decimal.Layout := ⟨-5, 15⟩

/-- The shortest text of a finite double. Other doubles have no text of their own. -/
def doubleText (x : Binary64) : List Char :=
  if x.isNaN || x.isInfinite then "null".toList
  else (if x.isNegative then ['-'] else []) ++ (Decimal.shortest x).render doubleLayout

/-! ## Writing values -/

mutual

/-- A value in one line without blanks. -/
def compact : Value → List Char
  | .null => "null".toList
  | .bool b => (if b then "true" else "false").toList
  | .int i => intText i
  | .double x => doubleText x
  | .string s => quote s
  | .array items => '[' :: compactItems items ++ [']']
  | .object members => '\x7b' :: compactMembers members ++ ['\x7d']

/-- The items of an array in one line. -/
def compactItems : List Value → List Char
  | [] => []
  | [v] => compact v
  | v :: vs => compact v ++ ',' :: compactItems vs

/-- The members of an object in one line. -/
def compactMembers : List (String × Value) → List Char
  | [] => []
  | [(n, v)] => quote n ++ ':' :: compact v
  | (n, v) :: rest => quote n ++ ':' :: compact v ++ ',' :: compactMembers rest

end

/-- A new line with two blanks for each level. -/
def newLine (level : Nat) : List Char :=
  '\n' :: List.replicate (2 * level) ' '

mutual

/-- A value in several lines, whose brackets stand at a level. -/
def prettyAt (level : Nat) : Value → List Char
  | .null => "null".toList
  | .bool b => (if b then "true" else "false").toList
  | .int i => intText i
  | .double x => doubleText x
  | .string s => quote s
  | .array [] => ['[', ']']
  | .array (v :: vs) => '[' :: prettyItems (level + 1) (v :: vs) ++ newLine level ++ [']']
  | .object [] => ['\x7b', '\x7d']
  | .object (m :: ms) =>
    '\x7b' :: prettyMembers (level + 1) (m :: ms) ++ newLine level ++ ['\x7d']

/-- The items of an array, each in lines of its own. -/
def prettyItems (level : Nat) : List Value → List Char
  | [] => []
  | [v] => newLine level ++ prettyAt level v
  | v :: vs => newLine level ++ prettyAt level v ++ ',' :: prettyItems level vs

/-- The members of an object, each in lines of its own. -/
def prettyMembers (level : Nat) : List (String × Value) → List Char
  | [] => []
  | [(n, v)] => newLine level ++ quote n ++ ':' :: ' ' :: prettyAt level v
  | (n, v) :: rest =>
    newLine level ++ quote n ++ ':' :: ' ' :: prettyAt level v ++ ',' :: prettyMembers level rest

end

/-- A value in several lines, with two blanks for each level. -/
def pretty (v : Value) : List Char :=
  prettyAt 0 v

end Value
end Json
end ScriptReview
