/-!
# Regular expressions as they are written

The tree of an expression keeps what the reader of a pattern sees: flags where they stand, classes
with their operators, counted repetitions. Nothing is resolved yet.

Main definitions:

* `Expr` is the tree; `ClassItem` and `ClassSet` are its character classes.
* `Expr.depth` is how deeply groups, repetitions, sequences and classes are nested.
-/

namespace ScriptReview
namespace Regex

/-- A character of a pattern. A character written with two hexadecimal digits can stand for a byte
where characters are bytes. -/
structure Literal where
  char : Char
  twoDigits : Bool := false
  deriving DecidableEq, Repr, Inhabited

/-- The three classes with a letter of their own. -/
inductive ShortClass where
  | digit
  | space
  | word
  deriving DecidableEq, Repr, Inhabited

/-- The classes that are named between colons. -/
inductive NamedClass where
  | alnum | alpha | ascii | blank | cntrl | digit | graph
  | lower | print | punct | space | upper | word | xdigit
  deriving DecidableEq, Repr, Inhabited

/-- A question for a character property: a name, or a name and a value. -/
inductive PropertyQuery where
  | name (name : String)
  | value (name value : String)
  deriving DecidableEq, Repr, Inhabited

/-- The operators between two halves of a class. -/
inductive ClassOp where
  | inter
  | diff
  | symmDiff
  deriving DecidableEq, Repr, Inhabited

mutual

/-- A member of a bracketed class. -/
inductive ClassItem where
  | empty
  | literal (l : Literal)
  | range (first last : Literal)
  | named (c : NamedClass) (negated : Bool)
  | short (c : ShortClass) (negated : Bool)
  | property (q : PropertyQuery) (negated : Bool)
  | bracketed (negated : Bool) (set : ClassSet)
  | union (items : List ClassItem)

/-- What stands between the brackets of a class. -/
inductive ClassSet where
  | item (i : ClassItem)
  | op (o : ClassOp) (left right : ClassSet)

end

/-- The conditions on a place in a text. -/
inductive Assertion where
  | startLine
  | endLine
  | startText
  | endText
  | wordEdge
  | notWordEdge
  | wordStart
  | wordEnd
  | wordStartHalf
  | wordEndHalf
  deriving DecidableEq, Repr, Inhabited

/-- The flags of a group. -/
inductive Flag where
  | ignoreCase
  | multiLine
  | dotAll
  | swapGreed
  | unicode
  | carriageReturn
  | ignoreSpace
  deriving DecidableEq, Repr, Inhabited

/-- Flags that are switched on (`true`) or off, in the order they are written. -/
abbrev FlagChanges := List (Flag × Bool)

/-- A regular expression. -/
inductive Expr where
  | empty
  | flags (changes : FlagChanges)
  | literal (l : Literal)
  | dot
  | assertion (a : Assertion)
  | short (c : ShortClass) (negated : Bool)
  | property (q : PropertyQuery) (negated : Bool)
  | bracketed (negated : Bool) (set : ClassSet)
  | repeated (min : Nat) (max : Option Nat) (e : Expr)
  | group (changes : FlagChanges) (captures : Bool) (e : Expr)
  | alternation (es : List Expr)
  | sequence (es : List Expr)

mutual

/-- How deeply a member of a class is nested. -/
def ClassItem.depth : ClassItem → Nat
  | .bracketed _ set => set.depth + 1
  | .union items => ClassItem.depthList items + 1
  | _ => 0

/-- The greatest depth among the members of a class. -/
def ClassItem.depthList : List ClassItem → Nat
  | [] => 0
  | i :: is => max i.depth (ClassItem.depthList is)

/-- How deeply the contents of a class are nested. -/
def ClassSet.depth : ClassSet → Nat
  | .item i => i.depth
  | .op _ left right => max left.depth right.depth + 1

end

mutual

/-- How deeply an expression is nested. -/
def Expr.depth : Expr → Nat
  | .bracketed _ set => set.depth + 1
  | .repeated _ _ e => e.depth + 1
  | .group _ _ e => e.depth + 1
  | .alternation es => Expr.depthList es + 1
  | .sequence es => Expr.depthList es + 1
  | _ => 0

/-- The greatest depth among several expressions. -/
def Expr.depthList : List Expr → Nat
  | [] => 0
  | e :: es => max e.depth (Expr.depthList es)

end

namespace ClassItem

/-- Several members of a class as one. A single member stands for itself. -/
def ofList : List ClassItem → ClassItem
  | [] => .empty
  | [i] => i
  | is => .union is

end ClassItem

namespace Expr

/-- Expressions one after the other. A single one stands for itself. -/
def ofSequence : List Expr → Expr
  | [] => .empty
  | [e] => e
  | es => .sequence es

/-- Whether an expression can be repeated: flags cannot. -/
def isRepeatable : Expr → Bool
  | .empty => false
  | .flags _ => false
  | _ => true

end Expr
end Regex
end ScriptReview
