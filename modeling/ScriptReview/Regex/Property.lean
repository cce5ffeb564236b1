import ScriptReview.Regex.CharSet
import ScriptReview.Regex.Expr
import ScriptReview.Unicode.Age
import ScriptReview.Unicode.Category
import ScriptReview.Unicode.Property
import ScriptReview.Unicode.Script
import ScriptReview.Unicode.ScriptExtension
import ScriptReview.Unicode.Segmentation

/-!
# The sets behind the names of a pattern

Patterns name sets of characters: properties with loose spelling, the three classes with a letter of
their own, and the classes that are named between colons.

Main definitions:

* `loosely` brings the spelling of a property name into one form.
* `PropertyQuery.find?` finds the set that a question for a property stands for.
* `ShortClass.set`, `ShortClass.asciiSet` and `NamedClass.set` are the sets of the other names.
-/

namespace ScriptReview
namespace Regex

/-- Drops an `is` in either case from the beginning of a name, and says whether there was one. -/
def dropIs : List Char → Bool × List Char
  | i :: s :: rest =>
    if i.toLower = 'i' ∧ s.toLower = 's' then (true, rest) else (false, i :: s :: rest)
  | cs => (false, cs)

/-- The one form of a loosely spelled name: lower-case ASCII, without blanks, hyphens, underscores
and an `is` at the beginning. The name `isc` is a property of its own and keeps its beginning. -/
def loosely (name : String) : String :=
  let (hadIs, rest) := dropIs name.toList
  let kept := rest.filter fun c => c.toNat < 0x80 && c != ' ' && c != '_' && c != '-'
  let plain := String.ofList (kept.map Char.toLower)
  if hadIs && plain == "c" then "isc" else plain

/-- The set that a property name and a value stand for. -/
def findValue? (name value : String) : Option (List (Nat × Nat)) :=
  if name = "gc" ∨ name = "generalcategory" then Unicode.Category.named? value
  else if name = "sc" ∨ name = "script" then Unicode.Script.named? value
  else if name = "scx" ∨ name = "scriptextensions" then Unicode.ScriptExtension.named? value
  else if name = "age" then Unicode.Age.named? value
  else if name = "gcb" ∨ name = "graphemeclusterbreak" then
    Unicode.Segmentation.named? Unicode.Segmentation.grapheme Unicode.Segmentation.graphemeShort
      value
  else if name = "wb" ∨ name = "wordbreak" then
    Unicode.Segmentation.named? Unicode.Segmentation.word Unicode.Segmentation.wordShort value
  else if name = "sb" ∨ name = "sentencebreak" then
    Unicode.Segmentation.named? Unicode.Segmentation.sentence Unicode.Segmentation.sentenceShort
      value
  else none

/-- The set that a name without a value stands for: a binary property, a general category or a
script. -/
def findName? (name : String) : Option (List (Nat × Nat)) :=
  ((Unicode.Property.named? name).orElse fun _ => Unicode.Category.named? name).orElse fun _ =>
    Unicode.Script.named? name

/-- The set that a question for a property stands for. -/
def PropertyQuery.find? : PropertyQuery → Option CharSet
  | .name n => (findName? (loosely n)).map CharSet.ofRanges
  | .value n v => (findValue? (loosely n) (loosely v)).map CharSet.ofRanges

/-- The word characters: letters and their marks, decimal digits, connecting punctuation, and the
characters that control joining. -/
def wordSet : CharSet :=
  CharSet.ofRanges <|
    (["alphabetic", "joincontrol"].flatMap fun p => (Unicode.Property.named? p).getD []) ++
      ["Mc", "Me", "Mn", "Nd", "Pc"].flatMap Unicode.Category.ranges

/-- The set of a class with a letter of its own. -/
def ShortClass.set : ShortClass → CharSet
  | .digit => CharSet.ofRanges (Unicode.Category.ranges "Nd")
  | .space => CharSet.ofRanges ((Unicode.Property.named? "whitespace").getD [])
  | .word => wordSet

/-- The set of a class that is named between colons. It is always a set of ASCII characters. -/
def NamedClass.set : NamedClass → CharSet
  | .alnum => ⟨[(0x30, 0x39), (0x41, 0x5A), (0x61, 0x7A)]⟩
  | .alpha => ⟨[(0x41, 0x5A), (0x61, 0x7A)]⟩
  | .ascii => ⟨[(0x00, 0x7F)]⟩
  | .blank => ⟨[(0x09, 0x09), (0x20, 0x20)]⟩
  | .cntrl => ⟨[(0x00, 0x1F), (0x7F, 0x7F)]⟩
  | .digit => ⟨[(0x30, 0x39)]⟩
  | .graph => ⟨[(0x21, 0x7E)]⟩
  | .lower => ⟨[(0x61, 0x7A)]⟩
  | .print => ⟨[(0x20, 0x7E)]⟩
  | .punct => ⟨[(0x21, 0x2F), (0x3A, 0x40), (0x5B, 0x60), (0x7B, 0x7E)]⟩
  | .space => ⟨[(0x09, 0x0D), (0x20, 0x20)]⟩
  | .upper => ⟨[(0x41, 0x5A)]⟩
  | .word => ⟨[(0x30, 0x39), (0x41, 0x5A), (0x5F, 0x5F), (0x61, 0x7A)]⟩
  | .xdigit => ⟨[(0x30, 0x39), (0x41, 0x46), (0x61, 0x66)]⟩

/-- The ASCII part of a class with a letter of its own. -/
def ShortClass.asciiSet : ShortClass → CharSet
  | .digit => NamedClass.digit.set
  | .space => NamedClass.space.set
  | .word => NamedClass.word.set

end Regex
end ScriptReview
