import ScriptReview.Text.Raw
import ScriptReview.Text.Search

/-!
# Paths

A path is a text whose parts slashes separate. Paths keep the spelling in which they are given, and
their bytes need not stand for characters.

Main definitions:

* `Path.parts` cuts a path, `Path.name?` is its last part and `Path.extension?` what follows the
  last point in it.
* `Path.parent` is the path of the directory that a file lies in.
* `Path.join` goes on from a path with another.
-/

namespace ScriptReview
namespace Path

/-- What separates the parts of a path. -/
def slash : UInt8 := '/'.toUInt8

/-- What separates a name from its extension. -/
def point : UInt8 := '.'.toUInt8

/-- The part that stands for the directory that a path has come to. -/
def here : RawText := ⟨[point]⟩

/-- The part that stands for the parent of that directory. -/
def above : RawText := ⟨[point, point]⟩

/-- The texts between the slashes of a path. -/
def parts (path : RawText) : List RawText :=
  (Text.splitAt slash path.bytes).map RawText.mk

/-- Whether a path begins at the root. -/
def isAbsolute (path : RawText) : Bool :=
  Text.startsWith [slash] path.bytes

/-- Whether a part of a path leads nowhere. -/
def isIdle (part : RawText) : Bool :=
  part == .empty || part == here

/-- The last part of a path that leads somewhere, unless that is the parent of a directory. -/
def name? (path : RawText) : Option RawText :=
  match ((parts path).filter fun p => !isIdle p).getLast? with
  | some p => if p == above then none else some p
  | none => none

/-- What follows the last point of a name, unless the name begins with that point. -/
def extensionOf? (name : RawText) : Option RawText :=
  match Text.splitAt point name.bytes with
  | [_] => none
  | [[], _] => none
  | pieces => pieces.getLast?.map RawText.mk

/-- The extension of the last part of a path. -/
def extension? (path : RawText) : Option RawText :=
  (name? path).bind extensionOf?

/-- The parts of a path without those at its end that lead nowhere. The first part is kept. -/
def dropIdleEnd : List RawText → List RawText
  | [] => []
  | first :: rest => first :: (rest.reverse.dropWhile isIdle).reverse

/-- The path with some parts. The root alone is a slash. -/
def ofParts : List RawText → RawText
  | [⟨[]⟩] => ⟨[slash]⟩
  | ps => ⟨Text.joinWith slash (ps.map RawText.bytes)⟩

/-- The path of the directory that a file lies in. It is empty for a file that is given by its name
only. -/
def parent (path : RawText) : RawText :=
  ofParts (dropIdleEnd (parts path).dropLast)

/-- Goes on from a path with another. An absolute path begins anew. -/
def join (base path : RawText) : RawText :=
  if isAbsolute path || base == .empty then path
  else if Text.endsWith [slash] base.bytes then ⟨base.bytes ++ path.bytes⟩
  else ⟨base.bytes ++ slash :: path.bytes⟩

end Path
end ScriptReview
