import ScriptReview.Fault
import ScriptReview.Files.Tree

/-!
# Reading files

Main definitions:

* `FileSystem.read` gives the bytes of a file.
* `FileSystem.readText` gives the text of a file.
* `Stream` is what a program reads from its standard input.
-/

namespace ScriptReview

namespace FileSystem

/-- The bytes of the file that a path leads to. -/
def bytes (fs : FileSystem) (path : RawText) : Except PathFault ByteArray :=
  match fs.find path with
  | .ok (.file content) => .ok content
  | .ok (.unreadable reason) => .error (.unreadable reason)
  | .ok _ => .error .isDirectory
  | .error e => .error e

/-- The bytes of a file, or the fault of reading it. -/
def read (fs : FileSystem) (path : RawText) : Except Fault ByteArray :=
  match fs.bytes path with
  | .ok content => .ok content
  | .error e => .error (.io e.text path)

/-- The text of a file that has to hold text. -/
def readText (fs : FileSystem) (path : RawText) : Except Fault String := do
  match String.fromUTF8? (← fs.read path) with
  | some text => .ok text
  | none => .error (.io "stream did not contain valid UTF-8" path)

end FileSystem

/-- What is read from the standard input: some bytes, after which there is an end or a fault. -/
structure Stream where
  data : ByteArray
  fault : Option String
  deriving Inhabited

namespace Stream

/-- The name of the standard input in place of a path. -/
def label : RawText := .ofString "<stdin>"

/-- All bytes up to the end, which a fault prevents. -/
def read (s : Stream) : Except Fault ByteArray :=
  match s.fault with
  | some source => .error (.io source label)
  | none => .ok s.data

end Stream
end ScriptReview
