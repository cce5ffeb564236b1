import ScriptReview.Config.Basic
import ScriptReview.Files.Tree

/-!
# Finding the files to review

A path that leads to a directory stands for the files below it that the configuration wants; any
other path stands for itself. Some directories are never entered, and links below the given
directory are neither followed nor kept. The entries of a directory come in the order of the bytes
of their names.

Main definitions:

* `Node.filesBelow` lists the files below a node by the names on the way to them.
* `FileSystem.discover` finds the files of several paths.
-/

namespace ScriptReview

/-- The names that are passed over below a given directory. -/
def prunedNames : List String :=
  [".git", "node_modules", "dist", "build", "target", "coverage", ".next"]

/-- Whether a name is passed over: it is shown as one of those listed. -/
def isPruned (name : RawText) : Bool :=
  prunedNames.contains name.shown

/-- Whether a name comes before another or equals it, byte by byte. -/
def comesBefore (a b : RawText) : Bool :=
  decide (a.bytes ≤ b.bytes)

/-- The ways to files in several directories, in the order of the names of the directories. -/
def inOrder (named : List (RawText × List (List RawText))) : List (List RawText) :=
  (named.mergeSort fun a b => comesBefore a.1 b.1).flatMap fun (name, ways) => ways.map (name :: ·)

namespace Node

mutual

/-- The ways to the files at or below a node, as names. -/
def filesBelow : Node → List (List RawText)
  | .file _ => [[]]
  | .unreadable _ => [[]]
  | .link _ => []
  | .directory entries => inOrder (filesOf entries)

/-- The ways to the files at or below each of some entries. -/
def filesOf : List (RawText × Node) → List (RawText × List (List RawText))
  | [] => []
  | (name, node) :: rest =>
    if isPruned name then filesOf rest else (name, filesBelow node) :: filesOf rest

end

end Node

namespace FileSystem

/-- The path of a file below a directory. -/
def pathBelow (directory : RawText) (way : List RawText) : RawText :=
  way.foldl Path.join directory

/-- The files below a directory that a configuration wants. -/
def wantedBelow (c : Config) (directory : RawText) (entries : Entries) : List RawText :=
  ((Node.directory entries).filesBelow.map (pathBelow directory)).filter c.wants

/-- The source of the fault of a path that leads nowhere. -/
def notFound : String := "entity not found"

/-- The files that a path stands for. -/
def discoverAt (fs : FileSystem) (c : Config) (path : RawText) : Except Fault (List RawText) :=
  match fs.find path with
  | .ok (.directory entries) => .ok (wantedBelow c path entries)
  | .ok _ => .ok [path]
  | .error _ => .error (.io notFound path)

/-- The files that several paths stand for, in order, or the fault of the first path that leads
nowhere. -/
def discover (fs : FileSystem) (c : Config) (paths : List RawText) :
    Except Fault (List RawText) :=
  (paths.mapM (fs.discoverAt c)).map List.flatten

end FileSystem
end ScriptReview
