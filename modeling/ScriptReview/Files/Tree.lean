import ScriptReview.Files.Path

/-!
# File trees

A file system is a tree of directories with files and symbolic links. A path is looked up part by
part from the root or from the working directory; links on the way are followed.

Main definitions:

* `Node` is a file, a link or a directory, and `FileSystem` a tree with a working directory.
* `Entries.insert` puts a node into a tree.
* `FileSystem.find` looks a path up.
* `FileSystem.isFile` says whether a path leads to a file.
-/

namespace ScriptReview

/-- What a name in a directory stands for. A file may refuse to be read, for a reason. The entries
of a directory have different names and come in any order. -/
inductive Node where
  | file (content : ByteArray)
  | unreadable (reason : String)
  | link (target : RawText)
  | directory (entries : List (RawText × Node))
  deriving Inhabited

/-- The entries of a directory. -/
abbrev Entries := List (RawText × Node)

namespace Entries

/-- Sets the node of a name to what becomes of the node that it has so far. -/
def alter (name : RawText) (change : Option Node → Node) : Entries → Entries
  | [] => [(name, change none)]
  | (n, node) :: rest =>
    if n = name then (n, change (some node)) :: rest else (n, node) :: alter name change rest

/-- The entries of a node, if it is a directory. -/
def ofNode : Option Node → Entries
  | some (.directory entries) => entries
  | _ => []

mutual

/-- A node that takes the place of another. Two directories become one with the entries of both. -/
def merge : Node → Node → Node
  | .directory entries, .directory old => .directory (mergeAll entries old)
  | node, _ => node

/-- The entries of two directories, the second of which gives way to the first. -/
def mergeAll : List (RawText × Node) → Entries → Entries
  | [], old => old
  | (name, node) :: rest, old =>
    mergeAll rest (alter name (fun
      | some other => merge node other
      | none => node) old)

end

/-- Puts a node at the end of a way of names, and makes the directories on the way. -/
def insert (node : Node) : List RawText → Entries → Entries
  | [], entries => ofNode (some (merge node (.directory entries)))
  | name :: way, entries =>
    alter name (fun old =>
      match way, old with
      | [], none => node
      | [], some other => merge node other
      | _, _ => .directory (insert node way (ofNode old))) entries

end Entries

/-- Why a path leads nowhere, or why nothing can be read there. -/
inductive PathFault where
  | missing
  | notDirectory
  | isDirectory
  | tooManyLinks
  | unreadable (reason : String)
  deriving DecidableEq, Repr, Inhabited

namespace PathFault

/-- The text of a fault with its number. -/
def text : PathFault → String
  | .missing => "No such file or directory (os error 2)"
  | .notDirectory => "Not a directory (os error 20)"
  | .isDirectory => "Is a directory (os error 21)"
  | .tooManyLinks => "Too many levels of symbolic links (os error 40)"
  | .unreadable reason => reason

end PathFault

/-- A tree of files with the names on the way from its root to the working directory. -/
structure FileSystem where
  root : Entries
  workingDirectory : List RawText
  deriving Inhabited

namespace FileSystem

/-- How many links are followed for one path. -/
def linkLimit : Nat := 40

/-- The entries of the innermost of some open directories, which is the root where none is open. -/
def innermost (root : Entries) (opened : List Entries) : Entries :=
  opened.head?.getD root

/-- Follows the parts of a path from the innermost of some open directories. The number says how
many links may still be followed. -/
def follow (root : Entries) (links : Nat) (opened : List Entries) (parts : List RawText) :
    Except PathFault Node :=
  match parts with
  | [] => .ok (.directory (innermost root opened))
  | part :: rest =>
    if Path.isIdle part then follow root links opened rest
    else if part = Path.above then follow root links opened.tail rest
    else
      match (innermost root opened).lookup part with
      | none => .error .missing
      | some (.directory entries) => follow root links (entries :: opened) rest
      | some (.link target) =>
        match links with
        | 0 => .error .tooManyLinks
        | links + 1 =>
          follow root links (if Path.isAbsolute target then [] else opened)
            (Path.parts target ++ rest)
      | some node => if rest.isEmpty then .ok node else .error .notDirectory
termination_by (links, parts.length)

/-- The parts of a path from the root on. -/
def partsFromRoot (fs : FileSystem) (path : RawText) : List RawText :=
  if Path.isAbsolute path then Path.parts path else fs.workingDirectory ++ Path.parts path

/-- The node that a path leads to. It is no link. -/
def find (fs : FileSystem) (path : RawText) : Except PathFault Node :=
  if path = .empty then .error .missing else follow fs.root linkLimit [] (fs.partsFromRoot path)

/-- Whether a path leads to a file. -/
def isFile (fs : FileSystem) (path : RawText) : Bool :=
  match fs.find path with
  | .ok (.file _) => true
  | .ok (.unreadable _) => true
  | _ => false

end FileSystem
end ScriptReview
