import ScriptReview.Command.Run

/-!
# The program

The program looks at the files that its arguments name, runs the command, prints what the command
leaves behind, and ends with its code. Everything that is decided is decided by `World.execute`.
The names and arguments that come from outside are texts here: what is no text does not get in.
-/

namespace ScriptReview
namespace Program

/-- The path from the root to the end of a way. -/
def pathOf (way : List RawText) : String :=
  "/" ++ "/".intercalate (way.map RawText.shown)

/-- What stands at a path, if anything does. A link is not followed. -/
def kindAt (path : String) : IO (Option IO.FS.FileType) := do
  try
    return some (← (IO.FS.DirEntry.mk "/" path).path.symlinkMetadata).type
  catch _ => return none

/-- The file at a path. -/
def fileAt (path : String) : IO Node := do
  try
    return .file (← IO.FS.readBinFile path)
  catch e => return .unreadable (toString e)

/-- The directory at a path with the wanted files below it. -/
partial def directoryAt (wanted : RawText → Bool) (path : RawText) : IO Node := do
  let mut entries := []
  for entry in ← (IO.FS.DirEntry.mk "/" path.shown).path.readDir do
    let name := RawText.ofString entry.fileName
    unless isPruned name do
      let inner := Path.join path name
      match ← kindAt inner.shown with
      | some .dir => entries := (name, ← directoryAt wanted inner) :: entries
      | some .file => if wanted name then entries := (name, ← fileAt inner.shown) :: entries
      | _ => pure ()
  return .directory entries

/-- Adds what the parts of a path lead to from a directory to the tree, with all links and
directories on the way. -/
partial def look (wanted : RawText → Bool) (root : Entries) (way : List RawText) :
    List RawText → IO Entries
  | [] => return root.insert (← directoryAt wanted (.ofString (pathOf way))) way
  | part :: rest => do
    if Path.isIdle part then look wanted root way rest
    else if part = Path.above then look wanted root way.dropLast rest
    else
      let here := way ++ [part]
      match ← kindAt (pathOf here) with
      | none => return root
      | some .dir => look wanted (root.insert (.directory []) here) here rest
      | some .symlink =>
        try
          let target := RawText.ofString (← IO.FS.realPath (pathOf here)).toString
          look wanted (root.insert (.link target) here) [] (Path.parts target ++ rest)
        catch _ => return root
      | some _ => return root.insert (← fileAt (pathOf here)) here

/-- Adds what a path leads to. -/
def lookAt (wanted : RawText → Bool) (files : FileSystem) (path : RawText) : IO FileSystem := do
  return { files with root := ← look wanted files.root [] (files.partsFromRoot path) }

/-- The files that an invocation looks at. -/
def filesFor (files : FileSystem) (i : Invocation) : IO FileSystem := do
  let files ← lookAt (fun _ => false) files (i.config.getD Config.fileName)
  let world : World := ⟨files, ⟨.empty, none⟩, false, .ofSeed 0⟩
  match world.loadConfig i.config, i.command with
  | .ok c, some command => (command.pathsSeen c).foldlM (lookAt c.wants) files
  | _, _ => return files

/-- The bytes of a stream up to its end. -/
partial def bytesOf (stream : IO.FS.Stream) (before : ByteArray) : IO ByteArray := do
  let more ← stream.read 65536
  if more.isEmpty then return before else bytesOf stream (before ++ more)

/-- The standard input. -/
def input : IO Stream := do
  try
    return ⟨← bytesOf (← IO.getStdin) .empty, none⟩
  catch e => return ⟨.empty, some (toString e)⟩

/-- Whether the environment asks for colors: forced, or not forbidden on a console. -/
def colors : IO Bool := do
  let force ← IO.getEnv "CLICOLOR_FORCE"
  let allow ← IO.getEnv "CLICOLOR"
  if force.any (· != "0") then return true
  else if (← IO.getEnv "NO_COLOR").isSome then return false
  else return allow.all (· != "0") && (← (← IO.getStdout).isTty)

/-- A generator that differs from run to run. -/
def generator : IO Generator := do
  let bytes ← IO.getRandomBytes 8
  return .ofSeed (bytes.data.foldl (fun n b => 256 * n + b.toUInt64) 0)

/-- The world that some arguments are executed in. -/
def world (arguments : List RawText) : IO World := do
  let nowhere : FileSystem := ⟨[], Path.parts (.ofString (← IO.currentDir).toString)⟩
  match Invocation.ofArguments arguments with
  | .error _ => return ⟨nowhere, ⟨.empty, none⟩, false, ← generator⟩
  | .ok i =>
    let files ← filesFor nowhere i
    let input ← if i.command.any Command.readsInput then input else pure ⟨.empty, none⟩
    return ⟨files, input, ← colors, ← generator⟩

end Program
end ScriptReview

/-- Runs the program with its arguments. -/
def main (arguments : List String) : IO UInt32 := do
  let arguments := arguments.map ScriptReview.RawText.ofString
  let outcome := (← ScriptReview.Program.world arguments).execute arguments
  (← IO.getStdout).putStr outcome.output
  (← IO.getStderr).putStr outcome.errors
  return UInt32.ofNat outcome.exitCode
