import ScriptReview.Exercise.Difficulty
import ScriptReview.Regex.Resolve
import ScriptReview.Text.Raw

/-!
# Faults

Everything that can go wrong is one of the faults below. A fault has one text and one exit code.
What readers of texts and patterns say of their input is summed up in a few words.

Main definitions:

* `Fault` lists the faults.
* `Fault.message` is the text of a fault, `Fault.chain` the text with that of its cause, and
  `Fault.exitCode` the code that a command ends with.
-/

namespace ScriptReview

/-- What can go wrong. -/
inductive Fault where
  | io (source : String) (path : RawText)
  | notText (path : RawText)
  | unprintablePath
  | config
  | catalog
  | misfiled (title : String) (bucket declared : Difficulty)
  | emptyBucket (d : Difficulty)
  | unknownDifficulty (text : String)
  | pattern (cause : Regex.Fault)
  deriving DecidableEq, Repr, Inhabited

namespace Fault

/-- What is said of a text that is no configuration. Where it goes wrong is not told. -/
def noConfiguration : String := "the text is no configuration"

/-- What is said of a text that is no catalog. Where it goes wrong is not told. -/
def noCatalog : String := "the text is no catalog"

/-- The text of what a fault was caused by, if something that has a text of its own caused it. -/
def cause? : Fault → Option String
  | .io source _ => some source
  | .config => some noConfiguration
  | .catalog => some noCatalog
  | .pattern cause => some cause.message
  | _ => none

/-- The text of a fault. -/
def message : Fault → String
  | .io source path => "I/O error: " ++ source ++ " (path: " ++ path.shown ++ ")"
  | .notText path => "Input is not valid UTF-8 text: " ++ path.shown
  | .unprintablePath => "path contains invalid UTF-8 characters"
  | .misfiled title bucket declared =>
    "Catalog lists '" ++ title ++ "' under " ++ bucket.label ++ " but it declares " ++
      declared.label
  | .emptyBucket d => "No exercises available for difficulty '" ++ d.label ++ "'"
  | .unknownDifficulty text =>
    "Unknown difficulty '" ++ text ++ "' (expected easy, medium or hard)"
  | .config => "Invalid config: " ++ noConfiguration
  | .catalog => "Invalid exercise catalog: " ++ noCatalog
  | .pattern cause => "Regex error: " ++ cause.message

/-- The text of a fault followed by that of what it was caused by. -/
def chain (f : Fault) : String :=
  match f.cause? with
  | some cause => f.message ++ ": " ++ cause
  | none => f.message

/-- The code that a command ends with. Input that is no text has a code of its own. -/
def exitCode : Fault → Nat
  | .notText _ => 2
  | _ => 1

end Fault
end ScriptReview
