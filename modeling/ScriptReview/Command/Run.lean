import ScriptReview.Command.Reading
import ScriptReview.Config.Load
import ScriptReview.Console.ExerciseText
import ScriptReview.Console.ReportJson
import ScriptReview.Console.ReportText
import ScriptReview.Exercise.Draw
import ScriptReview.Files.Discovery
import ScriptReview.Files.Scan
import ScriptReview.Random.KeyStream

/-!
# Running commands

A command reads its configuration, does its work, and only then prints: a command that fails
prints nothing but its fault. What a command does depends on nothing but its arguments and the
world that it runs in.

Main definitions:

* `World` is what a command can see, and `Outcome` what it leaves behind.
* `World.scan` reviews what a command names, `World.reviewed` prints the report as well, and
  `World.perform` does the work of a command.
* `World.run` runs an invocation, and `World.execute` a list of arguments.
-/

namespace ScriptReview

/-- What a command can see: files, its standard input, whether the console has colors, and a
generator for what is drawn without a seed. -/
structure World where
  files : FileSystem
  input : Stream
  colors : Bool
  generator : Generator

/-- What a command leaves behind: its code and its two outputs. -/
structure Outcome where
  exitCode : Nat
  output : String
  errors : String
  deriving DecidableEq, Repr, Inhabited

/-- What the work of a command gives: a code, and what is to be shown on the two outputs. -/
structure Product where
  exitCode : Nat
  output : Painted
  errors : Painted
  deriving DecidableEq, Repr, Inhabited

/-- A fault with what was being done when it arose. -/
structure Failure where
  doing : Option String
  fault : Fault
  deriving DecidableEq, Repr, Inhabited

namespace Failure

/-- The text of a failure. -/
def text (f : Failure) : String :=
  match f.doing with
  | some doing => doing ++ ": " ++ f.fault.chain
  | none => f.fault.chain

/-- The line that reports a failure. -/
def painted (f : Failure) : Painted :=
  .line [.styled (.color .red) "Error:", .plain (" " ++ f.text)]

/-- The outcome of a command that fails. -/
def outcome (f : Failure) (colors : Bool) : Outcome :=
  ⟨f.fault.exitCode, "", f.painted.toText colors⟩

end Failure

/-- The code of a check that fails. -/
def checkFailedCode : Nat := 6

/-- The text that says which version the program has. -/
def versionText : String := "codecoach 0.1.0\n"

/-- The text that says how the program is used, in a wording of its own. -/
def usageText : String :=
  "Heuristic code review and practice exercises\n\n" ++
    "Usage: codecoach [--verbose] [--config=FILE] COMMAND\n\n" ++
    "Commands:\n" ++
    "  analyze [--json] [--stdin] [PATH...]    print the reports of files\n" ++
    "  check [--json] [--stdin] [PATH...]      fail when there are severe issues\n" ++
    "  exercise [--difficulty=D] [--seed=N] [--json]\n" ++
    "                                          print a practice exercise\n" ++
    "  rules                                   list the rules in firing order\n" ++
    "  help                                    print this text\n"

namespace Refusal

/-- The outcome of arguments that are no invocation. -/
def outcome (r : Refusal) : Outcome :=
  match r with
  | .help => ⟨r.exitCode, usageText, ""⟩
  | .version => ⟨r.exitCode, versionText, ""⟩
  | _ => ⟨r.exitCode, "", "error: " ++ r.message ++ "\n\n" ++ usageText⟩

end Refusal

namespace Sources

/-- The paths that are reviewed: those that are named, or the working directory. -/
def roots (s : Sources) : List RawText :=
  if s.paths.isEmpty then [Path.here] else s.paths

end Sources

/-- The paths that a command looks at under a configuration. -/
def Command.pathsSeen (c : Config) : Command → List RawText
  | .analyze sources _ => if sources.stdin then [] else sources.roots
  | .check sources _ => if sources.stdin then [] else sources.roots
  | .exercise _ _ _ => c.catalogPath?.toList
  | .rules => []

/-- Whether a command reads its standard input. -/
def Command.readsInput : Command → Bool
  | .analyze sources _ => sources.stdin
  | .check sources _ => sources.stdin
  | _ => false

/-- A scan as it is printed. As JSON it cannot be printed if the path of a file is no text. -/
def ScanReport.printed (s : ScanReport) (json : Bool) : Except Fault Painted :=
  if json then s.toJson.map fun v => .line [.plain (String.ofList v.pretty)] else .ok s.painted

/-- An exercise as it is printed. -/
def Exercise.printed (e : Exercise) (json : Bool) : Painted :=
  if json then .line [.plain (String.ofList e.toJson.pretty)] else e.painted

namespace World

/-- The configuration that an invocation asks for. -/
def loadConfig (w : World) (path : Option RawText) : Except Failure Config :=
  match path with
  | some p => (Config.loadFrom w.files p).mapError (⟨some ("failed to load config " ++ p.shown), ·⟩)
  | none => (Config.load w.files).mapError (⟨none, ·⟩)

/-- The reports of what a command names. -/
def scan (w : World) (c : Config) (s : Sources) : Except Fault ScanReport := do
  let book ← c.ruleBook
  if s.stdin then book.reviewStream w.input
  else book.reviewFiles w.files (← w.files.discover c s.roots)

/-- Scans, prints the report, and only then settles what the work gives. -/
def reviewed (w : World) (c : Config) (s : Sources) (json : Bool)
    (settle : ScanReport → Painted → Product) : Except Fault Product := do
  let report ← w.scan c s
  let output ← report.printed json
  .ok (settle report output)

/-- What an analysis gives that has printed its report. -/
def analyzed (_ : ScanReport) (output : Painted) : Product :=
  ⟨0, output, []⟩

/-- What a check gives that has printed its report. -/
def checked (c : Config) (json : Bool) (report : ScanReport) (output : Painted) : Product :=
  let failing := report.countAtLeast c.review.failOn
  if failing = 0 then ⟨0, output, []⟩
  else ⟨checkFailedCode, output, if json then [] else failLine failing c.review.failOn⟩

/-- The exercise that is drawn from the configured catalog. -/
def draw (w : World) (c : Config) (difficulty : Option Difficulty) (seed : Option UInt64) :
    Except Fault Exercise := do
  let catalog ← c.loadCatalog w.files
  (catalog.draw (difficulty.getD c.exercise.difficulty)
    ((seed.map Generator.ofSeed).getD w.generator)).1

/-- Does the work of a command. -/
def perform (w : World) (c : Config) : Command → Except Fault Product
  | .analyze sources json => w.reviewed c sources json analyzed
  | .check sources json => w.reviewed c sources json (checked c json)
  | .exercise difficulty seed json =>
    (w.draw c difficulty seed).map fun e => ⟨0, e.printed json, []⟩
  | .rules => c.ruleBook.map fun book => ⟨0, Rule.paintedList book.rules, []⟩

/-- Whether the output has colors under a configuration. -/
def showsColors (w : World) (c : Config) : Bool :=
  w.colors && c.preferences.color

/-- Runs a command with its configuration. -/
def runWith (w : World) (c : Config) (command : Command) : Outcome :=
  match w.perform c command with
  | .ok p => ⟨p.exitCode, p.output.toText (w.showsColors c), p.errors.toText (w.showsColors c)⟩
  | .error f => Failure.outcome ⟨none, f⟩ (w.showsColors c)

/-- Runs an invocation. Without a command it shows how the program is used. -/
def run (w : World) (i : Invocation) : Outcome :=
  match i.command with
  | none => ⟨0, usageText, ""⟩
  | some command =>
    match w.loadConfig i.config with
    | .error f => f.outcome w.colors
    | .ok c => w.runWith c command

/-- Runs a list of arguments, the name of the program not among them. -/
def execute (w : World) (arguments : List RawText) : Outcome :=
  match Invocation.ofArguments arguments with
  | .ok i => w.run i
  | .error r => r.outcome

end World
end ScriptReview
