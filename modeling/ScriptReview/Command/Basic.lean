import ScriptReview.Exercise.Difficulty
import ScriptReview.Text.Raw

/-!
# Commands

Main definitions:

* `Command` is what the program is asked to do, and `Invocation` a command with the options that
  every command has.
* `Refusal` is why a list of arguments is no invocation. Asking for help or for the version is a
  reason as well.
-/

namespace ScriptReview

/-- What is reviewed: the files at some paths, or the standard input. -/
structure Sources where
  paths : List RawText
  stdin : Bool
  deriving DecidableEq, Repr, Inhabited

/-- What the program is asked to do. -/
inductive Command where
  | analyze (sources : Sources) (json : Bool)
  | check (sources : Sources) (json : Bool)
  | exercise (difficulty : Option Difficulty) (seed : Option UInt64) (json : Bool)
  | rules
  deriving DecidableEq, Repr, Inhabited

/-- A command with the options that every command has. Without a command the program shows its
help. -/
structure Invocation where
  command : Option Command
  verbose : Bool
  config : Option RawText
  deriving DecidableEq, Repr, Inhabited

/-- Why a list of arguments is no invocation. -/
inductive Refusal where
  | help
  | version
  | unknownArgument
  | invalidSubcommand
  | invalidValue
  | malformedValue
  | unreadableValue
  | conflict
  | tooManyValues
  deriving DecidableEq, Repr, Inhabited

namespace Refusal

/-- The code that the program ends with. Help and version are no failures. -/
def exitCode : Refusal → Nat
  | .help => 0
  | .version => 0
  | _ => 2

/-- What is wrong with the arguments. -/
def message : Refusal → String
  | .help => "help was asked for"
  | .version => "the version was asked for"
  | .unknownArgument => "an argument is not known"
  | .invalidSubcommand => "there is no such command"
  | .invalidValue => "an option has no value that it may have"
  | .malformedValue => "a value is not a number that fits 64 bits"
  | .unreadableValue => "a value is no text"
  | .conflict => "an argument cannot be used together with another"
  | .tooManyValues => "a value was given to an option that takes none"

end Refusal
end ScriptReview
