import ScriptReview.Exercise.Difficulty
import ScriptReview.Fault
import ScriptReview.Files.Path
import ScriptReview.Review.RuleBook

/-!
# Configurations

A configuration says which files are reviewed with which rules, which severity makes a check fail,
which exercises there are, and whether the output has colors.

Main definitions:

* `Config` is a configuration, and `Config.standard` the one without any settings.
* `Config.wants` says whether a file that is found in a directory is reviewed.
* `Config.ruleBook` compiles the rules of a configuration.
-/

namespace ScriptReview

/-- A rule as it is configured. Its pattern may be invalid. -/
structure RuleSettings where
  id : String
  pattern : String
  kind : IssueKind
  severity : Severity
  message : String
  deriving DecidableEq, Repr, Inhabited

namespace RuleSettings

/-- The kind of a rule that does not say one. -/
def defaultKind : IssueKind := .warning

/-- The severity of a rule that does not say one. -/
def defaultSeverity : Severity := .medium

/-- The rule, unless its pattern is refused. -/
def compile (s : RuleSettings) : Except Fault Rule :=
  match PatternRule.compile s.id s.pattern s.kind s.severity s.message with
  | .ok r => .ok (.pattern r)
  | .error f => .error (.pattern f)

end RuleSettings

/-- What is reviewed and when a check fails. -/
structure ReviewSettings where
  failOn : Severity
  extensions : List String
  rules : List RuleSettings
  deriving DecidableEq, Repr, Inhabited

namespace ReviewSettings

/-- The settings that hold where nothing is said. -/
def standard : ReviewSettings where
  failOn := .high
  extensions := ["js", "jsx", "ts", "tsx", "mjs", "cjs"]
  rules := []

end ReviewSettings

/-- Which exercises there are, and how hard they are where nothing is said. -/
structure ExerciseSettings where
  difficulty : Difficulty
  catalog : Option String
  deriving DecidableEq, Repr, Inhabited

namespace ExerciseSettings

/-- The settings that hold where nothing is said. -/
def standard : ExerciseSettings where
  difficulty := .easy
  catalog := none

end ExerciseSettings

/-- How results are shown. -/
structure Preferences where
  color : Bool
  deriving DecidableEq, Repr, Inhabited

namespace Preferences

/-- The preferences that hold where nothing is said. -/
def standard : Preferences where
  color := true

end Preferences

/-- A configuration, with the directory of the file that it was read from. -/
structure Config where
  review : ReviewSettings
  exercise : ExerciseSettings
  preferences : Preferences
  directory : Option RawText
  deriving DecidableEq, Repr, Inhabited

namespace Config

/-- The configuration without any settings. -/
def standard : Config := ⟨.standard, .standard, .standard, none⟩

/-- Whether a file that is found in a directory is reviewed: its extension is a text, and one of
those configured up to the case of ASCII letters. -/
def wants (c : Config) (path : RawText) : Bool :=
  ((Path.extension? path).bind RawText.text?).any fun e =>
    c.review.extensions.any fun x => Text.sameIgnoringCase x.toList e.toList

/-- The configured rules in order, or the fault of the first one whose pattern is refused. -/
def customRules (c : Config) : Except Fault (List Rule) :=
  c.review.rules.mapM RuleSettings.compile

/-- The built-in rules followed by the configured ones. -/
def ruleBook (c : Config) : Except Fault RuleBook :=
  c.customRules.map RuleBook.builtin.addAll

/-- The path of the configured catalog. A relative path begins at the directory of the
configuration. -/
def catalogPath? (c : Config) : Option RawText :=
  c.exercise.catalog.map fun path => Path.join (c.directory.getD .empty) (.ofString path)

end Config
end ScriptReview
