import ScriptReview.Config.Basic
import ScriptReview.Toml.Decode
import ScriptReview.Toml.Document

/-!
# Reading configurations

A configuration is a TOML text. Whatever it does not say has a default, and keys that mean nothing
are ignored; a key that means something has to have a value of the right kind.

Main definitions:

* `Config.ofTable?` reads a configuration from the table of a text.
* `Config.ofText` reads it from the text.
-/

namespace ScriptReview

open Toml (Value optional?)

namespace RuleSettings

/-- The names of the fields in order. -/
def fields : List String := ["id", "pattern", "kind", "severity", "message"]

/-- Reads a rule. Its name, pattern and message are required. -/
def ofValue? (v : Value) : Option RuleSettings := do
  match ← v.fields? fields with
  | [some id, some pattern, kind, severity, some message] =>
    let id ← id.text?
    let pattern ← pattern.text?
    let kind ← optional? defaultKind (·.choice? IssueKind.ofLabel?) kind
    let severity ← optional? defaultSeverity (·.choice? Severity.ofLabel?) severity
    let message ← message.text?
    some { id, pattern, kind, severity, message }
  | _ => none

/-- Reads a list of rules. -/
def listOfValue? (v : Value) : Option (List RuleSettings) :=
  v.items?.bind (·.mapM ofValue?)

end RuleSettings

namespace ReviewSettings

/-- The names of the fields in order. -/
def fields : List String := ["fail_on", "extensions", "custom_rules"]

/-- Reads the settings of reviews. -/
def ofValue? (v : Value) : Option ReviewSettings := do
  match ← v.fields? fields with
  | [failOn, extensions, rules] =>
    let failOn ← optional? standard.failOn (·.choice? Severity.ofLabel?) failOn
    let extensions ← optional? standard.extensions Value.texts? extensions
    let rules ← optional? standard.rules RuleSettings.listOfValue? rules
    some { failOn, extensions, rules }
  | _ => none

end ReviewSettings

namespace ExerciseSettings

/-- The names of the fields in order. -/
def fields : List String := ["default_difficulty", "catalog"]

/-- Reads the settings of exercises. -/
def ofValue? (v : Value) : Option ExerciseSettings := do
  match ← v.fields? fields with
  | [difficulty, catalog] =>
    let difficulty ← optional? standard.difficulty (·.choice? Difficulty.ofLabel?) difficulty
    let catalog ← optional? standard.catalog (fun v => v.text?.map some) catalog
    some { difficulty, catalog }
  | _ => none

end ExerciseSettings

namespace Preferences

/-- The names of the fields in order. -/
def fields : List String := ["color"]

/-- Reads the preferences. -/
def ofValue? (v : Value) : Option Preferences := do
  match ← v.fields? fields with
  | [color] =>
    let color ← optional? standard.color Value.bool? color
    some { color }
  | _ => none

end Preferences

namespace Config

/-- Reads a configuration from the table of a text. -/
def ofTable? (members : List (String × Value)) : Option Config := do
  let review ← optional? .standard ReviewSettings.ofValue? (List.lookup "analysis" members)
  let exercise ← optional? .standard ExerciseSettings.ofValue? (List.lookup "exercise" members)
  let preferences ← optional? .standard Preferences.ofValue? (List.lookup "preferences" members)
  some { review, exercise, preferences, directory := none }

/-- Reads a configuration from TOML text. -/
def ofText (text : String) : Except Fault Config :=
  match (Toml.read? text.toList).bind ofTable? with
  | some c => .ok c
  | none => .error .config

end Config
end ScriptReview
