import ScriptReview.Command.Basic
import ScriptReview.Decimal.Nearest

/-!
# Options

Some options are known everywhere, others only after the name of a command. A switch has no value, a
setting has one.

Main definitions:

* `Verb` is the name of a command, and `optionsOf` lists the options that are known after it.
* `Values` is what the arguments have set so far.
* `Values.turnOn` and `Values.give` set a switch and a setting, each of them at most once.
-/

namespace ScriptReview

/-- The commands by name. -/
inductive Verb where
  | analyze
  | check
  | exercise
  | rules
  deriving DecidableEq, Repr, Inhabited

namespace Verb

/-- All commands. -/
def all : List Verb := [.analyze, .check, .exercise, .rules]

/-- The name of a command. -/
def label : Verb → String
  | .analyze => "analyze"
  | .check => "check"
  | .exercise => "exercise"
  | .rules => "rules"

/-- The command with a name. -/
def ofLabel? (name : String) : Option Verb :=
  all.find? (·.label == name)

/-- The command that an argument names. -/
def ofArgument? (argument : RawText) : Option Verb :=
  argument.text?.bind ofLabel?

/-- Whether paths may follow a command. -/
def takesPaths : Verb → Bool
  | .analyze => true
  | .check => true
  | .exercise => false
  | .rules => false

end Verb

/-- The options without a value. -/
inductive Switch where
  | verbose
  | json
  | stdin
  deriving DecidableEq, Repr, Inhabited

/-- The options with a value. -/
inductive Setting where
  | config
  | difficulty
  | seed
  deriving DecidableEq, Repr, Inhabited

/-- What an option asks for. -/
inductive Meaning where
  | switch (s : Switch)
  | setting (s : Setting)
  | refuse (r : Refusal)
  deriving DecidableEq, Repr, Inhabited

/-- An option with its long name and its letter, if it has one. -/
structure CommandOption where
  name : String
  letter : Option UInt8
  meaning : Meaning
  deriving DecidableEq, Repr, Inhabited

/-- The options that are known everywhere. -/
def commonOptions : List CommandOption :=
  [⟨"verbose", some 'v'.toUInt8, .switch .verbose⟩, ⟨"config", none, .setting .config⟩,
    ⟨"help", some 'h'.toUInt8, .refuse .help⟩]

/-- The options of one command. -/
def Verb.options : Verb → List CommandOption
  | .analyze => [⟨"stdin", none, .switch .stdin⟩, ⟨"json", none, .switch .json⟩]
  | .check => [⟨"stdin", none, .switch .stdin⟩, ⟨"json", none, .switch .json⟩]
  | .exercise =>
    [⟨"difficulty", some 'd'.toUInt8, .setting .difficulty⟩, ⟨"seed", none, .setting .seed⟩,
      ⟨"json", none, .switch .json⟩]
  | .rules => []

/-- The options that are known after a command, or before any command. -/
def optionsOf : Option Verb → List CommandOption
  | none => commonOptions ++ [⟨"version", some 'V'.toUInt8, .refuse .version⟩]
  | some verb => verb.options ++ commonOptions

/-- What a long name means. -/
def meaningOfName? (scope : Option Verb) (name : RawText) : Option Meaning :=
  ((optionsOf scope).find? (.ofString ·.name == name)).map (·.meaning)

/-- What a letter means. -/
def meaningOfLetter? (scope : Option Verb) (letter : UInt8) : Option Meaning :=
  ((optionsOf scope).find? (·.letter == some letter)).map (·.meaning)

/-! ## Values -/

/-- The seed that a text of decimal digits stands for, before which there may be a plus. -/
def seedOfText? (text : String) : Option UInt64 :=
  let digits :=
    match text.toList with
    | '+' :: rest => rest
    | cs => cs
  let n := Decimal.digitsValue digits
  if digits.isEmpty || !digits.all Char.isDigit then none
  else if n < powerOfTwo 64 then some (UInt64.ofNat n)
  else none

/-- What the arguments have set so far. -/
structure Values where
  switches : List Switch
  config : Option RawText
  difficulty : Option Difficulty
  seed : Option UInt64
  paths : List RawText
  deriving DecidableEq, Repr, Inhabited

namespace Values

/-- Nothing is set. -/
def empty : Values := ⟨[], none, none, none, []⟩

/-- Whether a switch is on. -/
def has (v : Values) (s : Switch) : Bool :=
  v.switches.contains s

/-- Turns a switch on that is not on yet. -/
def turnOn (v : Values) (s : Switch) : Except Refusal Values :=
  if v.has s then .error .conflict else .ok { v with switches := s :: v.switches }

/-- What a value stands for that has to be a text. -/
def readValue {α : Type} (read? : String → Option α) (refusal : Refusal) (value : RawText) :
    Except Refusal α :=
  match value.text? with
  | none => .error .unreadableValue
  | some text =>
    match read? text with
    | some a => .ok a
    | none => .error refusal

/-- Gives a setting its value, which it must not have yet. -/
def give (v : Values) (s : Setting) (value : RawText) : Except Refusal Values :=
  match s with
  | .config =>
    if v.config.isSome then .error .conflict
    else if value = .empty then .error .invalidValue
    else .ok { v with config := some value }
  | .difficulty =>
    if v.difficulty.isSome then .error .conflict
    else do .ok { v with difficulty := some (← readValue Difficulty.ofLabel? .invalidValue value) }
  | .seed =>
    if v.seed.isSome then .error .conflict
    else do .ok { v with seed := some (← readValue seedOfText? .malformedValue value) }

/-- Adds paths, none of which may be empty. -/
def addPaths (v : Values) (paths : List RawText) : Except Refusal Values :=
  if paths.contains .empty then .error .invalidValue else .ok { v with paths := v.paths ++ paths }

end Values
end ScriptReview
