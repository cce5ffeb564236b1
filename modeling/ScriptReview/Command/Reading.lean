import ScriptReview.Command.Options
import ScriptReview.Text.Search

/-!
# Reading arguments

Arguments are read from left to right, first those before the name of a command and then those after
it. A value or a path that has been read is taken over when the next option is accepted or the
arguments end, so that an option that is not known is noticed before a value that is not allowed.

Main definitions:

* `Progress` is what has been read so far, and `Progress.settle` takes over what waits.
* `Progress.option` and `Progress.letters` read an option in its long and in its short form.
* `Invocation.ofArguments` reads all arguments.
-/

namespace ScriptReview

/-- What an option begins with. -/
def hyphen : UInt8 := '-'.toUInt8

/-- What stands between an option and its value. -/
def equalsSign : UInt8 := '='.toUInt8

/-- The argument after which there are no options. -/
def twoHyphens : RawText := ⟨[hyphen, hyphen]⟩

/-- The argument that asks for help. -/
def helpWord : RawText := .ofString "help"

/-- What has been read and not been taken over yet: a setting without its value, a setting with its
value, or some paths. -/
inductive Waiting where
  | nothing
  | setting (s : Setting)
  | value (s : Setting) (value : RawText)
  | paths (ps : List RawText)
  deriving DecidableEq, Repr, Inhabited

/-- What has been read so far. -/
structure Progress where
  values : Values
  waiting : Waiting
  deriving DecidableEq, Repr, Inhabited

namespace Progress

/-- Nothing has been read. -/
def start : Progress := ⟨.empty, .nothing⟩

/-- Takes over what waits. A setting without its value is refused. -/
def settle (p : Progress) : Except Refusal Values :=
  match p.waiting with
  | .nothing => .ok p.values
  | .setting _ => .error .invalidValue
  | .value s value => p.values.give s value
  | .paths ps => p.values.addPaths ps

/-! ## Options -/

/-- Accepts a switch, or a wish that ends the reading. -/
def accept (p : Progress) (m : Meaning) : Except Refusal Progress := do
  let values ← p.settle
  match m with
  | .switch s => .ok ⟨← values.turnOn s, .nothing⟩
  | .setting s => .ok ⟨values, .setting s⟩
  | .refuse r => .error r

/-- Accepts a setting whose value is attached to it. -/
def acceptWith (p : Progress) (s : Setting) (value : List UInt8) : Except Refusal Progress := do
  let values ← p.settle
  .ok ⟨← values.give s ⟨value⟩, .nothing⟩

/-- Reads an option in its long form, without the hyphens. A value follows an equals sign. -/
def option (scope : Option Verb) (p : Progress) (bytes : List UInt8) : Except Refusal Progress :=
  let name := bytes.takeWhile (· != equalsSign)
  match meaningOfName? scope ⟨name⟩ with
  | none => .error .unknownArgument
  | some m =>
    match bytes.drop name.length with
    | [] => p.accept m
    | _ :: value =>
      match m with
      | .setting s => p.acceptWith s value
      | _ => .error .tooManyValues

/-- A value without the equals sign that it may begin with. -/
def dropEquals : List UInt8 → List UInt8
  | [] => []
  | first :: rest => if first = equalsSign then rest else first :: rest

/-- Reads options as letters, without the hyphen. What follows the letter of a setting is its
value. -/
def letters (scope : Option Verb) (p : Progress) : List UInt8 → Except Refusal Progress
  | [] => .ok p
  | c :: rest =>
    match meaningOfLetter? scope c with
    | none => .error .unknownArgument
    | some (.setting s) =>
      if rest.isEmpty then p.accept (.setting s) else p.acceptWith s (dropEquals rest)
    | some m => do letters scope (← p.accept m) rest

/-! ## Other arguments -/

/-- Why an argument that is no option is refused where no paths are taken. -/
def refusalOf : Option Verb → Refusal
  | none => .invalidSubcommand
  | some _ => .unknownArgument

/-- Whether paths are taken. -/
def takesPaths (scope : Option Verb) : Bool :=
  scope.any Verb.takesPaths

/-- Reads an argument that is no option. -/
def other (scope : Option Verb) (p : Progress) (text : RawText) : Except Refusal Progress :=
  match p.waiting with
  | .setting s => .ok ⟨p.values, .value s text⟩
  | .paths ps => .ok ⟨p.values, .paths (ps ++ [text])⟩
  | _ =>
    if takesPaths scope then do .ok ⟨← p.settle, .paths [text]⟩
    else .error (refusalOf scope)

/-- Reads the arguments after two hyphens, all of which are paths. The name of a command is no path
even there. -/
def afterHyphens (scope : Option Verb) (p : Progress) : List RawText → Except Refusal Progress
  | [] => .ok p
  | text :: rest =>
    if takesPaths scope then
      match p.waiting with
      | .paths ps => .ok ⟨p.values, .paths (ps ++ text :: rest)⟩
      | _ => do .ok ⟨← p.settle, .paths (text :: rest)⟩
    else if scope.isNone && (text == helpWord || (Verb.ofArgument? text).isSome) then
      .error .unknownArgument
    else .error (refusalOf scope)

/-- Reads one argument before two hyphens. -/
def argument (scope : Option Verb) (p : Progress) (text : RawText) : Except Refusal Progress :=
  match text.bytes with
  | first :: second :: rest =>
    if first ≠ hyphen then p.other scope text
    else if second = hyphen then p.option scope rest
    else p.letters scope (second :: rest)
  | _ => p.other scope text

/-- Whether an argument may be the name of a command: the reading is before any command, and no
value is awaited. -/
def awaitsVerb (scope : Option Verb) (p : Progress) : Bool :=
  match p.waiting with
  | .setting _ => false
  | _ => scope.isNone

/-- The refusal with which arguments after the word for help end. They may name one command. -/
def helpOn : List RawText → Refusal
  | [] => .help
  | [name] =>
    if name == helpWord || (Verb.ofArgument? name).isSome then .help else .invalidSubcommand
  | _ => .invalidSubcommand

/-- Reads arguments up to their end or to the name of a command, which is given with the arguments
after it. -/
def read (scope : Option Verb) (p : Progress) :
    List RawText → Except Refusal (Progress × Option (Verb × List RawText))
  | [] => .ok (p, none)
  | text :: rest =>
    if p.awaitsVerb scope && text == helpWord then .error (helpOn rest)
    else
      match (if p.awaitsVerb scope then Verb.ofArgument? text else none) with
      | some verb => .ok (p, some (verb, rest))
      | none =>
        if text = twoHyphens then (p.afterHyphens scope rest).map (·, none)
        else
          match p.argument scope text with
          | .ok p => read scope p rest
          | .error r => .error r

end Progress

/-! ## Commands -/

namespace Values

/-- The command that values stand for. The standard input is not read together with paths. -/
def toCommand (v : Values) (verb : Verb) : Except Refusal Command :=
  if v.has .stdin && !v.paths.isEmpty then .error .conflict
  else
    .ok (match verb with
      | .analyze => .analyze ⟨v.paths, v.has .stdin⟩ (v.has .json)
      | .check => .check ⟨v.paths, v.has .stdin⟩ (v.has .json)
      | .exercise => .exercise v.difficulty v.seed (v.has .json)
      | .rules => .rules)

end Values

namespace Invocation

/-- Reads the arguments after the name of a command. -/
def readVerb (verb : Verb) (arguments : List RawText) : Except Refusal (Values × Command) := do
  let (p, _) ← Progress.start.read (some verb) arguments
  let values ← p.settle
  .ok (values, ← values.toCommand verb)

/-- Reads all arguments, the name of the program not among them. An option that every command has
counts before and after the name of the command, and its value after the name comes first. -/
def ofArguments (arguments : List RawText) : Except Refusal Invocation := do
  match ← Progress.start.read none arguments with
  | (p, none) =>
    let outer ← p.settle
    .ok ⟨none, outer.has .verbose, outer.config⟩
  | (p, some (verb, rest)) =>
    let (inner, command) ← readVerb verb rest
    let outer ← p.settle
    .ok ⟨some command, inner.has .verbose || outer.has .verbose, inner.config.or outer.config⟩

end Invocation
end ScriptReview
