import ScriptReview.Proofs.Console.Printing
import ScriptReview.Proofs.Json.Spelling
import ScriptReview.Proofs.Lookup

/-!
# Scans are read back from JSON

The JSON text of a scan holds the scan: a strict reader finds an object in it whose members are
those of the scan and no others.

Main definitions:

* `Json.Value.fields?` finds the members of an object that has exactly those.
* `ScanReport.ofJson?` reads a scan from a value, `FileReport.ofJson?`, `Metrics.ofJson?` and
  `Issue.ofJson?` its parts.
* `ScanReport.Fits` says that the paths of a scan are texts and its numbers fit 64 bits.

Main results:

* `ScanReport.ofJson?_eq_some_iff` says that a scan is read from what it is written as and from
  nothing else.
* `ScanReport.exists_strictOf?_printed` says that it is also read from the printed text.
-/

namespace ScriptReview

open Json (Value)

/-! ## Strict readers of values -/

namespace Json.Value

/-- The values of the members of an object whose members have exactly some names, in their order. -/
def fields? (names : List String) : Value → Option (List Value)
  | .object members => if members.map Prod.fst = names then some (members.map Prod.snd) else none
  | _ => none

/-- The items of an array, each of them read in one way. -/
def items? {α : Type} (read : Value → Option α) : Value → Option (List α)
  | .array items => items.mapM read
  | _ => none

/-- The text of a string. -/
def text? : Value → Option String
  | .string s => some s
  | _ => none

/-- The natural number that a number is. -/
def nat? : Value → Option Nat
  | .int i => i.toNat?
  | _ => none

/-- What the name in a string belongs to. -/
def named? {α : Type} (find : String → Option α) (v : Value) : Option α :=
  v.text?.bind find

/-- Members that are found are all members of the object. -/
theorem fields?_eq_some_iff (names : List String) (v : Value) (vs : List Value) :
    v.fields? names = some vs ↔ v = .object (names.zip vs) ∧ vs.length = names.length := by
  cases v with
  | object members =>
      simp only [fields?, Option.ite_none_right_eq_some, Option.some.injEq, Value.object.injEq]
      constructor
      · rintro ⟨rfl, rfl⟩
        exact ⟨List.zip_of_prod rfl rfl, by simp⟩
      · rintro ⟨rfl, hlength⟩
        exact ⟨List.map_fst_zip (Nat.le_of_eq hlength.symm),
          List.map_snd_zip (Nat.le_of_eq hlength)⟩
  | _ => simp [fields?]

/-- Items are read from the array of the values that they are read from. -/
theorem items?_eq_some_iff_forall₂ {α : Type} {read : Value → Option α} {Stands : α → Value → Prop}
    (h : ∀ v a, read v = some a ↔ Stands a v) (v : Value) (as : List α) :
    v.items? read = some as ↔ ∃ vs, v = .array vs ∧ List.Forall₂ Stands as vs := by
  cases v with
  | array items =>
      rw [items?, mapM_eq_some_iff_forall₂]
      simp only [h, Value.array.injEq, exists_eq_left']
      exact ⟨List.Forall₂.flip, List.Forall₂.flip⟩
  | _ => simp [items?]

/-- Items are read from the array of what they are written as, if each of them is. -/
theorem items?_eq_some_iff {α : Type} {read : Value → Option α} {write : α → Value}
    (h : ∀ v a, read v = some a ↔ v = write a) (v : Value) (as : List α) :
    v.items? read = some as ↔ v = .array (as.map write) := by
  have hwritten : ∀ vs, List.Forall₂ (fun a v => v = write a) as vs ↔ vs = as.map write := by
    intro vs
    rw [eq_comm, ← List.forall₂_eq_eq_eq, List.forall₂_map_left_iff]
    simp only [eq_comm]
  simp only [items?_eq_some_iff_forall₂ h, hwritten, exists_eq_right]

/-- Texts are read from strings. -/
theorem text?_eq_some_iff (v : Value) (s : String) : v.text? = some s ↔ v = .string s := by
  cases v <;> simp [text?]

/-- A natural number is read from itself. -/
@[simp]
theorem nat?_int (n : Nat) : nat? (.int n) = some n :=
  rfl

/-- Natural numbers are read from integers. -/
theorem nat?_eq_some_iff (v : Value) (n : Nat) : v.nat? = some n ↔ v = .int n := by
  cases v with
  | int i =>
      constructor
      · intro h
        cases i with
        | ofNat m =>
            obtain rfl := Option.some.inj h
            rfl
        | negSucc m => contradiction
      · intro h
        rw [h, nat?_int]
  | _ => simp [nat?]

/-- What has a name is read from the name. -/
theorem named?_eq_some_iff {α : Type} {find : String → Option α} {label : α → String}
    (h : ∀ name a, find name = some a ↔ name = label a) (v : Value) (a : α) :
    v.named? find = some a ↔ v = .string (label a) := by
  simp [named?, Option.bind_eq_some_iff, text?_eq_some_iff, h]

end Json.Value

/-! ## Names -/

/-- The rating with a name. -/
def Maintainability.ofLabel? (name : String) : Option Maintainability :=
  [good, fair, poor].find? (·.label == name)

/-- A rating is found by its name only. -/
theorem Maintainability.ofLabel?_eq_some_iff (name : String) (m : Maintainability) :
    ofLabel? name = some m ↔ name = m.label :=
  ⟨eq_label_of_find?, by rintro rfl; cases m <;> rfl⟩

/-! ## Strict readers of reports -/

namespace Issue

/-- Reads an issue from the values of its members and the line that it may have. -/
def ofValues? (kind message severity : Value) (line : Option Nat) : Option Issue := do
  let kind ← kind.named? IssueKind.ofLabel?
  let message ← message.text?
  let severity ← severity.named? Severity.ofLabel?
  some { kind, message, line, severity }

/-- Reads an issue. It has a line exactly when there is a member for it. -/
def ofJson? (v : Value) : Option Issue :=
  match v.fields? ["type", "message", "line", "severity"] with
  | some [kind, message, line, severity] =>
    line.nat?.bind fun n => ofValues? kind message severity (some n)
  | _ =>
    match v.fields? ["type", "message", "severity"] with
    | some [kind, message, severity] => ofValues? kind message severity none
    | _ => none

/-- The values of an issue are those that it is written with. -/
theorem ofValues?_eq_some_iff (kind message severity : Value) (line : Option Nat) (i : Issue) :
    ofValues? kind message severity line = some i ↔
      kind = .string i.kind.label ∧ message = .string i.message ∧
        severity = .string i.severity.label ∧ i.line = line := by
  simp only [ofValues?, Option.bind_eq_bind, Option.bind_eq_some_iff, Option.some.injEq,
    Value.named?_eq_some_iff IssueKind.ofLabel?_eq_some_iff,
    Value.named?_eq_some_iff Severity.ofLabel?_eq_some_iff, Value.text?_eq_some_iff]
  constructor
  · rintro ⟨kind, rfl, message, rfl, severity, rfl, rfl⟩
    exact ⟨rfl, rfl, rfl, rfl⟩
  · rintro ⟨rfl, rfl, rfl, rfl⟩
    exact ⟨_, rfl, _, rfl, _, rfl, rfl⟩

/-- An issue is read from what it is written as and from nothing else. -/
theorem ofJson?_eq_some_iff (v : Value) (i : Issue) : ofJson? v = some i ↔ v = i.toJson := by
  constructor
  · intro h
    unfold ofJson? at h
    split at h
    · rename_i kind message line severity hfields
      rcases (Value.fields?_eq_some_iff _ _ _).mp hfields with ⟨rfl, -⟩
      rcases Option.bind_eq_some_iff.mp h with ⟨n, hn, hvalues⟩
      rcases (ofValues?_eq_some_iff _ _ _ _ _).mp hvalues with ⟨rfl, rfl, rfl, hline⟩
      obtain rfl := (Value.nat?_eq_some_iff _ _).mp hn
      rw [toJson, hline]
      rfl
    · split at h
      · rename_i kind message severity hfields
        rcases (Value.fields?_eq_some_iff _ _ _).mp hfields with ⟨rfl, -⟩
        rcases (ofValues?_eq_some_iff _ _ _ _ _).mp h with ⟨rfl, rfl, rfl, hline⟩
        rw [toJson, hline]
        rfl
      · contradiction
  · rintro rfl
    rcases i with ⟨kind, message, line, severity⟩
    cases line with
    | none => exact (ofValues?_eq_some_iff _ _ _ _ _).mpr ⟨rfl, rfl, rfl, rfl⟩
    | some n => exact (ofValues?_eq_some_iff _ _ _ _ _).mpr ⟨rfl, rfl, rfl, rfl⟩

end Issue

namespace Metrics

/-- Reads the measures of a text. -/
def ofJson? (v : Value) : Option Metrics :=
  match v.fields? ["complexity", "maintainability", "functions", "lines"] with
  | some [complexity, maintainability, functions, lines] => do
    let complexity ← complexity.nat?
    let maintainability ← maintainability.named? Maintainability.ofLabel?
    let functions ← functions.nat?
    let lines ← lines.nat?
    some { complexity, maintainability, functions, lines }
  | _ => none

/-- Measures are read from what they are written as and from nothing else. -/
theorem ofJson?_eq_some_iff (v : Value) (m : Metrics) : ofJson? v = some m ↔ v = m.toJson := by
  constructor
  · intro h
    unfold ofJson? at h
    split at h
    · rename_i complexity maintainability functions lines hfields
      rcases (Value.fields?_eq_some_iff _ _ _).mp hfields with ⟨rfl, -⟩
      simp only [Option.bind_eq_bind, Option.bind_eq_some_iff, Option.some.injEq,
        Value.nat?_eq_some_iff,
        Value.named?_eq_some_iff Maintainability.ofLabel?_eq_some_iff] at h
      rcases h with ⟨_, rfl, _, rfl, _, rfl, _, rfl, rfl⟩
      rfl
    · contradiction
  · rintro rfl
    have hrating := (Value.named?_eq_some_iff Maintainability.ofLabel?_eq_some_iff _ _).mpr
      (Eq.refl (Value.string m.maintainability.label))
    simp [ofJson?, toJson, Value.fields?, hrating]

end Metrics

namespace FileReport

/-- Reads the report of a file. The members of the report stand beside the path. -/
def ofJson? (v : Value) : Option FileReport :=
  match v.fields? ["path", "issues", "metrics", "suggestions"] with
  | some [path, issues, metrics, suggestions] => do
    let path ← path.text?
    let issues ← issues.items? Issue.ofJson?
    let metrics ← Metrics.ofJson? metrics
    let suggestions ← suggestions.items? Value.text?
    some ⟨.ofString path, { issues, metrics, suggestions }⟩
  | _ => none

/-- The report of a file is read from what it is written as and from nothing else. -/
theorem ofJson?_eq_some_iff (v : Value) (f : FileReport) :
    ofJson? v = some f ↔ f.toJson = .ok v := by
  rw [toJson_eq_ok_iff]
  constructor
  · intro h
    unfold ofJson? at h
    split at h
    · rename_i path issues metrics suggestions hfields
      rcases (Value.fields?_eq_some_iff _ _ _).mp hfields with ⟨rfl, -⟩
      simp only [Option.bind_eq_bind, Option.bind_eq_some_iff, Option.some.injEq,
        Value.text?_eq_some_iff, Value.items?_eq_some_iff Issue.ofJson?_eq_some_iff,
        Metrics.ofJson?_eq_some_iff, Value.items?_eq_some_iff Value.text?_eq_some_iff] at h
      rcases h with ⟨path, rfl, _, rfl, _, rfl, _, rfl, rfl⟩
      exact ⟨path, rfl, rfl⟩
    · contradiction
  · rintro ⟨path, hpath, rfl⟩
    have hissues := (Value.items?_eq_some_iff Issue.ofJson?_eq_some_iff _ _).mpr
      (Eq.refl (Value.array (f.report.issues.map Issue.toJson)))
    have hmetrics := (Metrics.ofJson?_eq_some_iff _ f.report.metrics).mpr rfl
    have hsuggestions := (Value.items?_eq_some_iff Value.text?_eq_some_iff _ _).mpr
      (Eq.refl (Value.array (f.report.suggestions.map Value.string)))
    simp [ofJson?, Report.members, Value.fields?, Value.text?, hissues, hmetrics, hsuggestions,
      ← hpath]

end FileReport

namespace ScanReport

/-- Reads a scan. -/
def ofJson? (v : Value) : Option ScanReport :=
  match v.fields? ["files", "total_issues"] with
  | some [files, totalIssues] => do
    let files ← files.items? FileReport.ofJson?
    let totalIssues ← totalIssues.nat?
    some { files, totalIssues }
  | _ => none

/-- A scan is read from what it is written as and from nothing else. -/
theorem ofJson?_eq_some_iff (v : Value) (s : ScanReport) :
    ofJson? v = some s ↔ s.toJson = .ok v := by
  rw [toJson_eq_ok_iff]
  constructor
  · intro h
    unfold ofJson? at h
    split at h
    · rename_i files totalIssues hfields
      rcases (Value.fields?_eq_some_iff _ _ _).mp hfields with ⟨rfl, -⟩
      simp only [Option.bind_eq_bind, Option.bind_eq_some_iff, Option.some.injEq,
        Value.items?_eq_some_iff_forall₂ FileReport.ofJson?_eq_some_iff,
        Value.nat?_eq_some_iff] at h
      rcases h with ⟨_, ⟨vs, rfl, hvs⟩, _, rfl, rfl⟩
      exact ⟨vs, hvs, rfl⟩
    · contradiction
  · rintro ⟨files, hfiles, rfl⟩
    have hread : (Value.array files).items? FileReport.ofJson? = some s.files :=
      (Value.items?_eq_some_iff_forall₂ FileReport.ofJson?_eq_some_iff _ _).mpr
        ⟨files, rfl, hfiles⟩
    simp [ofJson?, Value.fields?, hread]

end ScanReport

/-! ## Printed scans -/

/-- An issue whose line fits 64 bits is kept. -/
theorem Issue.portable_toJson {i : Issue} (h : ∀ n ∈ i.line, n < powerOfTwo 64) :
    i.toJson.Portable (· ≠ ·) := by
  rcases i with ⟨kind, message, line, severity⟩
  cases line with
  | none =>
      refine .object (by simp) ?_
      simp only [List.forall_mem_append, List.forall_mem_cons]
      exact ⟨⟨⟨.string _, .string _, by simp⟩, by simp⟩, .string _, by simp⟩
  | some n =>
      have hn : n < powerOfTwo 64 := h n rfl
      refine .object (by simp) ?_
      simp only [List.forall_mem_append, List.forall_mem_cons]
      exact ⟨⟨⟨.string _, .string _, by simp⟩, by simp [Value.portable_nat hn]⟩, .string _,
        by simp⟩

namespace FileReport

/-- The path of a file is a text, and the numbers of its report fit 64 bits. -/
structure Fits (f : FileReport) : Prop where
  path : Utf8.WellFormed f.path.bytes
  complexity : f.report.metrics.complexity < powerOfTwo 64
  functions : f.report.metrics.functions < powerOfTwo 64
  lines : f.report.metrics.lines < powerOfTwo 64
  line : ∀ i ∈ f.report.issues, ∀ n ∈ i.line, n < powerOfTwo 64

/-- The report of a file is kept if its numbers fit. -/
theorem portable_of_toJson {f : FileReport} (h : f.Fits) {v : Value} (hv : f.toJson = .ok v) :
    v.Portable (· ≠ ·) := by
  obtain ⟨path, -, rfl⟩ := (f.toJson_eq_ok_iff v).mp hv
  have hmetrics : f.report.metrics.toJson.Portable (· ≠ ·) := by
    refine .object (by simp) ?_
    simp only [List.forall_mem_cons]
    exact ⟨Value.portable_nat h.complexity, .string _, Value.portable_nat h.functions,
      Value.portable_nat h.lines, by simp⟩
  refine .object (by simp [Report.members]) ?_
  simp only [Report.members, List.forall_mem_cons]
  exact ⟨.string _, Value.portable_map fun i hi => Issue.portable_toJson (h.line i hi), hmetrics,
    Value.portable_map fun s _ => .string s, by simp⟩

end FileReport

namespace ScanReport

/-- The paths of a scan are texts, and its numbers fit 64 bits. -/
structure Fits (s : ScanReport) : Prop where
  files : ∀ f ∈ s.files, f.Fits
  totalIssues : s.totalIssues < powerOfTwo 64

/-- A scan is kept if its numbers fit. -/
theorem portable_of_toJson {s : ScanReport} (h : s.Fits) {v : Value} (hv : s.toJson = .ok v) :
    v.Portable (· ≠ ·) := by
  obtain ⟨files, hfiles, rfl⟩ := (s.toJson_eq_ok_iff v).mp hv
  have hportable : ∀ file ∈ files, file.Portable (· ≠ ·) := by
    intro file hfile
    obtain ⟨f, hf, hwritten⟩ := exists_related_of_mem hfiles hfile
    exact FileReport.portable_of_toJson (h.files f hf) hwritten
  refine .object (by simp) ?_
  simp only [List.forall_mem_cons]
  exact ⟨.array hportable, Value.portable_nat h.totalIssues, by simp⟩

/-- The strict reader finds in the printed text of a scan what the scan is written as. -/
theorem exists_strictOf?_eq_toJson {s : ScanReport} (h : s.Fits) :
    ∃ p v, s.printed true = .ok p ∧ s.toJson = .ok v ∧
      ∀ colors, Value.strictOf? (p.toText colors).toList = some v := by
  obtain ⟨v, hv⟩ := s.exists_toJson_eq_ok_iff.mpr fun f hf => (h.files f hf).path
  have hp : s.printed true = .ok (.line [.plain (String.ofList v.pretty)]) := by
    rw [printed, if_pos rfl, hv]
    rfl
  refine ⟨_, v, hp, hv, ?_⟩
  intro colors
  exact Value.strictOf?_eq_of_spelled (Value.spelled_printed (portable_of_toJson h hv) colors)

/--
Scans whose paths are texts and whose numbers fit 64 bits are printed as JSON and read back from the
text, whatever their paths, messages and suggestions are.  The strict reader finds an object in the
text that has exactly the members of the scan, down to its issues, and these hold the scan.
Different scans therefore have different texts.
-/
theorem exists_strictOf?_printed {s : ScanReport} (h : s.Fits) (colors : Bool) :
    ∃ p, s.printed true = .ok p ∧
      (∃ v, Value.strictOf? (p.toText colors).toList = some v ∧ ofJson? v = some s) ∧
      ∀ s' : ScanReport, s'.Fits → ∀ p' colors', s'.printed true = .ok p' →
        p'.toText colors' = p.toText colors → s' = s := by
  obtain ⟨p, v, hp, hv, hread⟩ := exists_strictOf?_eq_toJson h
  have hs : ofJson? v = some s := (ofJson?_eq_some_iff _ _).mpr hv
  refine ⟨p, hp, ⟨v, hread colors, hs⟩, ?_⟩
  intro s' h' p' colors' hp' htext
  obtain ⟨q, v', hq, hv', hread'⟩ := exists_strictOf?_eq_toJson h'
  obtain rfl : p' = q := Except.ok.inj (hp'.symm.trans hq)
  have hsame : v = v' := by
    have hvalue := hread' colors'
    rw [htext, hread colors] at hvalue
    exact Option.some.inj hvalue
  have hs' : ofJson? v = some s' := (ofJson?_eq_some_iff _ _).mpr (hsame ▸ hv')
  exact Option.some.inj (hs'.symm.trans hs)

/-- A scan with escapes, with the characters next to the surrogates, and with the largest numbers. -/
def escaped : ScanReport := .ofFiles [
  ⟨"a\"\\\u0001\uD7FF\uE000.js",
    ⟨[⟨.warning, "a\tb", some (powerOfTwo 64 - 1), .high⟩, ⟨.info, "", none, .low⟩],
      ⟨powerOfTwo 64 - 1, .poor, 0, 1⟩, ["a\nb"]⟩⟩,
  ⟨"", ⟨[], ⟨1, .good, powerOfTwo 64 - 1, powerOfTwo 64 - 1⟩, []⟩⟩]

/-- This scan is read back, and no other one is printed like it. -/
theorem exists_strictOf?_printed_escaped :
    escaped.Fits ∧ ∃ p, escaped.printed true = .ok p ∧
      (∃ v, Value.strictOf? (p.toText false).toList = some v ∧ ofJson? v = some escaped) ∧
      ∀ s' : ScanReport, s'.Fits → ∀ p' colors', s'.printed true = .ok p' →
        p'.toText colors' = p.toText false → s' = escaped := by
  have hfits : escaped.Fits := by
    refine ⟨?_, by decide⟩
    simp only [escaped, files_ofFiles, List.forall_mem_cons]
    have hlargest : powerOfTwo 64 - 1 < powerOfTwo 64 := by decide
    exact ⟨⟨RawText.wellFormed_ofString _, hlargest, by decide, by decide, by simp [hlargest]⟩,
      ⟨RawText.wellFormed_ofString _, by decide, hlargest, hlargest, by simp⟩, by simp⟩
  exact ⟨hfits, exists_strictOf?_printed hfits false⟩

end ScanReport
end ScriptReview
