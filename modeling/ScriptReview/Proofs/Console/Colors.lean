import ScriptReview.Console.ExerciseText
import ScriptReview.Proofs.Console.Sequences
import ScriptReview.Proofs.Json.Printable

/-!
# Colors add nothing but sequences

Reports, summaries, exercises and lists of rules whose texts have no escape character are shown
without one, apart from the sequences of their styles.  Hence they read the same with and without
colors.

Main definitions:

* `FileReport.EscapeFree`, `Exercise.EscapeFree` and `Rule.EscapeFree` say that the texts of a
  record have no escape character.

Main results:

* `FileReport.escapeFree_painted`, `ScanReport.escapeFree_summary`, `Exercise.escapeFree_painted`
  and `Rule.escapeFree_paintedList` are about the four layouts.
* `Painted.layouts_onlyColored` says that colors add nothing but sequences to any of them.
-/

namespace ScriptReview

open Painted (escapeFree_line escapeFree_cons escapeFree_append escapeFree_flatMap escapeFree_nil)

/-! ## Texts of spans -/

namespace Span

@[simp]
theorem text_plain (text : String) : (plain text).text = text.toList :=
  rfl

@[simp]
theorem text_styled (s : Style) (text : String) : (styled s text).text = text.toList :=
  rfl

end Span

/-! ## Names -/

/-- The name of a kind has no escape character. -/
@[simp]
theorem IssueKind.not_mem_label (k : IssueKind) : '\x1b' ∉ k.label.toList := by
  cases k <;> decide

/-- The name of a severity has no escape character. -/
@[simp]
theorem Severity.not_mem_label (s : Severity) : '\x1b' ∉ s.label.toList := by
  cases s <;> decide

/-- The name of a rating has no escape character. -/
@[simp]
theorem Maintainability.not_mem_label (m : Maintainability) : '\x1b' ∉ m.label.toList := by
  cases m <;> decide

/-- The name of a difficulty has no escape character. -/
@[simp]
theorem Difficulty.not_mem_label (d : Difficulty) : '\x1b' ∉ d.label.toList := by
  cases d <;> decide

/-- The digits of a number have no escape character. -/
@[simp]
theorem escape_not_mem_toDigits (n : Nat) : '\x1b' ∉ Nat.toDigits 10 n :=
  (Json.printable_toDigits n).not_mem (by decide)

/-! ## Reports of files -/

namespace FileReport

/-- The path of a file as it is shown, the messages of its issues and its suggestions have no escape
character. -/
structure EscapeFree (f : FileReport) : Prop where
  path : '\x1b' ∉ f.path.shown.toList
  messages : ∀ i ∈ f.report.issues, '\x1b' ∉ i.message.toList
  suggestions : ∀ s ∈ f.report.suggestions, '\x1b' ∉ s.toList

/-- The place of an issue has no escape character if the path has none. -/
theorem not_mem_place {f : FileReport} (h : '\x1b' ∉ f.path.shown.toList) (i : Issue) :
    '\x1b' ∉ (f.place i).toList := by
  unfold place
  cases i.line with
  | none => exact h
  | some n => simp [h]

/-- A report without escape characters is shown without them. -/
theorem escapeFree_painted {f : FileReport} (h : f.EscapeFree) : f.painted.EscapeFree := by
  have hissues : ∀ i ∈ f.report.issues, (f.issueLine i).EscapeFree := by
    intro i hi
    simp [issueLine, h.messages i hi, not_mem_place h.path i]
  have hsuggestions : ∀ s ∈ f.report.suggestions, (suggestionLine s).EscapeFree := by
    intro s hs
    simp [suggestionLine, h.suggestions s hs]
  have hmetrics : (metricsLine f.report.metrics).EscapeFree := by
    simp [metricsLine]
  simp only [painted, escapeFree_append, escapeFree_line, escapeFree_cons, escapeFree_nil,
    escapeFree_flatMap, Span.text_styled]
  exact ⟨⟨⟨⟨⟨h.path, trivial⟩, hmetrics⟩, hissues⟩, hsuggestions⟩, trivial⟩

end FileReport

/-! ## Summaries -/

/-- A summary is shown without escape characters. -/
theorem ScanReport.escapeFree_summary (s : ScanReport) : s.summary.EscapeFree := by
  unfold summary
  dsimp only
  split_ifs
  · simp
  · simp

/-! ## Exercises -/

namespace Exercise

/-- The texts of an exercise have no escape character. Nothing is said of the values of its test
cases, whose strings are written with escapes. -/
structure EscapeFree (e : Exercise) : Prop where
  title : '\x1b' ∉ e.title.toList
  description : '\x1b' ∉ e.description.toList
  stub : '\x1b' ∉ e.stub.toList
  cases : ∀ c ∈ e.testCases, '\x1b' ∉ c.description.toList
  hints : ∀ h ∈ e.hints, '\x1b' ∉ h.toList

/-- A line without its carriage return has no other characters. -/
theorem dropReturn_subset (line : List Char) : dropReturn line ⊆ line := by
  unfold dropReturn
  split_ifs
  · exact List.dropLast_subset line
  · exact List.Subset.refl line

/-- The lines of a template have no other characters than the template. -/
theorem toList_subset_of_mem_templateLines {stub line : String} (h : line ∈ templateLines stub) :
    line.toList ⊆ stub.toList := by
  have hpieces : ∀ piece ∈ Text.splitAt '\n' stub.toList, piece ⊆ stub.toList :=
    fun piece hpiece => Text.subset_of_mem_splitAt hpiece
  obtain ⟨cs, hcs, rfl⟩ := List.mem_map.mp h
  rw [String.toList_ofList]
  rcases List.mem_append.mp hcs with hended | hlast
  · obtain ⟨piece, hpiece, rfl⟩ := List.mem_map.mp hended
    have hmem : piece ∈ Text.splitAt '\n' stub.toList := List.dropLast_subset _ hpiece
    exact List.Subset.trans (dropReturn_subset piece) (hpieces piece hmem)
  · rw [Option.mem_toList, Option.filter_eq_some_iff] at hlast
    exact hpieces cs (List.mem_of_getLast? hlast.1)

/-- The values of a test case are shown without escape characters. -/
theorem not_mem_compact (v : Json.Value) : '\x1b' ∉ v.compact :=
  (Json.Value.printable_compact v).not_mem (by decide)

/-- Test cases without escape characters are shown without them. -/
theorem escapeFree_casesFrom {cs : List TestCase}
    (h : ∀ c ∈ cs, '\x1b' ∉ c.description.toList) (number : Nat) :
    (casesFrom number cs).EscapeFree := by
  induction cs generalizing number with
  | nil => exact escapeFree_nil
  | cons c cs ih =>
      have hcase : (casePainted number c).EscapeFree := by
        simp [casePainted, h c (by simp), not_mem_compact]
      have hcases := ih (fun c' hc' => h c' (by simp [hc'])) (number + 1)
      rw [casesFrom, escapeFree_append]
      exact ⟨hcase, hcases⟩

/-- An exercise without escape characters is shown without them. -/
theorem escapeFree_painted {e : Exercise} (h : e.EscapeFree) : e.painted.EscapeFree := by
  have hstub : ∀ line ∈ templateLines e.stub, '\x1b' ∉ line.toList := by
    intro line hline hescape
    exact h.stub (toList_subset_of_mem_templateLines hline hescape)
  have hcases := escapeFree_casesFrom h.cases 1
  simpa [painted, h.title, h.description, hcases] using ⟨hstub, h.hints⟩

end Exercise

/-! ## Rules -/

namespace Rule

/-- The name and the summary of a rule have no escape character. -/
structure EscapeFree (r : Rule) : Prop where
  id : '\x1b' ∉ r.id.toList
  summary : '\x1b' ∉ r.summary.toList

/-- Built-in rules have no escape characters. -/
theorem escapeFree_of_mem_builtin {r : Rule} (h : r ∈ builtin) : r.EscapeFree := by
  simp only [builtin, List.mem_cons, List.not_mem_nil, or_false] at h
  rcases h with rfl | rfl | rfl | rfl | rfl
  all_goals exact ⟨by decide, by decide⟩

/-- Rules without escape characters are listed without them. -/
theorem escapeFree_listFrom {rules : List Rule} (h : ∀ r ∈ rules, r.EscapeFree) (number : Nat) :
    (listFrom number rules).EscapeFree := by
  induction rules generalizing number with
  | nil => exact escapeFree_nil
  | cons r rules ih =>
      have hr := h r (by simp)
      have hnumber : '\x1b' ∉ (numberText number).toList := by
        unfold numberText
        split_ifs
        · simp
        · simp
      have hline : (r.listLine number).EscapeFree := by
        simp [listLine, hnumber, hr.id, hr.summary]
      have hrules := ih (fun r' hr' => h r' (by simp [hr'])) (number + 1)
      rw [listFrom, escapeFree_append]
      exact ⟨hline, hrules⟩

/-- Rules without escape characters are listed without them, with their numbers. -/
theorem escapeFree_paintedList {rules : List Rule} (h : ∀ r ∈ rules, r.EscapeFree) :
    (paintedList rules).EscapeFree :=
  escapeFree_listFrom h 1

end Rule

/-! ## All layouts -/

/--
Reports, summaries, exercises and lists of rules whose texts have no escape character are the same
with and without colors, once the sequences are removed.  With colors, each sequence that switches a
style on is followed by one that switches all styles off, and there are as many of the one kind as
of the other.
-/
theorem Painted.layouts_onlyColored :
    (∀ f : FileReport, f.EscapeFree → f.painted.OnlyColored) ∧
    (∀ s : ScanReport, s.summary.OnlyColored) ∧
    (∀ e : Exercise, e.EscapeFree → e.painted.OnlyColored) ∧
    ∀ rules : List Rule, (∀ r ∈ rules, r.EscapeFree) → (Rule.paintedList rules).OnlyColored := by
  refine ⟨?_, ?_, ?_, ?_⟩
  · intro f hf
    exact (FileReport.escapeFree_painted hf).onlyColored
  · intro s
    exact s.escapeFree_summary.onlyColored
  · intro e he
    exact (Exercise.escapeFree_painted he).onlyColored
  · intro rules hrules
    exact (Rule.escapeFree_paintedList hrules).onlyColored

/-- A report whose texts look like sequences without their escape characters. -/
def bracketedReport : FileReport where
  path := "[0m"
  report :=
    { issues := [⟨.error, "[1;31m", some 1, .high⟩, ⟨.info, "m[", none, .low⟩]
      metrics := .ofCounts 6 0 1
      suggestions := ["[0m", ""] }

/-- An exercise whose texts look like sequences without their escape characters. The strings of its
test case have escape characters, which are written with digits. -/
def bracketedExercise : Exercise where
  title := "[0m"
  description := "[36m"
  difficulty := .hard
  stub := "[4m\r\n[0m"
  testCases := [{ input := [.string "\x1b[0m"], expected := .null, description := "0m" }]
  hints := ["", ";1m"]

/-- Texts that look like sequences are kept, next to sequences as well. -/
theorem Painted.layouts_onlyColored_bracketed :
    bracketedReport.EscapeFree ∧ bracketedReport.painted.OnlyColored ∧
      bracketedExercise.EscapeFree ∧ bracketedExercise.painted.OnlyColored ∧
      (∀ r ∈ Rule.builtin, r.EscapeFree) ∧ (Rule.paintedList Rule.builtin).OnlyColored := by
  have hreport : bracketedReport.EscapeFree := ⟨by decide, by decide, by decide⟩
  have hexercise : bracketedExercise.EscapeFree :=
    ⟨by decide, by decide, by decide, by simp [bracketedExercise], by decide⟩
  have hrules : ∀ r ∈ Rule.builtin, r.EscapeFree := fun r hr => Rule.escapeFree_of_mem_builtin hr
  obtain ⟨hfiles, -, hexercises, hlists⟩ := layouts_onlyColored
  exact ⟨hreport, hfiles _ hreport, hexercise, hexercises _ hexercise, hrules, hlists _ hrules⟩

end ScriptReview
