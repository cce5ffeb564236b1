import ScriptReview.Proofs.Text.Words
import ScriptReview.Review.Branch

/-!
# Branches are words

The branch words of a text are found in one pass over its maximal runs of word characters.  Looking
for each word on its own, as the counters do, finds the same branches: a word stands in a text as a
whole word exactly where a run is that word, and the seven words do not share a run.

Main results:

* `branchCounts_eq_map_count_words` counts every branch word among the words of a text.
* `complexity_eq_countP_words` counts all of them together.
* `branchCounts_eq_count_runs` says both of the maximal runs, and what separates and joins them.
-/

namespace ScriptReview

/-! ## Each branch word -/

/-- The words that begin a branch are words. -/
theorem isWordChar_of_mem_branchWords :
    ∀ w ∈ branchWords, w.toList ≠ [] ∧ ∀ c ∈ w.toList, Text.isWordChar c = true := by
  intro w hw
  exact Text.forall_mem_of_all (by decide) w.toList (List.mem_map_of_mem hw)

/-- Every branch word is counted as often as it is a word of the text. -/
theorem branchCounts_eq_map_count_words (cs : List Char) :
    branchCounts cs = branchWords.map fun w => (w, (Text.words cs).count w.toList) := by
  apply List.map_congr_left
  intro w hw
  obtain ⟨hne, hword⟩ := isWordChar_of_mem_branchWords w hw
  rw [Text.occurrences_eq_count_words hne hword]

/-! ## All branch words together -/

/-- Members of a list are counted as copies of its first element and members of the rest. -/
theorem countP_mem_cons {α : Type} [BEq α] [LawfulBEq α] {key : α} {keys : List α}
    (h : key ∉ keys) (l : List α) :
    l.countP (· ∈ key :: keys) = l.count key + l.countP (· ∈ keys) := by
  induction l with
  | nil => rfl
  | cons a l ih =>
      rw [List.countP_cons, List.countP_cons, List.count_cons, ih]
      by_cases ha : a = key
      · subst ha
        simp [h]
        omega
      · simp [ha]
        omega

/-- The copies of different elements together are the members of their list. -/
theorem total_map_count {α : Type} [BEq α] [LawfulBEq α] {keys : List α} (h : keys.Nodup)
    (l : List α) : total (keys.map fun key => l.count key) = l.countP (· ∈ keys) := by
  induction keys with
  | nil => simp
  | cons key keys ih =>
      obtain ⟨hkey, hkeys⟩ := List.nodup_cons.mp h
      rw [List.map_cons, total_cons, ih hkeys, countP_mem_cons hkey]

/-- The complexity is one more than the number of words that are branch words. -/
theorem complexity_eq_countP_words (cs : List Char) :
    complexity cs = 1 + (Text.words cs).countP (· ∈ branchWords.map String.toList) := by
  have hdistinct : (branchWords.map String.toList).Nodup := by decide
  rw [complexity_eq_total_branchCounts, branchCounts_eq_map_count_words,
    ← total_map_count hdistinct]
  simp [Function.comp_def]

/--
A text has one list of maximal runs of ASCII digits, ASCII letters and underscores.  Each of the
seven branch words is counted as often as it is a run, and the complexity is one more than the
number of runs that are branch words, which is one more than the total of the counts.  A blank or a
character beyond ASCII separates the runs before it from those after it, and word characters in a
row are never taken apart.
-/
theorem branchCounts_eq_count_runs (cs : List Char) :
    (∀ c, Text.isWordChar c = true ↔
      ('0' ≤ c ∧ c ≤ '9') ∨ ('A' ≤ c ∧ c ≤ 'Z') ∨ ('a' ≤ c ∧ c ≤ 'z') ∨ c = '_') ∧
    ∃ runs, (∀ runs', Text.Runs cs runs' ↔ runs' = runs) ∧
      branchCounts cs = ["if", "else", "for", "while", "switch", "case", "catch"].map
        (fun w => (w, runs.count w.toList)) ∧
      complexity cs = 1 + runs.countP (· ∈
        ["if", "else", "for", "while", "switch", "case", "catch"].map String.toList) ∧
      complexity cs = 1 + total ((branchCounts cs).map (·.2)) ∧
      (∀ before c after, cs = before ++ c :: after →
        Text.isBlank c = true ∨ 128 ≤ c.toNat →
          ∃ front back, Text.Runs before front ∧ Text.Runs after back ∧ runs = front ++ back) ∧
      ∀ stretch, stretch <:+: cs → stretch ≠ [] → (∀ c ∈ stretch, Text.isWordChar c = true) →
        ∃ run ∈ runs, stretch <:+: run := by
  refine ⟨Text.isWordChar_iff, Text.words cs, Text.runs_iff cs, branchCounts_eq_map_count_words cs,
    complexity_eq_countP_words cs, complexity_eq_total_branchCounts cs, ?_, ?_⟩
  · rintro before c after rfl hc
    have hseparates : Text.isWordChar c = false := by
      rcases hc with hblank | hbeyond
      · exact Text.isWordChar_of_isBlank hblank
      · exact Text.isWordChar_of_not_ascii hbeyond
    exact ⟨Text.words before, Text.words after, Text.runs_words before, Text.runs_words after,
      Text.words_append_separator hseparates before after⟩
  · intro stretch hin hne hword
    exact (Text.runs_words cs).exists_run_around hne hword hin

/-- A letter beyond ASCII ends a word, and an underscore goes on with it. -/
example : complexity "éif (x) \x7b\x7d\nmy_if(); a.if".toList = 3 := by
  decide

end ScriptReview
