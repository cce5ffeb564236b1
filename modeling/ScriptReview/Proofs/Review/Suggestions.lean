import ScriptReview.Proofs.Numeric.Rounding
import ScriptReview.Review.Analyzer

/-!
# When advice is given

The share of comment lines is a rounded quotient, and the tenth that it is compared with is rounded
as well.  For texts with up to `2 ^ 53` lines neither matters: the share is below a tenth exactly if
ten times the comment lines are fewer than the lines.  No quotient that is below a tenth is nearer
to it than the number before the rounded tenth.

Main results:

* `Binary64.div_lt_tenth_iff` compares a rounded quotient with the rounded tenth.
* `commentRatio_lt_iff` compares the share of comment lines with it.
* `RuleBook.review_suggestions_exact` says which advice the review of a text gives.
-/

namespace ScriptReview

namespace Binary64

/-! ## A tenth -/

/-- The rounded tenth is the next number after `7205759403792793 / 2 ^ 56`. -/
theorem magnitude_before_tenth :
    (ofRatio 7205759403792793 (2 ^ 56)).magnitude + 1 = (ofRatio 1 10).magnitude := by
  decide +kernel

/-- A quotient of whole numbers up to `2 ^ 53` is below the rounded tenth exactly if it is below a
tenth. -/
theorem div_lt_tenth_iff {c n : Nat} (hpos : 0 < n) (hc : c ≤ powerOfTwo 53)
    (hn : n ≤ powerOfTwo 53) :
    ((ofNat c).div (ofNat n)).lt (ofRatio 1 10) = true ↔ 10 * c < n := by
  have hunit := powerOfTwo_pos 1074
  have hden : 0 < powerOfTwo 1074 * (n * powerOfTwo 1074) :=
    Nat.mul_pos hunit (Nat.mul_pos hpos hunit)
  rw [div, ratio_ofNat hc, ratio_ofNat hn, lt_ofRatio_iff]
  dsimp only
  generalize powerOfTwo 1074 = unit at *
  constructor
  · intro hless
    by_contra hmany
    have hcross : 1 * (unit * (n * unit)) ≤ c * unit * unit * 10 := by
      calc
        1 * (unit * (n * unit)) = n * (unit * unit) := by ring
        _ ≤ 10 * c * (unit * unit) := Nat.mul_le_mul_right _ (by omega)
        _ = c * unit * unit * 10 := by ring
    have hle := magnitude_ofRatio_le (by decide) hden hcross
    omega
  · intro hfew
    have hstep : c * 2 ^ 56 ≤ 7205759403792793 * n := by
      have hbound : n ≤ 2 ^ 53 := hn
      omega
    have hcross : c * unit * unit * 2 ^ 56 ≤ 7205759403792793 * (unit * (n * unit)) := by
      calc
        c * unit * unit * 2 ^ 56 = c * 2 ^ 56 * (unit * unit) := by ring
        _ ≤ 7205759403792793 * n * (unit * unit) := Nat.mul_le_mul_right _ hstep
        _ = 7205759403792793 * (unit * (n * unit)) := by ring
    have hle := magnitude_ofRatio_le hden (by decide) hcross
    have hnext := magnitude_before_tenth
    omega

end Binary64

/-! ## Comment lines -/

/-- The share of comment lines is below a tenth exactly if ten times as many are fewer than the
lines. -/
theorem commentRatio_lt_iff {lines : List (List Char)} (hne : lines ≠ [])
    (h : lines.length ≤ powerOfTwo 53) :
    (commentRatio lines).lt Advice.commentShare = true ↔
      10 * commentLines lines < lines.length := by
  have hpos : 0 < lines.length := List.length_pos_iff.mpr hne
  have hcomments : commentLines lines ≤ powerOfTwo 53 :=
    Nat.le_trans List.countP_le_length h
  have hempty : lines.isEmpty = false := by simpa using hne
  rw [commentRatio, hempty]
  exact Binary64.div_lt_tenth_iff hpos hcomments h

/-- Comment lines are counted by what is left of them when they are trimmed. -/
theorem commentLines_eq_countP (lines : List (List Char)) :
    commentLines lines =
      lines.countP fun line => decide (Text.trim line = [] ∨ "//".toList <+: Text.trim line) := by
  apply List.countP_congr
  intro line _
  rw [isCommentLine_iff, decide_eq_true_iff]

/-! ## Advice -/

/-- What is selected from a list is its first element, if it is selected, and what is selected from
the rest. -/
theorem filter_cons_eq_append {α : Type} (p : α → Bool) (a : α) (l : List α) :
    (a :: l).filter p = (if p a = true then [a] else []) ++ l.filter p := by
  rw [List.filter_cons]
  split <;> rfl

namespace Advice

/-- Each piece of advice has its own condition, and the pieces stand in their order. -/
theorem due_eq (metrics : Metrics) (ratio : Binary64) :
    due metrics ratio =
      (if metrics.functions = 0 then [noFunctions] else []) ++
      (if 7 < metrics.complexity then [highComplexity] else []) ++
      (if 50 < metrics.lines then [largeFile] else []) ++
      (if ratio.lt commentShare = true ∧ 20 < metrics.lines then [fewComments] else []) := by
  rw [due, all, filter_cons_eq_append, filter_cons_eq_append, filter_cons_eq_append,
    filter_cons_eq_append, List.filter_nil, List.append_nil]
  simp only [isDue, beq_iff_eq, decide_eq_true_eq, Bool.and_eq_true, List.append_assoc]
  rfl

/-- No advice is given twice. -/
theorem nodup_due (metrics : Metrics) (ratio : Binary64) :
    ((due metrics ratio).map text).Nodup := by
  have htexts : (all.map text).Nodup := by decide
  exact htexts.sublist (List.Sublist.map text List.filter_sublist)

/-- Advice is recognised by its text. -/
theorem text_mem_map_text_iff (a : Advice) (advice : List Advice) :
    a.text ∈ advice.map text ↔ a ∈ advice := by
  have htext : ∀ a b : Advice, a.text = b.text → a = b := by
    intro a b
    cases a <;> cases b <;> decide
  constructor
  · intro h
    rcases List.mem_map.mp h with ⟨b, hb, hsame⟩
    rwa [← htext b a hsame]
  · exact List.mem_map_of_mem

end Advice

/--
The suggestions for a text with up to `2 ^ 53` lines are decided by whole numbers: that there are no
functions, that the complexity is above 7, that there are more than 50 lines, and that there are
more than 20 lines of which fewer than a tenth are blank or begin with two slashes.  Each suggestion
that is called for is given once, in this order, and a text in which exactly a tenth of the lines
are such lines is not asked for comments.
-/
theorem RuleBook.review_suggestions_exact (book : RuleBook) (source : String)
    (h : (linesOf source).length ≤ 2 ^ 53) :
    let lines := linesOf source
    let comments := lines.countP fun line =>
      decide (Text.trim line = [] ∨ "//".toList <+: Text.trim line)
    let report := book.review source
    report.suggestions =
      (if report.metrics.functions = 0 then [Advice.noFunctions.text] else []) ++
      (if 7 < report.metrics.complexity then [Advice.highComplexity.text] else []) ++
      (if 50 < lines.length then [Advice.largeFile.text] else []) ++
      (if 10 * comments < lines.length ∧ 20 < lines.length then [Advice.fewComments.text]
        else []) ∧
    report.suggestions.Nodup ∧
    (10 * comments = lines.length → Advice.fewComments.text ∉ report.suggestions) := by
  intro lines comments report
  have hcomments : commentLines lines = comments := commentLines_eq_countP lines
  have hne : lines ≠ [] := Text.splitAt_ne_nil '\n' source.toList
  have hratio : (commentRatio lines).lt Advice.commentShare = true ↔
      10 * comments < lines.length := by
    rw [← hcomments]
    exact commentRatio_lt_iff hne h
  have hdue := Advice.due_eq (metricsOf source) (commentRatio lines)
  simp only [hratio] at hdue
  have hsuggestions : report.suggestions =
      (Advice.due (metricsOf source) (commentRatio lines)).map Advice.text := rfl
  refine ⟨?_, ?_, ?_⟩
  · rw [hsuggestions, hdue]
    simp only [List.map_append, apply_ite (List.map Advice.text), List.map_cons, List.map_nil]
    rfl
  · rw [hsuggestions]
    exact Advice.nodup_due _ _
  · intro htenth
    have hmany : ¬ 10 * comments < lines.length := by omega
    rw [hsuggestions, Advice.text_mem_map_text_iff, hdue]
    simp [hmany]

/-- Thirty lines, of which one is a comment, one is empty, and one begins with slashes after a byte
order mark. -/
def tenthCommented : String :=
  "// one\n\n\ufeff // three\n" ++ String.ofList (List.replicate 26 ['x', '\n']).flatten ++ "x"

/-- A text of which exactly a tenth are comment lines is not asked for comments, although the
rounded tenth is above a tenth. -/
theorem RuleBook.review_suggestions_exact_of_tenth :
    (linesOf tenthCommented).length = 30 ∧
      Advice.fewComments.text ∉ (builtin.review tenthCommented).suggestions := by
  have hlines : (linesOf tenthCommented).length = 30 := by decide
  have hcomments : 10 * (linesOf tenthCommented).countP (fun line =>
      decide (Text.trim line = [] ∨ "//".toList <+: Text.trim line)) =
        (linesOf tenthCommented).length := by decide
  have hexact := builtin.review_suggestions_exact tenthCommented (by omega)
  exact ⟨hlines, hexact.2.2 hcomments⟩

end ScriptReview
