import Mathlib.Data.List.Infix
import ScriptReview.Proofs.Review.Detection
import ScriptReview.Proofs.Review.Layout

/-!
# Adding the missing terminators

A line that is reported to lack a terminator gets one: it is trimmed, and a semicolon is put behind
it.  All these lines are changed at once.  No other rule sees the difference, since none looks for a
semicolon or for what follows one, and a line that gets a semicolon was no closing brace before and
is none after.  A semicolon is no part of a word, and it turns no line into a comment.

Main definitions:

* `Rule.reports` says which issues are those of a rule, and `Report.flags` in which lines they are.
* `terminated` is a text in which the advice of its report is followed.

Main results:

* `linesOf_terminated` gives the lines of the new text.
* `Rule.findIn_terminate` says what each rule finds in them.
* `RuleBook.review_terminated` compares the report of the new text with that of the old one.
-/

namespace ScriptReview

open Text (trim joinWith)

/-- Whether an issue is one of a rule, in whatever line. -/
def Rule.reports (r : Rule) (i : Issue) : Bool :=
  i.kind == r.kind && i.message == r.message && i.severity == r.severity

/-- Whether a report has an issue of a rule in the line with a number. -/
def Report.flags (report : Report) (r : Rule) (n : Nat) : Bool :=
  report.issues.contains (r.issueAt n)

/-- The lines of a text, in which those that are reported to lack a terminator are trimmed and get a
semicolon. -/
def terminatedLines (source : String) : List (List Char) :=
  (linesOf source).mapIdx fun i line =>
    if (RuleBook.builtin.review source).flags .missingTerminator (i + 1) then trim line ++ [';']
    else line

/-- A text in which all missing terminators are added. -/
def terminated (source : String) : String :=
  String.ofList (joinWith '\n' (terminatedLines source))

/-! ## One line -/

/-- A line that gets a semicolon if it lacks a terminator. -/
def terminate (line : List Char) : List Char :=
  if Rule.lacksTerminator (trim line) then trim line ++ [';'] else line

namespace Text

/-- A trimmed text with another character behind it that is no blank has nothing to trim. -/
theorem trim_trim_append_singleton {line : List Char} (hne : trim line ≠ []) {c : Char}
    (hc : isBlank c = false) : trim (trim line ++ [c]) = trim line ++ [c] := by
  apply trimBy_eq_self
  constructor
  · intro d hd
    rw [List.head?_append_of_ne_nil _ hne] at hd
    exact (bare_trimBy isBlank line).1 d hd
  · simp [hc]

/-- A part without a character is not found more often when the character is put behind a text. -/
theorem contains_append_singleton {part : List Char} {c : Char} (hne : part ≠ []) (hc : c ∉ part)
    (line : List Char) : contains part (line ++ [c]) = contains part line := by
  rw [Bool.eq_iff_iff, contains_iff_isInfix, contains_iff_isInfix, List.infix_concat_iff,
    List.suffix_concat_iff]
  constructor
  · rintro ((hnil | ⟨front, rfl, -⟩) | hin)
    · contradiction
    · simp at hc
    · exact hin
  · exact Or.inr

end Text

/-- A line that lacks a terminator is not empty. -/
theorem LacksTerminator.ne_nil {line : List Char} (h : LacksTerminator line) : line ≠ [] :=
  h.1

/-- A line that lacks a terminator is no closing brace. -/
theorem LacksTerminator.ne_brace {line : List Char} (h : LacksTerminator line) :
    line ≠ ['\x7d'] := by
  rintro rfl
  exact h.2.1 '\x7d' (by simp) List.suffix_rfl

/-- A line that ends with a semicolon lacks no terminator. -/
theorem not_lacksTerminator_append (line : List Char) : ¬ LacksTerminator (line ++ [';']) := by
  intro h
  exact h.2.1 ';' (by simp) (List.suffix_append line [';'])

/-- A line that lacks a terminator does not begin like a comment with a semicolon behind it. -/
theorem LacksTerminator.not_slashes_prefix {line : List Char} (h : LacksTerminator line) :
    ¬ ['/', '/'] <+: line ++ [';'] := by
  intro hbegins
  rcases List.prefix_concat_iff.mp hbegins with hall | hbegins
  · have hlast := congrArg List.getLast? hall
    simp at hlast
  · exact h.2.2.1 ['/', '/'] (by simp) hbegins

/-- What a line with its terminator is, depending on whether it lacked one. -/
theorem terminate_cases (line : List Char) :
    (LacksTerminator (trim line) ∧ trim (terminate line) = trim line ++ [';']) ∨
      (¬ LacksTerminator (trim line) ∧ terminate line = line) := by
  by_cases hlacks : Rule.lacksTerminator (trim line) = true
  · left
    have hline := (Rule.lacksTerminator_iff _).mp hlacks
    rw [terminate, if_pos hlacks]
    exact ⟨hline, Text.trim_trim_append_singleton hline.ne_nil (by decide)⟩
  · right
    rw [terminate, if_neg hlacks]
    exact ⟨fun hline => hlacks ((Rule.lacksTerminator_iff _).mpr hline), rfl⟩

/-- A line with its terminator lacks none. -/
theorem not_lacksTerminator_terminate (line : List Char) :
    ¬ LacksTerminator (trim (terminate line)) := by
  rcases terminate_cases line with ⟨-, htrim⟩ | ⟨hline, hsame⟩
  · rw [htrim]
    exact not_lacksTerminator_append _
  · rwa [hsame]

/-- A part without a semicolon stands in a line with its terminator exactly if it stands in the
line. -/
theorem contains_terminate (part line : List Char) (hne : part ≠ []) (hpart : ';' ∉ part) :
    Text.contains part (trim (terminate line)) = Text.contains part (trim line) := by
  rcases terminate_cases line with ⟨-, htrim⟩ | ⟨-, hsame⟩
  · rw [htrim, Text.contains_append_singleton hne hpart]
  · rw [hsame]

/-- A line with its terminator is a closing brace exactly if the line is one. -/
theorem trim_terminate_eq_brace_iff (line : List Char) :
    trim (terminate line) = ['\x7d'] ↔ trim line = ['\x7d'] := by
  rcases terminate_cases line with ⟨hline, htrim⟩ | ⟨-, hsame⟩
  · rw [htrim]
    constructor
    · intro hbrace
      have hlast := congrArg List.getLast? hbrace
      simp at hlast
    · intro hbrace
      exact absurd hbrace hline.ne_brace
  · rw [hsame]

/-- A line with its terminator has the words of the line. -/
theorem words_terminate (line : List Char) : Text.words (terminate line) = Text.words line := by
  rw [← Text.words_trim (terminate line), ← Text.words_trim line]
  rcases terminate_cases line with ⟨-, htrim⟩ | ⟨-, hsame⟩
  · rw [htrim, Text.words_append_separator (by decide), Text.words_nil, List.append_nil]
  · rw [hsame]

/-- A line with its terminator is a comment line exactly if the line is one. -/
theorem isCommentLine_terminate (line : List Char) :
    isCommentLine (terminate line) = isCommentLine line := by
  rcases terminate_cases line with ⟨hline, htrim⟩ | ⟨-, hsame⟩
  · have hbefore : ¬ "//".toList <+: trim line := hline.2.2.1 ['/', '/'] (by simp)
    have hafter : ¬ "//".toList <+: trim line ++ [';'] := hline.not_slashes_prefix
    have hne : trim line ++ [';'] ≠ [] := List.append_ne_nil_of_right_ne_nil _ (by simp)
    rw [Bool.eq_iff_iff, isCommentLine_iff, isCommentLine_iff, htrim]
    simp only [hbefore, hafter, hline.ne_nil, hne]
  · rw [hsame]

/-! ## What the rules find -/

namespace Rule

/-- A built-in rule fires for a line with its terminator exactly if it fires for the line and is not
the rule for missing terminators. -/
theorem fires_terminate {r : Rule} (hr : r ∈ builtin) (n : Nat) (line : List Char)
    (next : Option (List Char)) :
    r.fires (trim (terminate line)) (next.map (trim ∘ terminate)) =
      (r.fires (trim line) (next.map trim) && !missingTerminator.reports (r.issueAt n)) := by
  simp only [builtin, List.mem_cons, List.not_mem_nil, or_false] at hr
  rcases hr with rfl | rfl | rfl | rfl | rfl
  · have hother : missingTerminator.reports (debugPrint.issueAt n) = false := rfl
    have hcall := contains_terminate "console.log".toList line (by decide) (by decide)
    simp only [fires, hother, hcall, Bool.not_false, Bool.and_true]
  · have hother : missingTerminator.reports (looseDeclaration.issueAt n) = false := rfl
    have hdeclares := contains_terminate "var ".toList line (by decide) (by decide)
    simp only [fires, hother, hdeclares, Bool.not_false, Bool.and_true]
  · have hother : missingTerminator.reports (looseEquality.issueAt n) = false := rfl
    have hloose := contains_terminate "==".toList line (by decide) (by decide)
    have hstrict := contains_terminate "===".toList line (by decide) (by decide)
    simp only [fires, hother, hloose, hstrict, Bool.not_false, Bool.and_true]
  · have hown : missingTerminator.reports (missingTerminator.issueAt n) = true := by
      simp [reports, issueAt]
    have hnone : lacksTerminator (trim (terminate line)) = false := by
      rw [← Bool.not_eq_true, lacksTerminator_iff]
      exact not_lacksTerminator_terminate line
    simp [fires, hown, hnone]
  · have hother : missingTerminator.reports (emptyCatch.issueAt n) = false := rfl
    have hcatch := contains_terminate "catch".toList line (by decide) (by decide)
    have hbrace : (next.map (trim ∘ terminate) == some ['\x7d']) =
        (next.map trim == some ['\x7d']) := by
      rw [Bool.eq_iff_iff]
      cases next with
      | none => rfl
      | some next => simp [trim_terminate_eq_brace_iff]
    simp only [fires, hother, hcatch, hbrace, Bool.not_false, Bool.and_true]

/-- A built-in rule finds in a line with its terminator what it finds in the line, but no missing
terminator. -/
theorem check_terminate {r : Rule} (hr : r ∈ builtin) (n : Nat) (line : List Char)
    (next : Option (List Char)) :
    r.check ⟨n, trim (terminate line), next.map (trim ∘ terminate)⟩ =
      (r.check ⟨n, trim line, next.map trim⟩).filter fun i => !missingTerminator.reports i := by
  have hfires := fires_terminate hr n line next
  by_cases hline : r.fires (trim line) (next.map trim) = true
  · by_cases hissue : missingTerminator.reports (r.issueAt n) = true
    · simp [check, hfires, hline, Option.filter_some, hissue]
    · simp [check, hfires, hline, Option.filter_some, hissue]
  · simp [check, hfires, hline]

/-- A built-in rule finds in lines with their terminators what it finds in the lines, but no missing
terminator. -/
theorem findIn_terminate {r : Rule} (hr : r ∈ builtin) (lines : List (List Char)) (n : Nat) :
    r.findIn (lines.map terminate) n =
      (r.findIn lines n).filter fun i => !missingTerminator.reports i := by
  cases n with
  | zero => rfl
  | succ n =>
      simp only [findIn, viewAt?, List.getElem?_map, Option.map_map]
      cases lines[n]? with
      | none => rfl
      | some line => exact check_terminate hr (n + 1) line lines[n + 1]?

end Rule

/-- The issues of lines with their terminators are those of the lines, except the missing
terminators. -/
theorem RuleBook.scan_terminate (lines : List (List Char)) :
    builtin.scan (lines.map terminate) =
      (builtin.scan lines).filter fun i => !Rule.missingTerminator.reports i := by
  rw [scan_eq_flatMap, scan_eq_flatMap, List.length_map, List.filter_flatMap]
  congr 1
  funext i
  rw [List.filter_filterMap]
  apply List.filterMap_congr
  intro r hr
  exact Rule.findIn_terminate hr lines (i + 1)

/-! ## The lines that are flagged -/

/-- A built-in rule that reports a missing terminator is the rule for missing terminators. -/
theorem Rule.eq_missingTerminator {r : Rule} (hr : r ∈ builtin) {n : Nat}
    (h : missingTerminator.issueAt n = r.issueAt n) : r = missingTerminator := by
  have hkind : missingTerminator.kind = r.kind := congrArg Issue.kind h
  simp only [builtin, List.mem_cons, List.not_mem_nil, or_false] at hr
  rcases hr with rfl | rfl | rfl | rfl | rfl
  · contradiction
  · contradiction
  · contradiction
  · rfl
  · contradiction

/-- The lines that are reported to lack a terminator are those that lack one. -/
theorem flags_missingTerminator_iff (source : String) {i : Nat} {line : List Char}
    (hline : (linesOf source)[i]? = some line) :
    (RuleBook.builtin.review source).flags .missingTerminator (i + 1) = true ↔
      Rule.lacksTerminator (trim line) = true := by
  have hview : viewAt? (linesOf source) (i + 1) =
      some ⟨i + 1, trim line, (linesOf source)[i + 1]?.map trim⟩ := by
    simp [viewAt?, hline]
  have hon : Rule.missingTerminator.issueAt (i + 1) ∈ RuleBook.builtin.scan (linesOf source) ↔
      Rule.missingTerminator.issueAt (i + 1) ∈
        RuleBook.builtin.rules.filterMap (·.findIn (linesOf source) (i + 1)) := by
    rw [← RuleBook.issuesOn_scan, issuesOn, List.mem_filter]
    simp [Rule.issueAt]
  simp only [Report.flags, List.contains_iff_mem, RuleBook.review_issues, hon, List.mem_filterMap,
    Rule.findIn, hview, Option.bind_some, Rule.check_eq_some_iff]
  constructor
  · rintro ⟨r, hr, hfires, hissue⟩
    rw [Rule.eq_missingTerminator hr hissue] at hfires
    exact hfires
  · intro hlacks
    exact ⟨.missingTerminator, by simp [RuleBook.builtin, Rule.builtin], hlacks, rfl⟩

/-- The lines of a text with all missing terminators are those of the text, each with its
terminator. -/
theorem terminatedLines_eq_map (source : String) :
    terminatedLines source = (linesOf source).map terminate := by
  apply List.ext_getElem?
  intro i
  rw [terminatedLines, List.getElem?_mapIdx, List.getElem?_map]
  cases hline : (linesOf source)[i]? with
  | none => rfl
  | some line => simp only [Option.map_some, flags_missingTerminator_iff source hline, terminate]

/-- The new lines are the lines of the new text. -/
theorem linesOf_terminated (source : String) :
    linesOf (terminated source) = terminatedLines source := by
  have hne : terminatedLines source ≠ [] := by
    simp [terminatedLines_eq_map, linesOf, Text.splitAt_ne_nil]
  rw [linesOf, terminated, String.toList_ofList, Text.splitAt_joinWith hne]
  intro piece hpiece
  rw [terminatedLines_eq_map] at hpiece
  rcases List.mem_map.mp hpiece with ⟨line, hline, rfl⟩
  have hfeed : '\n' ∉ line := not_mem_of_mem_linesOf hline
  unfold terminate
  split
  · rcases Text.exists_eq_append_trim line with ⟨before, after, -, -, hsplit⟩
    have htrim : '\n' ∉ trim line := by
      intro hmem
      apply hfeed
      rw [hsplit]
      simp [hmem]
    simp [htrim]
  · exact hfeed

/-! ## The new report -/

/-- The branches of a text stay when its terminators are added. -/
theorem complexity_terminated (source : String) :
    complexity (terminated source).toList = complexity source.toList := by
  apply complexity_eq_of_words_eq
  rw [terminated, String.toList_ofList, ← joinWith_linesOf source, terminatedLines_eq_map,
    Text.words_joinWith_lineFeed, Text.words_joinWith_lineFeed, List.flatMap_map]
  simp only [words_terminate]

/-- The share of comment lines stays when terminators are added. -/
theorem commentRatio_terminate (lines : List (List Char)) :
    commentRatio (lines.map terminate) = commentRatio lines := by
  have hcount : commentLines (lines.map terminate) = commentLines lines := by
    simp [commentLines, List.countP_map, Function.comp_def, isCommentLine_terminate]
  simp [commentRatio, hcount]

/--
In a text, every line that its report flags for a missing terminator is trimmed and gets a
semicolon, and all other lines stay.  The report of the new text, under the built-in rules, has no
missing terminator.  Its issues are those of the old report without the missing terminators, in
their order and in their lines.  The number of lines, the complexity and the share of comment lines
stay as they are.
-/
theorem RuleBook.review_terminated (source : String) :
    linesOf (terminated source) = (linesOf source).mapIdx (fun i line =>
      if (builtin.review source).flags .missingTerminator (i + 1) then trim line ++ [';']
      else line) ∧
    (builtin.review (terminated source)).issues.any Rule.missingTerminator.reports = false ∧
    (builtin.review (terminated source)).issues =
      (builtin.review source).issues.filter (fun i => !Rule.missingTerminator.reports i) ∧
    (builtin.review (terminated source)).metrics.lines = (builtin.review source).metrics.lines ∧
    (builtin.review (terminated source)).metrics.complexity =
      (builtin.review source).metrics.complexity ∧
    commentRatio (linesOf (terminated source)) = commentRatio (linesOf source) := by
  have hlines : linesOf (terminated source) = (linesOf source).map terminate := by
    rw [linesOf_terminated, terminatedLines_eq_map]
  have hissues : (builtin.review (terminated source)).issues =
      (builtin.review source).issues.filter fun i => !Rule.missingTerminator.reports i := by
    rw [review_issues, review_issues, hlines, scan_terminate]
  have hmetrics : ∀ text, (builtin.review text).metrics = metricsOf text :=
    fun text => review_metrics _ text
  refine ⟨linesOf_terminated source, ?_, hissues, ?_, ?_, ?_⟩
  · rw [hissues]
    simp
  · rw [hmetrics, hmetrics]
    simp only [metricsOf, Metrics.ofCounts, hlines, List.length_map]
  · rw [hmetrics, hmetrics]
    exact complexity_terminated source
  · rw [hlines, commentRatio_terminate]

/-- A terminator can end the head of a function, so that the number of functions is not kept. -/
example : terminated "let f =\n(a) => \x7b\n\x7d" = "let f =;\n(a) => \x7b\n\x7d" ∧
    functionCount "let f =\n(a) => \x7b\n\x7d".toList = 1 ∧
    functionCount "let f =;\n(a) => \x7b\n\x7d".toList = 0 := by
  refine ⟨?_, ?_, ?_⟩
  · decide +kernel
  · cbv
  · cbv

end ScriptReview
