import Mathlib.Data.List.Basic
import ScriptReview.Proofs.Review.Lines

/-!
# Reviews of joined texts

When two texts are joined by a line feed, every line keeps its issues.  Those of the second text move
down by the number of lines of the first, and only the last line of the first text sees something
new: the first line of the second.

Main definitions:

* `Rule.looksAhead` tells the rule that reads the line after a line.
* `Issue.shift` moves an issue down by a number of lines.

Main results:

* `RuleBook.scan_append` splits the issues of joined lists of lines.
* `viewAt?_set_of_ne` says what a changed line changes in what the rules see.
* `RuleBook.review_joined_issues` gives the issues of a joined text, and says which issues a changed
  line can change.
-/

namespace ScriptReview

open Text (trim)

/-! ## Looking ahead -/

namespace Rule

/-- Whether a rule reads the line after a line.  Only the rule for empty catch blocks does. -/
def looksAhead : Rule → Bool
  | .emptyCatch => true
  | _ => false

/-- What a rule finds does not depend on the next line when the rule does not look ahead. -/
theorem check_next {r : Rule} (h : r.looksAhead = false) (n : Nat) (line : List Char)
    (next next' : Option (List Char)) : r.check ⟨n, line, next⟩ = r.check ⟨n, line, next'⟩ := by
  cases r with
  | emptyCatch => simp [looksAhead] at h
  | debugPrint => rfl
  | looseDeclaration => rfl
  | looseEquality => rfl
  | missingTerminator => rfl
  | pattern rule => rfl

/-- A rule that looks ahead finds nothing where no line follows. -/
theorem check_last {r : Rule} (h : r.looksAhead = true) (n : Nat) (line : List Char) :
    r.check ⟨n, line, none⟩ = none := by
  cases r with
  | emptyCatch => simp [check, fires]
  | debugPrint => simp [looksAhead] at h
  | looseDeclaration => simp [looksAhead] at h
  | looseEquality => simp [looksAhead] at h
  | missingTerminator => simp [looksAhead] at h
  | pattern rule => simp [looksAhead] at h

/-- What a rule finds in a line once another line follows: a rule that looks ahead finds a catch
before a closing brace, and the others find what they found before. -/
theorem check_followed (r : Rule) (n : Nat) (line next : List Char) :
    r.check ⟨n, line, some next⟩ =
      if r.looksAhead then
        if Text.contains "catch".toList line && next == ['\x7d'] then some (r.issueAt n) else none
      else r.check ⟨n, line, none⟩ := by
  cases hahead : r.looksAhead with
  | false => exact check_next hahead n line (some next) none
  | true =>
      cases r with
      | emptyCatch => rfl
      | debugPrint => simp [looksAhead] at hahead
      | looseDeclaration => simp [looksAhead] at hahead
      | looseEquality => simp [looksAhead] at hahead
      | missingTerminator => simp [looksAhead] at hahead
      | pattern rule => simp [looksAhead] at hahead

end Rule

/-! ## Moving down -/

/-- An issue that is moved down by a number of lines. -/
def Issue.shift (m : Nat) (i : Issue) : Issue :=
  { i with line := i.line.map (m + ·) }

/-- What is seen of a line that is moved down by a number of lines. -/
def LineView.shift (m : Nat) (view : LineView) : LineView :=
  { view with number := m + view.number }

/-- A rule finds the same in a line that is moved down. -/
theorem Rule.check_shift (r : Rule) (m : Nat) (view : LineView) :
    r.check (view.shift m) = (r.check view).map (Issue.shift m) := by
  cases hfires : r.fires view.line view.next with
  | true => simp [check, LineView.shift, Issue.shift, issueAt, hfires]
  | false => simp [check, LineView.shift, hfires]

/-- Lines before the last one see the same when lines are added at the end. -/
theorem viewAt?_append_left {lines : List (List Char)} {i : Nat} (h : i + 1 < lines.length)
    (others : List (List Char)) :
    viewAt? (lines ++ others) (i + 1) = viewAt? lines (i + 1) := by
  simp only [viewAt?]
  rw [List.getElem?_append_left h, List.getElem?_append_left (Nat.lt_of_succ_lt h)]

/-- Lines see the same, moved down, when lines are added at the beginning. -/
theorem viewAt?_append_right (lines others : List (List Char)) (i : Nat) :
    viewAt? (lines ++ others) (lines.length + i + 1) =
      (viewAt? others (i + 1)).map (LineView.shift lines.length) := by
  simp only [viewAt?, Option.map_map]
  rw [List.getElem?_append_right (by omega), List.getElem?_append_right (by omega),
    Nat.add_sub_cancel_left, Nat.add_assoc, Nat.add_sub_cancel_left]
  rfl

/-- A rule finds the same, moved down, when lines are added at the beginning. -/
theorem Rule.findIn_append_right (r : Rule) (lines others : List (List Char)) (i : Nat) :
    r.findIn (lines ++ others) (lines.length + i + 1) =
      (r.findIn others (i + 1)).map (Issue.shift lines.length) := by
  rw [findIn, findIn, viewAt?_append_right]
  cases viewAt? others (i + 1) with
  | none => rfl
  | some view => exact r.check_shift lines.length view

namespace RuleBook

/-- The issues of the first lines of a text, each under the lines that follow it there. -/
def issuesUpTo (book : RuleBook) (lines : List (List Char)) (m : Nat) : List Issue :=
  (List.range m).flatMap fun i => book.rules.filterMap (·.findIn lines (i + 1))

/-- One line more adds what the rules find in it. -/
theorem issuesUpTo_succ (book : RuleBook) (lines : List (List Char)) (m : Nat) :
    book.issuesUpTo lines (m + 1) =
      book.issuesUpTo lines m ++ book.rules.filterMap (·.findIn lines (m + 1)) := by
  rw [issuesUpTo, List.range_succ, List.flatMap_append, List.flatMap_singleton]
  rfl

/-- The issues of joined lists of lines are those of the first lines, read before the second, and
those of the second, moved down. -/
theorem scan_append (book : RuleBook) (lines others : List (List Char)) :
    book.scan (lines ++ others) =
      book.issuesUpTo (lines ++ others) lines.length ++
        (book.scan others).map (Issue.shift lines.length) := by
  rw [scan_eq_flatMap, scan_eq_flatMap, List.length_append, List.range_add, List.flatMap_append,
    List.map_flatMap, List.flatMap_map]
  congr 2
  funext i
  rw [List.map_filterMap]
  congr 1
  funext r
  exact r.findIn_append_right lines others i

/-- The lines before the last one keep their issues when lines are added at the end. -/
theorem issuesUpTo_append (book : RuleBook) (before : List (List Char)) (last : List Char)
    (others : List (List Char)) :
    book.issuesUpTo (before ++ [last] ++ others) before.length =
      book.issuesUpTo (before ++ [last]) before.length := by
  unfold issuesUpTo
  apply List.flatMap_congr
  intro i hi
  have hlt : i + 1 < (before ++ [last]).length := by
    rw [List.length_append, List.length_singleton]
    have := List.mem_range.mp hi
    omega
  simp only [Rule.findIn, viewAt?_append_left hlt]

/-- Every issue of the first lines is in one of them. -/
theorem line_of_mem_issuesUpTo {book : RuleBook} {lines : List (List Char)} {m : Nat} {i : Issue}
    (h : i ∈ book.issuesUpTo lines m) : ∃ n, 1 ≤ n ∧ n ≤ m ∧ i.line = some n := by
  obtain ⟨j, hj, hi⟩ := List.mem_flatMap.mp h
  obtain ⟨r, -, hr⟩ := List.mem_filterMap.mp hi
  exact ⟨j + 1, Nat.succ_pos j, List.mem_range.mp hj, Rule.line_of_findIn hr⟩

/-- What the rules find in a last line: nothing follows it. -/
theorem filterMap_findIn_last (book : RuleBook) (before : List (List Char)) (last : List Char) :
    book.rules.filterMap (·.findIn (before ++ [last]) (before.length + 1)) =
      book.rules.filterMap (·.check ⟨before.length + 1, trim last, none⟩) := by
  simp only [Rule.findIn, viewAt?_append_cons, Option.bind_some]
  rfl

/-- What the rules find in a line that another follows. -/
theorem filterMap_findIn_followed (book : RuleBook) (before : List (List Char))
    (line next : List Char) (rest : List (List Char)) :
    book.rules.filterMap (·.findIn (before ++ line :: next :: rest) (before.length + 1)) =
      book.rules.filterMap (·.check ⟨before.length + 1, trim line, some (trim next)⟩) := by
  simp only [Rule.findIn, viewAt?_append_cons, Option.bind_some]
  rfl

/-- The issues of a text end with those of its last line. -/
theorem scan_append_singleton (book : RuleBook) (before : List (List Char)) (last : List Char) :
    book.scan (before ++ [last]) =
      book.issuesUpTo (before ++ [last]) before.length ++
        book.rules.filterMap (·.check ⟨before.length + 1, trim last, none⟩) := by
  have hscan : book.scan (before ++ [last]) =
      book.issuesUpTo (before ++ [last]) (before.length + 1) := by
    rw [scan_eq_flatMap, List.length_append, List.length_singleton]
    rfl
  rw [hscan, issuesUpTo_succ, filterMap_findIn_last]

/-- Where two lists of lines meet, the last line of the first sees the first line of the second, and
nothing else changes. -/
theorem scan_append_cons (book : RuleBook) (before : List (List Char)) (last next : List Char)
    (rest : List (List Char)) :
    book.scan (before ++ [last] ++ next :: rest) =
      book.issuesUpTo (before ++ [last]) before.length ++
        book.rules.filterMap (·.check ⟨before.length + 1, trim last, some (trim next)⟩) ++
        (book.scan (next :: rest)).map (Issue.shift (before.length + 1)) := by
  have hlength : (before ++ [last]).length = before.length + 1 := by
    rw [List.length_append, List.length_singleton]
  rw [scan_append, hlength, issuesUpTo_succ, issuesUpTo_append, List.append_assoc before,
    List.singleton_append, filterMap_findIn_followed]

end RuleBook

/-! ## Changing a line -/

/-- What the rules see of a line changes with that line and the next one only. -/
theorem viewAt?_set_of_ne (lines : List (List Char)) (line : List Char) {i j : Nat}
    (hline : j ≠ i) (hnext : j + 1 ≠ i) :
    viewAt? (lines.set i line) (j + 1) = viewAt? lines (j + 1) := by
  simp only [viewAt?]
  rw [List.getElem?_set_ne (Ne.symm hnext), List.getElem?_set_ne (Ne.symm hline)]

/-- A rule that does not look ahead finds the same in a line while that line does not change. -/
theorem Rule.findIn_set_of_ne {r : Rule} (h : r.looksAhead = false) (lines : List (List Char))
    (line : List Char) {i j : Nat} (hline : j ≠ i) :
    r.findIn (lines.set i line) (j + 1) = r.findIn lines (j + 1) := by
  simp only [findIn, viewAt?]
  rw [List.getElem?_set_ne (Ne.symm hline)]
  cases lines[j]? with
  | none => rfl
  | some present => exact check_next h _ _ _ _

namespace RuleBook

/-- The issues of two texts that a line feed joins are those of the first text, where the last line
gains an issue at the place of each rule that looks ahead if the texts meet in an empty catch block,
and those of the second text, moved down by the lines of the first.  When one line of a text changes,
the issues of other lines stay as they are, except that in the line before it a rule that looks ahead
can find something else. -/
theorem review_joined_issues (book : RuleBook) (source source' : String) :
    (∃ earlier last next,
      (linesOf source).getLast? = some last ∧ (linesOf source').head? = some next ∧
      (∀ i ∈ earlier, ∃ n, 1 ≤ n ∧ n < (linesOf source).length ∧ i.line = some n) ∧
      (∀ r : Rule, r.looksAhead = true →
        r.check ⟨(linesOf source).length, trim last, none⟩ = none) ∧
      (book.review source).issues =
        earlier ++ book.rules.filterMap (·.check ⟨(linesOf source).length, trim last, none⟩) ∧
      (book.review (source ++ "\n" ++ source')).issues =
        earlier ++
          book.rules.filterMap (fun r =>
            if r.looksAhead then
              if Text.contains "catch".toList (trim last) && trim next == ['\x7d'] then
                some (r.issueAt (linesOf source).length)
              else none
            else r.check ⟨(linesOf source).length, trim last, none⟩) ++
          (book.review source').issues.map (Issue.shift (linesOf source).length)) ∧
      ∀ changed i line, linesOf changed = (linesOf source).set i line → ∀ n, n ≠ i + 1 →
        (n ≠ i → issuesOn n (book.review changed).issues = issuesOn n (book.review source).issues) ∧
        issuesOn n (book.review source).issues =
          book.rules.filterMap (·.findIn (linesOf source) n) ∧
        issuesOn n (book.review changed).issues =
          book.rules.filterMap (·.findIn (linesOf changed) n) ∧
        ∀ r : Rule, r.looksAhead = false →
          r.findIn (linesOf changed) n = r.findIn (linesOf source) n := by
  constructor
  · obtain hnil | ⟨before, last, hlines⟩ := List.eq_nil_or_concat' (linesOf source)
    · exact absurd hnil (Text.splitAt_ne_nil '\n' source.toList)
    obtain ⟨next, rest, hlines'⟩ :=
      List.exists_cons_of_ne_nil (Text.splitAt_ne_nil '\n' source'.toList)
    have hlength : (linesOf source).length = before.length + 1 := by
      rw [hlines, List.length_append, List.length_singleton]
    have hjoined : linesOf (source ++ "\n" ++ source') = before ++ [last] ++ next :: rest := by
      rw [linesOf_append, hlines, linesOf, hlines']
    refine ⟨book.issuesUpTo (linesOf source) before.length, last, next, ?_, ?_, ?_, ?_, ?_, ?_⟩
    · rw [hlines, List.getLast?_concat]
    · rw [linesOf, hlines', List.head?_cons]
    · intro i hi
      obtain ⟨n, hpos, hle, hi⟩ := line_of_mem_issuesUpTo hi
      exact ⟨n, hpos, by omega, hi⟩
    · intro r hr
      exact Rule.check_last hr _ _
    · rw [review_issues, hlength, hlines, scan_append_singleton]
    · simp only [← Rule.check_followed]
      rw [review_issues, review_issues, hjoined, scan_append_cons, hlength, hlines]
      rw [linesOf, hlines']
  · intro changed i line hchanged n hn
    refine ⟨?_, book.issuesOn_scan _ n, book.issuesOn_scan _ n, ?_⟩
    · intro hnext
      simp only [review_issues, issuesOn_scan, hchanged]
      cases n with
      | zero => rfl
      | succ j =>
          have hline : j ≠ i := fun hji => hn (congrArg Nat.succ hji)
          simp only [Rule.findIn, viewAt?_set_of_ne _ _ hline hnext]
    · intro r hr
      rw [hchanged]
      cases n with
      | zero => rfl
      | succ j =>
          have hline : j ≠ i := fun hji => hn (congrArg Nat.succ hji)
          exact Rule.findIn_set_of_ne hr _ _ hline

/-- When a catch block is emptied, the line after its end has the issues that it had. -/
theorem review_joined_issues_of_emptied_catch :
    linesOf "catch \x7b\n\x7d\nvar x" =
        (linesOf "catch \x7b\nf();\nvar x").set 1 ['\x7d'] ∧
      issuesOn 3 (builtin.review "catch \x7b\n\x7d\nvar x").issues =
        issuesOn 3 (builtin.review "catch \x7b\nf();\nvar x").issues := by
  have hlines : linesOf "catch \x7b\n\x7d\nvar x" =
      (linesOf "catch \x7b\nf();\nvar x").set 1 ['\x7d'] := by
    decide
  have hchange := (review_joined_issues builtin "catch \x7b\nf();\nvar x" "").2 _ 1 _ hlines
  exact ⟨hlines, (hchange 3 (by decide)).1 (by decide)⟩

end RuleBook
end ScriptReview
