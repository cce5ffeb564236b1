import ScriptReview.Review.Analyzer

/-!
# Issues line by line

A rule book finds its issues in one pass over the lines of a text.  What it reports for a line is
what its rules find in that line, one after the other, and this depends on nothing but the trimmed
line and the trimmed line after it.

Main definitions:

* `viewAt?` is what the rules see of the line with a number.
* `Rule.findIn` is what one rule finds in that line.
* `issuesOn` selects the issues of the line with a number.

Main results:

* `RuleBook.scan_eq_flatMap` gives the issues of a scan as one list over the line numbers.
* `RuleBook.issuesOn_scan` gives the issues of one line rule by rule.
* `RuleBook.scan_congr` says that a scan depends on the trimmed lines only.
-/

namespace ScriptReview

/-- What the rules see of the line with a number, counted from one, if there is such a line. -/
def viewAt? (lines : List (List Char)) : Nat → Option LineView
  | 0 => none
  | i + 1 => lines[i]?.map fun line => ⟨i + 1, Text.trim line, lines[i + 1]?.map Text.trim⟩

/-- What a rule finds in the line with a number, if anything. -/
def Rule.findIn (lines : List (List Char)) (n : Nat) (r : Rule) : Option Issue :=
  (viewAt? lines n).bind r.check

/-- The issues of the line with a number. -/
def issuesOn (n : Nat) (issues : List Issue) : List Issue :=
  issues.filter fun i => i.line == some n

/-! ## Lines -/

/-- Joining the lines of a text gives the text. -/
theorem joinWith_linesOf (source : String) : Text.joinWith '\n' (linesOf source) = source.toList :=
  Text.joinWith_splitAt '\n' source.toList

/-- No line has a line feed. -/
theorem not_mem_of_mem_linesOf {source : String} {line : List Char} (h : line ∈ linesOf source) :
    '\n' ∉ line :=
  Text.not_mem_of_mem_splitAt h

/-- A line feed between two texts keeps their lines apart. -/
theorem linesOf_append (source source' : String) :
    linesOf (source ++ "\n" ++ source') = linesOf source ++ linesOf source' := by
  have hchars : (source ++ "\n" ++ source').toList = source.toList ++ '\n' :: source'.toList := by
    simp
  rw [linesOf, hchars, Text.splitAt_append_cons]
  rfl

/-! ## Views -/

@[simp]
theorem viewAt?_zero (lines : List (List Char)) : viewAt? lines 0 = none :=
  rfl

/-- The view of a line holds the trimmed line and the trimmed line after it. -/
theorem viewAt?_succ (lines : List (List Char)) (i : Nat) :
    viewAt? lines (i + 1) =
      (lines.map Text.trim)[i]?.map fun line => ⟨i + 1, line, (lines.map Text.trim)[i + 1]?⟩ := by
  simp [viewAt?, Function.comp_def]

/-- A view exists exactly for the numbers of lines. -/
theorem viewAt?_eq_none {lines : List (List Char)} {n : Nat} (h : lines.length < n) :
    viewAt? lines n = none := by
  obtain ⟨i, rfl⟩ := Nat.exists_eq_add_of_lt h
  simp [viewAt?]

/-- What a rule sees in the middle of a text is what the scan shows it there. -/
theorem viewAt?_append_cons (before : List (List Char)) (line : List Char)
    (rest : List (List Char)) :
    viewAt? (before ++ line :: rest) (before.length + 1) =
      some (RuleBook.viewOf (before.length + 1) line rest) := by
  have hnext : (before ++ line :: rest)[before.length + 1]? = rest.head? := by
    rw [List.getElem?_append_right (Nat.le_add_right _ _), Nat.add_sub_cancel_left,
      List.getElem?_cons_succ, List.head?_eq_getElem?]
  simp [viewAt?, RuleBook.viewOf, hnext]

/-! ## What rules find -/

namespace Rule

/-- The issue that a rule finds in a line has the number of the line. -/
theorem line_of_findIn {lines : List (List Char)} {n : Nat} {r : Rule} {i : Issue}
    (h : r.findIn lines n = some i) : i.line = some n := by
  obtain ⟨view, hview, hcheck⟩ := Option.bind_eq_some_iff.mp h
  obtain ⟨-, rfl⟩ := (check_eq_some_iff r view i).mp hcheck
  cases n with
  | zero => simp at hview
  | succ n =>
      obtain ⟨line, -, rfl⟩ := Option.map_eq_some_iff.mp hview
      rfl

end Rule

namespace RuleBook

/-- The issues of the lines that remain, listed by the numbers of the lines. -/
theorem scanFrom_eq_flatMap (book : RuleBook) (before rest : List (List Char)) :
    book.scanFrom (before.length + 1) rest =
      (List.range' before.length rest.length).flatMap fun i =>
        book.rules.filterMap (·.findIn (before ++ rest) (i + 1)) := by
  induction rest generalizing before with
  | nil => rfl
  | cons line rest ih =>
      have hrest := ih (before ++ [line])
      rw [List.length_append, List.length_singleton, List.append_assoc, List.singleton_append]
        at hrest
      rw [scanFrom_cons, hrest, List.length_cons, List.range'_succ, List.flatMap_cons]
      congr 1
      simp only [issuesAt, Rule.findIn, viewAt?_append_cons, Option.bind_some]

/-- The issues of a scan are those of the lines in their order, and in each line those of the rules
in their order. -/
theorem scan_eq_flatMap (book : RuleBook) (lines : List (List Char)) :
    book.scan lines =
      (List.range lines.length).flatMap fun i =>
        book.rules.filterMap (·.findIn lines (i + 1)) := by
  rw [scan, List.range_eq_range']
  exact book.scanFrom_eq_flatMap [] lines

/-- A scan depends on the trimmed lines only. -/
theorem scan_congr (book : RuleBook) {lines lines' : List (List Char)}
    (h : lines.map Text.trim = lines'.map Text.trim) : book.scan lines = book.scan lines' := by
  have hlength : lines.length = lines'.length := by
    have hmapped := congrArg List.length h
    rwa [List.length_map, List.length_map] at hmapped
  have hview : ∀ i, viewAt? lines (i + 1) = viewAt? lines' (i + 1) := by
    intro i
    rw [viewAt?_succ, viewAt?_succ, h]
  simp only [scan_eq_flatMap, hlength, Rule.findIn, hview]

end RuleBook

/-! ## Selecting a line -/

/-- Of what the rules find in one line, all is selected for that line and nothing for others. -/
theorem issuesOn_filterMap_findIn (rules : List Rule) (lines : List (List Char)) (n m : Nat) :
    issuesOn n (rules.filterMap (·.findIn lines m)) =
      if m = n then rules.filterMap (·.findIn lines n) else [] := by
  unfold issuesOn
  split
  · rename_i hmn
    subst hmn
    rw [List.filter_eq_self]
    intro i hi
    obtain ⟨r, -, hr⟩ := List.mem_filterMap.mp hi
    simp [Rule.line_of_findIn hr]
  · rename_i hmn
    rw [List.filter_eq_nil_iff]
    intro i hi
    obtain ⟨r, -, hr⟩ := List.mem_filterMap.mp hi
    simp [Rule.line_of_findIn hr, hmn]

/-- Of lists over a range of numbers that are empty for all numbers but one, that one is left. -/
theorem flatMap_range_ite {α : Type} (f : Nat → List α) (i m : Nat) :
    ((List.range m).flatMap fun j => if j = i then f j else []) = if i < m then f i else [] := by
  induction m with
  | zero => rfl
  | succ m ih =>
      rw [List.range_succ, List.flatMap_append, ih, List.flatMap_singleton]
      by_cases hlt : i < m
      · rw [if_pos hlt, if_neg (by omega), if_pos (by omega), List.append_nil]
      · rw [if_neg hlt, List.nil_append]
        by_cases heq : m = i
        · rw [if_pos heq, if_pos (by omega), heq]
        · rw [if_neg heq, if_neg (by omega)]

namespace RuleBook

/-- The issues of one line are what the rules find in it, in their order. -/
theorem issuesOn_scan (book : RuleBook) (lines : List (List Char)) (n : Nat) :
    issuesOn n (book.scan lines) = book.rules.filterMap (·.findIn lines n) := by
  have hselect : issuesOn n (book.scan lines) =
      (List.range lines.length).flatMap fun i =>
        if i + 1 = n then book.rules.filterMap (·.findIn lines n) else [] := by
    rw [scan_eq_flatMap, issuesOn, List.filter_flatMap]
    congr 1
    funext i
    exact issuesOn_filterMap_findIn book.rules lines n (i + 1)
  have hnone : viewAt? lines n = none → book.rules.filterMap (·.findIn lines n) = [] := by
    intro hview
    simp [Rule.findIn, hview]
  rw [hselect]
  cases n with
  | zero =>
      rw [hnone rfl, List.flatMap_eq_nil_iff]
      intro i _
      exact if_neg (Nat.succ_ne_zero i)
  | succ n =>
      simp only [Nat.add_right_cancel_iff]
      rw [flatMap_range_ite]
      split
      · rfl
      · exact (hnone (viewAt?_eq_none (by omega))).symm

end RuleBook
end ScriptReview
