import ScriptReview.Proofs.Text.Trim
import ScriptReview.Text.Search

/-!
# Gaps between the parts of a text

A gap is a longest stretch of blanks.  Two texts have the same parts when they differ in the lengths
and the characters of their gaps only, which is to say that they have one form with single spaces
for gaps.

Main definitions:

* `Text.collapse` puts a single space in the place of every gap.

Main results:

* `Text.collapse_dropWhile_of_blank` and `Text.collapse_dropWhile_of_not_blank` say that skipping
  characters of a set commutes with collapsing when the set holds all blanks or none.
* `Text.collapse_joinWith_lineFeed` says that between two line feeds a text and its trimmed lines
  have one collapsed form.
-/

namespace ScriptReview
namespace Text

/-- A text with a single space for every gap.  The flag says whether the text goes on inside a gap
whose space is already there. -/
def collapseFrom : Bool → List Char → List Char
  | _, [] => []
  | inGap, c :: cs =>
    if isBlank c then (if inGap then [] else [' ']) ++ collapseFrom true cs
    else c :: collapseFrom false cs

/-- A text with a single space for every gap. -/
def collapse (cs : List Char) : List Char :=
  collapseFrom false cs

@[simp]
theorem collapse_nil : collapse [] = [] :=
  rfl

/-- A character that is no blank is kept. -/
theorem collapse_cons_of_not_blank {c : Char} (hc : isBlank c = false) (cs : List Char) :
    collapse (c :: cs) = c :: collapse cs := by
  simp [collapse, collapseFrom, hc]

/-- A blank begins a gap. -/
theorem collapse_cons_of_blank {c : Char} (hc : isBlank c = true) (cs : List Char) :
    collapse (c :: cs) = ' ' :: collapseFrom true cs := by
  simp [collapse, collapseFrom, hc]

/-- The rest of a gap adds nothing. -/
theorem collapseFrom_true (cs : List Char) :
    collapseFrom true cs = collapse (cs.dropWhile isBlank) := by
  induction cs with
  | nil => rfl
  | cons c cs ih =>
      cases hc : isBlank c with
      | true => simpa [collapseFrom, hc] using ih
      | false => simp [collapse, collapseFrom, hc]

/-- A part without blanks is kept as it is. -/
theorem collapse_append {part : List Char} (h : ∀ c ∈ part, isBlank c = false) (cs : List Char) :
    collapse (part ++ cs) = part ++ collapse cs := by
  induction part with
  | nil => rfl
  | cons c part ih =>
      have hc : isBlank c = false := h c List.mem_cons_self
      have hpart : ∀ d ∈ part, isBlank d = false := fun d hd => h d (List.mem_cons_of_mem c hd)
      rw [List.cons_append, collapse_cons_of_not_blank hc, ih hpart, List.cons_append]

/-! ## Reading a collapsed text -/

/-- A part without blanks begins a text exactly when it begins its collapsed form. -/
theorem isPrefixOf_collapse {part : List Char} (h : ∀ c ∈ part, isBlank c = false)
    (cs : List Char) : part.isPrefixOf (collapse cs) = part.isPrefixOf cs := by
  induction part generalizing cs with
  | nil => simp
  | cons d part ih =>
      have hd : isBlank d = false := h d List.mem_cons_self
      have hpart : ∀ c ∈ part, isBlank c = false := fun c hc => h c (List.mem_cons_of_mem d hc)
      cases cs with
      | nil => rfl
      | cons c cs =>
          cases hc : isBlank c with
          | false => rw [collapse_cons_of_not_blank hc, List.isPrefixOf_cons_cons,
              List.isPrefixOf_cons_cons, ih hpart]
          | true =>
              have hspace : d ≠ ' ' := by
                rintro rfl
                simp [isBlank_space] at hd
              have hblank : d ≠ c := by
                rintro rfl
                simp [hc] at hd
              rw [collapse_cons_of_blank hc, List.isPrefixOf_cons_cons,
                List.isPrefixOf_cons_cons, beq_false_of_ne hspace, beq_false_of_ne hblank,
                Bool.false_and, Bool.false_and]

/-- Skipping a set without blanks commutes with collapsing. -/
theorem collapse_dropWhile_of_not_blank {set : Char → Bool}
    (hset : ∀ c, isBlank c = true → set c = false) (cs : List Char) :
    collapse (cs.dropWhile set) = (collapse cs).dropWhile set := by
  induction cs with
  | nil => rfl
  | cons c cs ih =>
      cases hc : isBlank c with
      | true =>
          have hstop : set c = false := hset c hc
          have hspace : set ' ' = false := hset ' ' isBlank_space
          rw [collapse_cons_of_blank hc, List.dropWhile_cons_of_neg (by simp [hstop]),
            List.dropWhile_cons_of_neg (by simp [hspace]), collapse_cons_of_blank hc]
      | false =>
          rw [collapse_cons_of_not_blank hc]
          cases hin : set c with
          | true => simpa [hin] using ih
          | false => simp [hin, collapse_cons_of_not_blank hc]

/-- Skipping a set with all blanks ends at one place, whether it begins inside a gap or not. -/
theorem dropWhile_collapseFrom {set : Char → Bool}
    (hset : ∀ c, isBlank c = true → set c = true) (inGap : Bool) (cs : List Char) :
    (collapseFrom inGap cs).dropWhile set = collapse (cs.dropWhile set) := by
  induction cs generalizing inGap with
  | nil => rfl
  | cons c cs ih =>
      cases hc : isBlank c with
      | true =>
          have hin : set c = true := hset c hc
          have hspace : set ' ' = true := hset ' ' isBlank_space
          cases inGap <;> simp [collapseFrom, hc, hin, hspace, ih]
      | false =>
          cases hin : set c with
          | true => simp [collapseFrom, hc, hin, ih]
          | false => simp [collapseFrom, collapse, hc, hin]

/-- Skipping a set with all blanks commutes with collapsing. -/
theorem collapse_dropWhile_of_blank {set : Char → Bool}
    (hset : ∀ c, isBlank c = true → set c = true) (cs : List Char) :
    collapse (cs.dropWhile set) = (collapse cs).dropWhile set :=
  (dropWhile_collapseFrom hset false cs).symm

/-- A text and its collapsed form begin with a member of a set, or neither does, when the set holds
all blanks or none. -/
theorem head?_any_collapse {set : Char → Bool} {b : Bool}
    (hset : ∀ c, isBlank c = true → set c = b) (cs : List Char) :
    (collapse cs).head?.any set = cs.head?.any set := by
  cases cs with
  | nil => rfl
  | cons c cs =>
      cases hc : isBlank c with
      | false => simp [collapse_cons_of_not_blank hc]
      | true => simp [collapse_cons_of_blank hc, hset c hc, hset ' ' isBlank_space]

/-! ## Lines -/

/-- Blanks that continue a gap add nothing. -/
theorem collapseFrom_true_append {blanks : List Char} (h : ∀ c ∈ blanks, isBlank c = true)
    (cs : List Char) : collapseFrom true (blanks ++ cs) = collapseFrom true cs := by
  rw [collapseFrom_true, collapseFrom_true, List.dropWhile_append_of_pos h]

/-- After a line feed only the rest of its gap matters. -/
theorem collapseFrom_append_congr {rest rest' : List Char}
    (h : collapseFrom true rest = collapseFrom true rest') (inGap : Bool) (cs : List Char) :
    collapseFrom inGap (cs ++ '\n' :: rest) = collapseFrom inGap (cs ++ '\n' :: rest') := by
  induction cs generalizing inGap with
  | nil => simp [collapseFrom, isBlank_lineFeed, h]
  | cons c cs ih => simp [collapseFrom, ih]

/-- Blanks before a line feed belong to its gap. -/
theorem collapseFrom_append_blanks {blanks : List Char} (h : ∀ c ∈ blanks, isBlank c = true)
    (inGap : Bool) (cs rest : List Char) :
    collapseFrom inGap (cs ++ (blanks ++ '\n' :: rest)) =
      collapseFrom inGap (cs ++ '\n' :: rest) := by
  induction cs generalizing inGap with
  | nil =>
      cases blanks with
      | nil => rfl
      | cons b bs =>
          have hb : isBlank b = true := h b List.mem_cons_self
          have hbs : ∀ c ∈ bs, isBlank c = true := fun c hc => h c (List.mem_cons_of_mem b hc)
          simp [collapseFrom, hb, isBlank_lineFeed, collapseFrom_true_append hbs]
  | cons c cs ih => simp [collapseFrom, ih]

/-- Inside a gap, a line and its trimmed form go on in the same way. -/
theorem collapseFrom_true_trim (line rest : List Char) :
    collapseFrom true (trim line ++ '\n' :: rest) = collapseFrom true (line ++ '\n' :: rest) := by
  obtain ⟨before, after, hbefore, hafter, hsplit⟩ := exists_eq_append_trim line
  calc
    collapseFrom true (trim line ++ '\n' :: rest)
    _ = collapseFrom true (trim line ++ (after ++ '\n' :: rest)) :=
      (collapseFrom_append_blanks hafter true _ _).symm
    _ = collapseFrom true (before ++ (trim line ++ (after ++ '\n' :: rest))) :=
      (collapseFrom_true_append hbefore _).symm
    _ = collapseFrom true (before ++ trim line ++ after ++ '\n' :: rest) := by
      simp only [List.append_assoc]
    _ = collapseFrom true (line ++ '\n' :: rest) := by rw [← hsplit]

/-- Between two line feeds, a text and its trimmed lines have one collapsed form. -/
theorem collapse_joinWith_lineFeed (lines : List (List Char)) :
    collapse ('\n' :: (joinWith '\n' (lines.map trim) ++ ['\n'])) =
      collapse ('\n' :: (joinWith '\n' lines ++ ['\n'])) := by
  rw [collapse_cons_of_blank isBlank_lineFeed, collapse_cons_of_blank isBlank_lineFeed]
  congr 1
  induction lines with
  | nil => rfl
  | cons line rest ih =>
      cases rest with
      | nil => exact collapseFrom_true_trim line []
      | cons next rest =>
          simp only [List.map_cons, joinWith_cons_cons, List.append_assoc, List.cons_append] at ih ⊢
          rw [collapseFrom_true_trim]
          exact collapseFrom_append_congr ih true line

end Text
end ScriptReview
