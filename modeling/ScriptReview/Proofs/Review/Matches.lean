import Mathlib.Data.List.Infix
import ScriptReview.Proofs.Review.Shapes

/-!
# The texts that match a shape

A shape stands for the texts that are made of texts of its pieces.  A matcher that takes as much as
it can finds them all if no text can be read in two ways, and then it counts the texts of the shape
from left to right, each behind the end of the one before.

Main definitions:

* `Piece.Covers` and `Shape.Covers` relate pieces and shapes to the texts that they stand for.
* `Shape.Determinate` says that no text of a shape can be read in two ways.
* `Shape.Begins` and `Shape.StandsIn` say where a text of a shape stands.

Main results:

* `Shape.after?_eq_some_iff` says that the longest match of a determinate shape is its only one.
* `Shape.count_append_of_covers` and `Shape.count_cons_of_not_begins` say which texts are counted.
-/

namespace ScriptReview

/-! ## The texts of a shape -/

namespace Piece

/-- The texts of a piece: its words, or the stretches of characters of its set. -/
def Covers : Piece → List Char → Prop
  | .word choices, cs => cs ∈ choices
  | .some set, cs => cs ≠ [] ∧ ∀ c ∈ cs, set c = true
  | .any set, cs => ∀ c ∈ cs, set c = true

/-- No text of a piece has a character in it. -/
def Lacks (c : Char) : Piece → Prop
  | .word choices => ∀ w ∈ choices, c ∉ w
  | .some set => set c = false
  | .any set => set c = false

instance (c : Char) : (p : Piece) → Decidable (p.Lacks c)
  | .word choices => inferInstanceAs (Decidable (∀ w ∈ choices, c ∉ w))
  | .some set => inferInstanceAs (Decidable (set c = false))
  | .any set => inferInstanceAs (Decidable (set c = false))

/-- A character that a piece lacks stands in none of its texts. -/
theorem Lacks.not_mem {p : Piece} {c : Char} {cs : List Char} (h : p.Lacks c)
    (hcovers : p.Covers cs) : c ∉ cs := by
  intro hc
  cases p with
  | word choices => exact h cs hcovers hc
  | some set =>
      have hset : set c = true := hcovers.2 c hc
      exact Bool.noConfusion (hset.symm.trans h)
  | any set =>
      have hset : set c = true := hcovers c hc
      exact Bool.noConfusion (hset.symm.trans h)

/-- What a piece takes is one of its texts. -/
theorem exists_covers_of_after? {p : Piece} {cs rest : List Char}
    (h : after? cs p = Option.some rest) : ∃ first, p.Covers first ∧ cs = first ++ rest := by
  cases p with
  | word choices => exact exists_of_afterWord? h
  | some set =>
      simp only [after?] at h
      split at h
      · rename_i hhead
        have hrest : cs.dropWhile set = rest := Option.some.inj h
        refine ⟨cs.takeWhile set, ⟨?_, fun c hc => List.mem_takeWhile_imp hc⟩, ?_⟩
        · cases cs with
          | nil => simp at hhead
          | cons c cs => simp_all
        · rw [← hrest, List.takeWhile_append_dropWhile]
      · contradiction
  | any set =>
      have hrest : cs.dropWhile set = rest := Option.some.inj h
      refine ⟨cs.takeWhile set, fun c hc => List.mem_takeWhile_imp hc, ?_⟩
      rw [← hrest, List.takeWhile_append_dropWhile]

/-- Where no word begins another, the word that stands at the beginning of a text is taken. -/
theorem afterWord?_append {choices : List (List Char)}
    (h : choices.Pairwise fun v w => ¬ v <+: w ∧ ¬ w <+: v) {w : List Char} (hw : w ∈ choices)
    (rest : List Char) : afterWord? choices (w ++ rest) = Option.some rest := by
  induction choices with
  | nil => simp at hw
  | cons v choices ih =>
      have hpair := List.pairwise_cons.mp h
      rw [afterWord?_cons]
      rcases List.mem_cons.mp hw with rfl | hw
      · rw [if_pos (by simp), List.drop_left]
      · -- Two words at the beginning of one text would begin each other.
        have hv : ¬ v <+: w ++ rest := by
          intro hv
          rcases List.prefix_or_prefix_of_prefix hv (List.prefix_append w rest) with hvw | hwv
          · exact (hpair.1 w hw).1 hvw
          · exact (hpair.1 w hw).2 hwv
        rw [if_neg (by simpa using hv)]
        exact ih hpair.2 hw

/-- A stretch of a set ends before the first character that is not in the set. -/
theorem dropWhile_append_cons {set : Char → Bool} {cs : List Char} (h : ∀ c ∈ cs, set c = true)
    {d : Char} (hd : set d = false) (rest : List Char) :
    (cs ++ d :: rest).dropWhile set = d :: rest := by
  rw [List.dropWhile_append_of_pos h, List.dropWhile_cons_of_neg (by simp [hd])]

end Piece

namespace Shape

/-- The texts of a shape: texts of its pieces one after the other. -/
def Covers : Shape → List Char → Prop
  | [], cs => cs = []
  | p :: shape, cs => ∃ first rest, p.Covers first ∧ Covers shape rest ∧ cs = first ++ rest

/-- Every text of a shape begins with a character outside a set. -/
def Shuns (set : Char → Bool) : Shape → Prop
  | [] => False
  | .word choices :: _ => ∀ w ∈ choices, ∃ c ∈ w.head?, set c = false
  | .some other :: _ => ∀ c, other c = true → set c = false
  | .any other :: shape => (∀ c, other c = true → set c = false) ∧ Shuns set shape

/-- No word of a shape begins another one of the same piece, and a stretch of a set cannot be
longer or shorter, because what follows begins outside the set. -/
def Determinate : Shape → Prop
  | [] => True
  | .word choices :: shape =>
    (choices.Pairwise fun v w => ¬ v <+: w ∧ ¬ w <+: v) ∧ Determinate shape
  | .some set :: shape => Shuns set shape ∧ Determinate shape
  | .any set :: shape => Shuns set shape ∧ Determinate shape

/-- A text begins with a text of a shape. -/
def Begins (shape : Shape) (cs : List Char) : Prop :=
  ∃ first rest, shape.Covers first ∧ cs = first ++ rest

/-- A text of a shape stands somewhere in a text. -/
def StandsIn (shape : Shape) (cs : List Char) : Prop :=
  ∃ before, ∃ rest, shape.Begins rest ∧ cs = before ++ rest

/-- A text of a shape stands in the empty text only if the empty text is one. -/
theorem standsIn_nil_iff {shape : Shape} : shape.StandsIn [] ↔ shape.Begins [] := by
  constructor
  · rintro ⟨before, rest, hrest, hnil⟩
    have hempty : before = [] ∧ rest = [] := List.append_eq_nil_iff.mp hnil.symm
    rwa [hempty.2] at hrest
  · intro h
    exact ⟨[], [], h, rfl⟩

/-- A text of a shape stands at the beginning of a text or behind its first character. -/
theorem standsIn_cons_iff {shape : Shape} {c : Char} {cs : List Char} :
    shape.StandsIn (c :: cs) ↔ shape.Begins (c :: cs) ∨ shape.StandsIn cs := by
  constructor
  · rintro ⟨before, rest, hrest, hsplit⟩
    cases before with
    | nil =>
        rw [List.nil_append] at hsplit
        rw [hsplit]
        exact Or.inl hrest
    | cons d before => exact Or.inr ⟨before, rest, hrest, (List.cons.inj hsplit).2⟩
  · rintro (h | ⟨before, rest, hrest, rfl⟩)
    · exact ⟨[], c :: cs, h, rfl⟩
    · exact ⟨c :: before, rest, hrest, rfl⟩

/-- The texts of two shapes one after the other are a text of the first and one of the second. -/
theorem covers_append_iff {first second : Shape} {cs : List Char} :
    (first ++ second).Covers cs ↔
      ∃ ds es, first.Covers ds ∧ second.Covers es ∧ cs = ds ++ es := by
  induction first generalizing cs with
  | nil => simp [Covers]
  | cons p first ih =>
      simp only [List.cons_append, Covers, ih]
      constructor
      · rintro ⟨a, -, ha, ⟨ds, es, hds, hes, rfl⟩, rfl⟩
        exact ⟨a ++ ds, es, ⟨a, ds, ha, hds, rfl⟩, hes, by simp⟩
      · rintro ⟨-, es, ⟨a, ds, ha, hds, rfl⟩, hes, rfl⟩
        exact ⟨a, ds ++ es, ha, ⟨ds, es, hds, hes, rfl⟩, by simp⟩

/-- A character that all pieces lack stands in no text of the shape. -/
theorem Covers.not_mem {shape : Shape} {c : Char} (h : ∀ p ∈ shape, p.Lacks c) {cs : List Char}
    (hcovers : shape.Covers cs) : c ∉ cs := by
  induction shape generalizing cs with
  | nil =>
      have hnil : cs = [] := hcovers
      simp [hnil]
  | cons p shape ih =>
      rcases hcovers with ⟨first, rest, hfirst, hrest, rfl⟩
      have hp : c ∉ first := (h p List.mem_cons_self).not_mem hfirst
      have htail : c ∉ rest := ih (fun q hq => h q (List.mem_cons_of_mem p hq)) hrest
      simp [hp, htail]

/-- A text of a shape that shuns a set begins outside the set. -/
theorem Shuns.exists_cons {set : Char → Bool} {shape : Shape} (h : Shuns set shape)
    {cs : List Char} (hcovers : shape.Covers cs) : ∃ c rest, cs = c :: rest ∧ set c = false := by
  induction shape generalizing cs with
  | nil => contradiction
  | cons p shape ih =>
      rcases hcovers with ⟨first, rest, hfirst, hrest, rfl⟩
      cases p with
      | word choices =>
          rcases h first hfirst with ⟨c, hc, hset⟩
          rcases List.head?_eq_some_iff.mp hc with ⟨first, rfl⟩
          exact ⟨c, first ++ rest, rfl, hset⟩
      | some other =>
          rcases List.exists_cons_of_ne_nil hfirst.1 with ⟨c, first, rfl⟩
          exact ⟨c, first ++ rest, rfl, h c (hfirst.2 c List.mem_cons_self)⟩
      | any other =>
          cases first with
          | nil => exact ih h.2 hrest
          | cons c first => exact ⟨c, first ++ rest, rfl, h.1 c (hfirst c List.mem_cons_self)⟩

/-- A shape shuns a set whatever follows it. -/
theorem Shuns.append {set : Char → Bool} {first : Shape} (h : Shuns set first) (second : Shape) :
    Shuns set (first ++ second) := by
  induction first with
  | nil => contradiction
  | cons p first ih =>
      cases p with
      | word choices => exact h
      | some other => exact h
      | any other => exact ⟨h.1, ih h.2⟩

/-- Two determinate shapes one after the other are determinate. -/
theorem Determinate.append {first second : Shape} (h : first.Determinate)
    (h' : second.Determinate) : Determinate (first ++ second) := by
  induction first with
  | nil => exact h'
  | cons p first ih =>
      cases p with
      | word choices => exact ⟨h.1, ih h.2⟩
      | some set => exact ⟨h.1.append second, ih h.2⟩
      | any set => exact ⟨h.1.append second, ih h.2⟩

/-- The longest match of a determinate shape is its only one: the text after it is what stands after
a text of the shape. -/
theorem after?_eq_some_iff {shape : Shape} (h : shape.Determinate) {cs rest : List Char} :
    after? shape cs = some rest ↔ ∃ first, shape.Covers first ∧ cs = first ++ rest := by
  induction shape generalizing cs with
  | nil => simp [after?, Covers]
  | cons p shape ih =>
      have hshape : Determinate shape := by
        cases p <;> exact h.2
      rw [after?_cons, Option.bind_eq_some_iff]
      constructor
      · rintro ⟨middle, hmiddle, hrest⟩
        rcases Piece.exists_covers_of_after? hmiddle with ⟨first, hfirst, rfl⟩
        rcases (ih hshape).mp hrest with ⟨second, hsecond, rfl⟩
        exact ⟨first ++ second, ⟨first, second, hfirst, hsecond, rfl⟩, by simp⟩
      · rintro ⟨_, ⟨first, second, hfirst, hsecond, rfl⟩, rfl⟩
        refine ⟨second ++ rest, ?_, (ih hshape).mpr ⟨second, hsecond, rfl⟩⟩
        rw [List.append_assoc]
        cases p with
        | word choices => exact Piece.afterWord?_append h.1 hfirst (second ++ rest)
        | some set =>
            rcases h.1.exists_cons hsecond with ⟨d, second, rfl, hd⟩
            rcases List.exists_cons_of_ne_nil hfirst.1 with ⟨c, first, rfl⟩
            have hhead : set c = true := hfirst.2 c List.mem_cons_self
            have hdrop := Piece.dropWhile_append_cons hfirst.2 hd (second ++ rest)
            simp only [List.cons_append] at hdrop ⊢
            rw [Piece.after?, if_pos (by simpa using hhead), hdrop]
        | any set =>
            rcases h.1.exists_cons hsecond with ⟨d, second, rfl, hd⟩
            exact congrArg some (Piece.dropWhile_append_cons hfirst hd (second ++ rest))

/-- A determinate shape matches nowhere but at the beginning of one of its texts. -/
theorem after?_eq_none_iff {shape : Shape} (h : shape.Determinate) {cs : List Char} :
    after? shape cs = none ↔ ¬ shape.Begins cs := by
  rw [Option.eq_none_iff_forall_ne_some]
  simp only [ne_eq, after?_eq_some_iff h, Begins]
  grind

/-! ## Leftmost matches -/

/-- A shape that ends with a word does not match the empty text. -/
theorem IgnoresGaps.after?_nil {shape : Shape} (h : shape.IgnoresGaps) : after? shape [] = none := by
  rcases h.last with ⟨choices, before, hshape⟩
  have hword : (Piece.word choices).IgnoresGaps := h.pieces _ (by simp [hshape])
  rw [hshape]
  exact after?_append_word_nil hword before

/-- Where a text of the shape stands, it is counted, and the search goes on after it. -/
theorem count_append_of_covers {shape : Shape} (hgaps : shape.IgnoresGaps)
    (h : shape.Determinate) {first : List Char} (hfirst : shape.Covers first)
    (rest : List Char) : count shape (first ++ rest) = 1 + count shape rest := by
  have hmatch : after? shape (first ++ rest) = some rest :=
    (after?_eq_some_iff h).mpr ⟨first, hfirst, rfl⟩
  cases hcs : first ++ rest with
  | nil =>
      rw [hcs, hgaps.after?_nil] at hmatch
      contradiction
  | cons c cs =>
      rw [hcs] at hmatch
      rw [count_cons hgaps, hmatch]

/-- Where no text of the shape begins, the search goes on with the next character. -/
theorem count_cons_of_not_begins {shape : Shape} (hgaps : shape.IgnoresGaps)
    (h : shape.Determinate) {c : Char} {cs : List Char} (hnot : ¬ shape.Begins (c :: cs)) :
    count shape (c :: cs) = count shape cs := by
  rw [count_cons hgaps, (after?_eq_none_iff h).mpr hnot]

/-- A stretch of text in which no text of the shape begins is passed over. -/
theorem count_append_of_not_begins {shape : Shape} (hgaps : shape.IgnoresGaps)
    (h : shape.Determinate) {cs : List Char}
    (hnot : ∀ c ∈ cs, ∀ rest, ¬ shape.Begins (c :: rest)) (rest : List Char) :
    count shape (cs ++ rest) = count shape rest := by
  induction cs with
  | nil => rfl
  | cons c cs ih =>
      have hrest := ih fun d hd => hnot d (List.mem_cons_of_mem c hd)
      rw [List.cons_append, count_cons_of_not_begins hgaps h (hnot c List.mem_cons_self _), hrest]

end Shape
end ScriptReview
