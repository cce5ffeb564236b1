import Mathlib.Data.Nat.Count
import ScriptReview.Proofs.Review.Matches

/-!
# Functions between closing brackets

A closing bracket ends at most one declaration and at most one binding, whatever stands before it.
The functions of a text are therefore counted by cutting the text at its closing brackets and
looking for the head of a function in every piece but the last.

Main definitions:

* `Shape.Bracketed` says that a shape is a head, the rest of a parameter list, and a tail.
* `HasDeclarationHead`, `HasBindingHead` and `BeginsWithArrow` describe the pieces of a text.

Main results:

* `Shape.Bracketed.count_append_bracket` and `Shape.Bracketed.count_append_bracket_of_not` say what
  the text up to a closing bracket adds to the matches.
* `functionCount_eq_count_pieces` counts functions by pieces.
-/

namespace ScriptReview

open Text (isBlank isWordChar)

namespace Shape

/-! ## Shapes with a parameter list -/

/-- The end of a parameter list: everything up to the next closing bracket. -/
def closing : Shape :=
  [.any (· != ')'), .word [[')']]]

/-- A shape is a head up to the opening bracket of a parameter list, the rest of the list, and a
tail. The closing bracket stands neither in the head nor in the tail, and the tail lacks the
characters that a head begins with. -/
structure Bracketed (shape head tail : Shape) : Prop where
  eq : shape = head ++ closing ++ tail
  gaps : shape.IgnoresGaps
  determinate : shape.Determinate
  head_lacks : ∀ p ∈ head, p.Lacks ')'
  tail_lacks : ∀ p ∈ tail, p.Lacks ')'
  first : ∃ choices rest, head = .word choices :: rest ∧
    ∀ w ∈ choices, ∃ c ∈ w.head?, ∀ p ∈ tail, p.Lacks c

/-- The end of a parameter list is a stretch without closing brackets and a closing bracket. -/
theorem covers_closing_iff {cs : List Char} :
    closing.Covers cs ↔ ∃ list, ')' ∉ list ∧ cs = list ++ [')'] := by
  constructor
  · rintro ⟨list, _, hlist, ⟨_, _, hword, rfl, rfl⟩, rfl⟩
    have hbracket := List.mem_singleton.mp hword
    refine ⟨list, fun hmem => ?_, by simp [hbracket]⟩
    simpa using hlist ')' hmem
  · rintro ⟨list, hlist, rfl⟩
    refine ⟨list, [')'], ?_, ⟨[')'], [], List.mem_singleton.mpr rfl, rfl, rfl⟩, rfl⟩
    intro c hc
    rw [bne_iff_ne]
    rintro rfl
    exact hlist hc

/-- Two texts are cut at their first bracket in one way only. -/
theorem append_cons_inj {b : Char} {first second rest left : List Char} (hfirst : b ∉ first)
    (hsecond : b ∉ second) (h : first ++ b :: rest = second ++ b :: left) :
    first = second ∧ rest = left := by
  have hfront : ∀ {cs : List Char}, b ∉ cs → ∀ c ∈ cs, (c != b) = true := by
    intro cs hcs c hc
    rw [bne_iff_ne]
    rintro rfl
    exact hcs hc
  have htake : ∀ {cs : List Char} (ds : List Char), b ∉ cs →
      (cs ++ b :: ds).takeWhile (· != b) = cs := by
    intro cs ds hcs
    rw [List.takeWhile_append_of_pos (hfront hcs), List.takeWhile_cons_of_neg (by simp),
      List.append_nil]
  have heq : first = second := by
    rw [← htake rest hfirst, h, htake left hsecond]
  subst heq
  simpa using h

namespace Bracketed

variable {shape head tail : Shape} (h : Bracketed shape head tail)
include h

/-- A text up to a closing bracket and the text after it begin with a function exactly when the
first begins with a head and the second with a tail. -/
theorem exists_covers_iff {piece rest left : List Char} (hpiece : ')' ∉ piece) :
    (∃ first, shape.Covers first ∧ piece ++ ')' :: rest = first ++ left) ↔
      head.Begins piece ∧ ∃ ds, tail.Covers ds ∧ rest = ds ++ left := by
  rw [h.eq]
  simp only [covers_append_iff, covers_closing_iff]
  constructor
  · rintro ⟨_, ⟨_, ds, ⟨hs, _, hhead, ⟨list, hlist, rfl⟩, rfl⟩, htail, rfl⟩, hsplit⟩
    have hfront : ')' ∉ hs ++ list := by
      simp [hhead.not_mem h.head_lacks, hlist]
    have hparts : piece ++ ')' :: rest = (hs ++ list) ++ ')' :: (ds ++ left) := by
      simpa using hsplit
    rcases append_cons_inj hpiece hfront hparts with ⟨hpiece, hrest⟩
    exact ⟨⟨hs, list, hhead, hpiece⟩, ds, htail, hrest⟩
  · rintro ⟨⟨hs, list, hhead, rfl⟩, ds, htail, rfl⟩
    have hlist : ')' ∉ list := fun hmem => hpiece (List.mem_append_right hs hmem)
    exact ⟨_, ⟨_, ds, ⟨hs, _, hhead, ⟨list, hlist, rfl⟩, rfl⟩, htail, rfl⟩, by simp⟩

/-- A function has a closing bracket. -/
theorem not_begins_of_not_mem {piece : List Char} (hpiece : ')' ∉ piece) :
    ¬ shape.Begins piece := by
  rintro ⟨first, rest, hfirst, rfl⟩
  rw [h.eq] at hfirst
  simp only [covers_append_iff, covers_closing_iff] at hfirst
  rcases hfirst with ⟨_, _, ⟨_, _, _, ⟨list, _, rfl⟩, rfl⟩, _, rfl⟩
  simp at hpiece

/-- A text that begins with a function begins with a head. -/
theorem head_begins {cs : List Char} (hcs : shape.Begins cs) : head.Begins cs := by
  rcases hcs with ⟨first, rest, hfirst, rfl⟩
  rw [h.eq] at hfirst
  simp only [covers_append_iff] at hfirst
  rcases hfirst with ⟨_, ds, ⟨hs, list, hhead, _, rfl⟩, _, rfl⟩
  exact ⟨hs, list ++ ds ++ rest, hhead, by simp⟩

/-- No head begins inside a tail. -/
theorem not_head_begins {ds : List Char} (hds : tail.Covers ds) {c : Char} (hc : c ∈ ds)
    (rest : List Char) : ¬ head.Begins (c :: rest) := by
  rintro ⟨hs, left, hhead, hsplit⟩
  rcases h.first with ⟨choices, later, rfl, hchoices⟩
  rcases hhead with ⟨w, more, hw, -, rfl⟩
  rcases hchoices w hw with ⟨d, hd, hlacks⟩
  rcases List.head?_eq_some_iff.mp hd with ⟨w, rfl⟩
  have hcd : c = d := (List.cons.inj hsplit).1
  exact hds.not_mem hlacks (hcd ▸ hc)

/-- There is no function without a closing bracket. -/
theorem count_of_not_mem {piece : List Char} (hpiece : ')' ∉ piece) : count shape piece = 0 := by
  induction piece with
  | nil => rw [count]
  | cons c piece ih =>
      have hrest : ')' ∉ piece := fun hmem => hpiece (List.mem_cons_of_mem c hmem)
      rw [count_cons_of_not_begins h.gaps h.determinate (h.not_begins_of_not_mem hpiece), ih hrest]

/-- The tail of a function hides no other function, nor does a beginning of one. -/
theorem count_append_tail {ds more : List Char} (hds : tail.Covers (ds ++ more))
    (left : List Char) : count shape (ds ++ left) = count shape left := by
  refine count_append_of_not_begins h.gaps h.determinate ?_ left
  intro c hc rest hbegins
  exact h.not_head_begins hds (List.mem_append_left more hc) rest (h.head_begins hbegins)

/-- Where a head begins and a tail follows the next closing bracket, there is a function. -/
theorem count_append_of_head_begins {piece rest : List Char} (hpiece : ')' ∉ piece)
    (hhead : head.Begins piece) (htail : tail.Begins rest) :
    count shape (piece ++ ')' :: rest) = 1 + count shape rest := by
  rcases htail with ⟨ds, left, hds, rfl⟩
  rcases (h.exists_covers_iff hpiece).mpr ⟨hhead, ds, hds, rfl⟩ with ⟨first, hfirst, hsplit⟩
  have hwhole : tail.Covers (ds ++ []) := by rwa [List.append_nil]
  rw [hsplit, count_append_of_covers h.gaps h.determinate hfirst, h.count_append_tail hwhole]

/-- No function begins where no head does, or where no tail follows. -/
theorem not_begins_append {piece rest : List Char} (hpiece : ')' ∉ piece)
    (hnot : ¬ (head.Begins piece ∧ tail.Begins rest)) : ¬ shape.Begins (piece ++ ')' :: rest) := by
  rintro ⟨first, left, hfirst, hsplit⟩
  rcases (h.exists_covers_iff hpiece).mp ⟨first, hfirst, hsplit⟩ with ⟨hhead, ds, hds, hrest⟩
  exact hnot ⟨hhead, ds, left, hds, hrest⟩

/-- The text up to a closing bracket has one function if a head stands in it and a tail follows:
the first head takes all the others into its parameter list. -/
theorem count_append_bracket {piece rest : List Char} (hpiece : ')' ∉ piece)
    (hhead : head.StandsIn piece) (htail : tail.Begins rest) :
    count shape (piece ++ ')' :: rest) = 1 + count shape rest := by
  induction piece with
  | nil => exact h.count_append_of_head_begins hpiece (standsIn_nil_iff.mp hhead) htail
  | cons c piece ih =>
      by_cases hbegins : head.Begins (c :: piece)
      · exact h.count_append_of_head_begins hpiece hbegins htail
      · have hrest : ')' ∉ piece := fun hmem => hpiece (List.mem_cons_of_mem c hmem)
        have hlater : head.StandsIn piece := (standsIn_cons_iff.mp hhead).resolve_left hbegins
        have hskip : ¬ shape.Begins (c :: piece ++ ')' :: rest) :=
          h.not_begins_append hpiece fun hboth => hbegins hboth.1
        rw [List.cons_append] at hskip ⊢
        rw [count_cons_of_not_begins h.gaps h.determinate hskip, ih hrest hlater]

/-- The text up to a closing bracket has no function if no head stands in it or no tail follows. -/
theorem count_append_bracket_of_not {piece rest : List Char} (hpiece : ')' ∉ piece)
    (hnot : ¬ (head.StandsIn piece ∧ tail.Begins rest)) :
    count shape (piece ++ ')' :: rest) = count shape rest := by
  induction piece with
  | nil =>
      have hskip : ¬ shape.Begins ([] ++ ')' :: rest) :=
        h.not_begins_append hpiece fun hboth => hnot ⟨standsIn_nil_iff.mpr hboth.1, hboth.2⟩
      exact count_cons_of_not_begins h.gaps h.determinate hskip
  | cons c piece ih =>
      have hrest : ')' ∉ piece := fun hmem => hpiece (List.mem_cons_of_mem c hmem)
      have hskip : ¬ shape.Begins (c :: piece ++ ')' :: rest) :=
        h.not_begins_append hpiece fun hboth =>
          hnot ⟨standsIn_cons_iff.mpr (Or.inl hboth.1), hboth.2⟩
      have hlater : ¬ (head.StandsIn piece ∧ tail.Begins rest) := fun hboth =>
        hnot ⟨standsIn_cons_iff.mpr (Or.inr hboth.1), hboth.2⟩
      rw [List.cons_append] at hskip ⊢
      rw [count_cons_of_not_begins h.gaps h.determinate hskip, ih hrest hlater]

/-- What follows a closing bracket begins with a tail exactly when the next piece does. -/
theorem tail_begins_joinWith (piece : List Char) (pieces : List (List Char)) :
    tail.Begins (Text.joinWith ')' (piece :: pieces)) ↔ tail.Begins piece := by
  cases pieces with
  | nil => rfl
  | cons next pieces =>
      rw [Text.joinWith_cons_cons]
      constructor
      · rintro ⟨ds, left, hds, hsplit⟩
        have hlacks : ')' ∉ ds := hds.not_mem h.tail_lacks
        -- The tail ends before the closing bracket, which it lacks.
        rcases List.append_eq_append_iff.mp hsplit with ⟨more, hmore, hleft⟩ | ⟨more, hmore, hleft⟩
        · cases more with
          | nil => exact ⟨ds, [], hds, by simpa using hmore.symm⟩
          | cons d more =>
              have hd : ')' = d := (List.cons.inj hleft).1
              exact absurd (by simp [hmore, ← hd]) hlacks
        · exact ⟨ds, more, hds, hmore⟩
      · rintro ⟨ds, left, hds, rfl⟩
        exact ⟨ds, left ++ ')' :: Text.joinWith ')' (next :: pieces), hds, by simp⟩

variable {HasHead HasTail : List Char → Prop} [DecidablePred HasHead] [DecidablePred HasTail]
  (hhead : ∀ cs, HasHead cs ↔ head.StandsIn cs) (htail : ∀ cs, HasTail cs ↔ tail.Begins cs)
include hhead htail

/-- Every piece but the last has a function if a head stands in it and the next piece begins with a
tail. -/
theorem count_joinWith (first : List Char) (rest : List (List Char))
    (hpieces : ∀ piece ∈ first :: rest, ')' ∉ piece) :
    count shape (Text.joinWith ')' (first :: rest)) =
      Nat.count (fun i => HasHead ((first :: rest).getD i []) ∧
        HasTail ((first :: rest).getD (i + 1) [])) rest.length := by
  induction rest generalizing first with
  | nil => exact h.count_of_not_mem (hpieces first List.mem_cons_self)
  | cons second rest ih =>
      have hfirst : ')' ∉ first := hpieces first List.mem_cons_self
      have hrest := ih second fun piece hmem => hpieces piece (List.mem_cons_of_mem first hmem)
      have hbegins : tail.Begins (Text.joinWith ')' (second :: rest)) ↔ HasTail second :=
        (h.tail_begins_joinWith second rest).trans (htail second).symm
      have hlater : Nat.count (fun i => HasHead ((first :: second :: rest).getD (i + 1) []) ∧
          HasTail ((first :: second :: rest).getD (i + 1 + 1) [])) rest.length =
          count shape (Text.joinWith ')' (second :: rest)) :=
        hrest.symm
      rw [Text.joinWith_cons_cons, List.length_cons, Nat.count_succ', hlater]
      simp only [List.getD_cons_succ, List.getD_cons_zero]
      by_cases hboth : HasHead first ∧ HasTail second
      · have hstands : head.StandsIn first := (hhead first).mp hboth.1
        rw [if_pos hboth, h.count_append_bracket hfirst hstands (hbegins.mpr hboth.2),
          Nat.add_comm]
      · have hnot : ¬ (head.StandsIn first ∧
            tail.Begins (Text.joinWith ')' (second :: rest))) := by
          rwa [hbegins, ← hhead]
        rw [if_neg hboth, h.count_append_bracket_of_not hfirst hnot, Nat.add_zero]

/-- The matches of a shape are the pieces in which a head stands before a tail. -/
theorem count_eq_count_pieces (cs : List Char) :
    count shape cs =
      Nat.count (fun i => HasHead ((Text.splitAt ')' cs).getD i []) ∧
        HasTail ((Text.splitAt ')' cs).getD (i + 1) [])) ((Text.splitAt ')' cs).length - 1) := by
  have hjoin := Text.joinWith_splitAt ')' cs
  have hpieces : ∀ piece ∈ Text.splitAt ')' cs, ')' ∉ piece :=
    fun piece hmem => Text.not_mem_of_mem_splitAt hmem
  cases hsplit : Text.splitAt ')' cs with
  | nil => exact absurd hsplit (Text.splitAt_ne_nil ')' cs)
  | cons first rest =>
      rw [hsplit] at hjoin hpieces
      have hcount := h.count_joinWith hhead htail first rest hpieces
      rw [hjoin] at hcount
      simpa using hcount

end Bracketed

/-! ## Declarations and bindings -/

/-- A declaration up to its opening bracket. -/
def declarationHead : Shape :=
  [.word ["function".toList], .some isSpace, .some isWordChar, .any isSpace, .word [['(']]]

/-- A binding up to its opening bracket. -/
def bindingHead : Shape :=
  [.word ["const".toList, "let".toList, "var".toList], .some isSpace, .some isWordChar,
    .any isSpace, .word [['=']], .any isSpace, .word [['(']]]

/-- The arrow of a binding. -/
def arrow : Shape :=
  [.any isSpace, .word ["=>".toList]]

/-- No blank belongs to a word, and no word has a blank. -/
theorem isSpace_of_isWordChar {c : Char} (h : isWordChar c = true) : isSpace c = false := by
  rw [isSpace_eq_isBlank]
  by_contra hblank
  have hword := Text.isWordChar_of_isBlank (by simpa using hblank)
  rw [h] at hword
  contradiction

/-- A stretch of word characters ends before blanks and before a word that begins with another
character. -/
theorem shuns_isWordChar {shape : Shape} (h : Shuns isWordChar shape) :
    Shuns isWordChar (.any isSpace :: shape) := by
  refine ⟨fun c hc => ?_, h⟩
  rw [isSpace_eq_isBlank] at hc
  exact Text.isWordChar_of_isBlank hc

/-- A stretch of a set ends before a word that begins with another character. -/
theorem shuns_word {set : Char → Bool} {choices : List (List Char)}
    (h : (choices.all fun w => w.head?.any fun c => !set c) = true) (shape : Shape) :
    Shuns set (.word choices :: shape) := by
  intro w hw
  have hhead := List.all_eq_true.mp h w hw
  rcases (Option.any_eq_true _ _).mp hhead with ⟨c, hc, hset⟩
  exact ⟨c, hc, by simpa using hset⟩

/-- The head of a declaration can be read in one way only. -/
theorem declarationHead_determinate : Determinate declarationHead :=
  ⟨by decide, fun _ => isSpace_of_isWordChar, shuns_isWordChar (shuns_word rfl _),
    shuns_word rfl _, by decide, trivial⟩

/-- The head of a binding can be read in one way only. -/
theorem bindingHead_determinate : Determinate bindingHead :=
  ⟨by decide, fun _ => isSpace_of_isWordChar, shuns_isWordChar (shuns_word rfl _),
    shuns_word rfl _, by decide, shuns_word rfl _, by decide, trivial⟩

/-- The end of a parameter list can be read in one way only. -/
theorem closing_determinate : Determinate closing :=
  ⟨shuns_word rfl _, by decide, trivial⟩

/-- An arrow can be read in one way only. -/
theorem arrow_determinate : Determinate arrow :=
  ⟨shuns_word rfl _, by decide, trivial⟩

/-- A declaration is a head and a parameter list. -/
theorem declaration_bracketed : Bracketed declaration declarationHead [] where
  eq := rfl
  gaps := declaration_ignoresGaps
  determinate := (declarationHead_determinate.append closing_determinate).append trivial
  head_lacks := by decide
  tail_lacks := by simp
  first := ⟨_, _, rfl, List.forall_mem_singleton.mpr ⟨'f', rfl, by simp⟩⟩

/-- A binding is a head, a parameter list and an arrow. -/
theorem binding_bracketed : Bracketed binding bindingHead arrow where
  eq := rfl
  gaps := binding_ignoresGaps
  determinate := (bindingHead_determinate.append closing_determinate).append arrow_determinate
  head_lacks := by decide
  tail_lacks := by decide
  first := by
    refine ⟨_, _, rfl, ?_⟩
    simp only [List.forall_mem_cons]
    exact ⟨⟨'c', rfl, by decide⟩, ⟨'l', rfl, by decide⟩, ⟨'v', rfl, by decide⟩, by simp⟩

/-- Looks for a text of a shape at every place of a text. -/
def finds (shape : Shape) (cs : List Char) : Bool :=
  cs.tails.any fun rest => (after? shape rest).isSome

/-- A determinate shape is found where one of its texts stands. -/
theorem finds_iff {shape : Shape} (h : shape.Determinate) {cs : List Char} :
    shape.finds cs = true ↔ shape.StandsIn cs := by
  simp only [finds, List.any_eq_true, List.mem_tails, Option.isSome_iff_ne_none, ne_eq,
    after?_eq_none_iff h, not_not]
  constructor
  · rintro ⟨rest, ⟨before, rfl⟩, hrest⟩
    exact ⟨before, rest, hrest, rfl⟩
  · rintro ⟨before, rest, hrest, rfl⟩
    exact ⟨rest, List.suffix_append before rest, hrest⟩

end Shape

/-! ## Pieces between closing brackets -/

/-- A text has the head of a declaration in it: the word that begins declarations, blanks, a name,
and an opening bracket, before which there may be blanks. -/
def HasDeclarationHead (cs : List Char) : Prop :=
  ∃ before blanks name gap after,
    cs = before ++ "function".toList ++ blanks ++ name ++ gap ++ '(' :: after ∧
      (blanks ≠ [] ∧ ∀ c ∈ blanks, isBlank c = true) ∧
      (name ≠ [] ∧ ∀ c ∈ name, isWordChar c = true) ∧ ∀ c ∈ gap, isBlank c = true

/-- A text has the head of a binding in it: a word that begins bindings, blanks, a name, an equals
sign and an opening bracket, before each of which there may be blanks. -/
def HasBindingHead (cs : List Char) : Prop :=
  ∃ before keyword blanks name gap gap' after,
    cs = before ++ keyword ++ blanks ++ name ++ gap ++ '=' :: gap' ++ '(' :: after ∧
      keyword ∈ ["const".toList, "let".toList, "var".toList] ∧
      (blanks ≠ [] ∧ ∀ c ∈ blanks, isBlank c = true) ∧
      (name ≠ [] ∧ ∀ c ∈ name, isWordChar c = true) ∧
      (∀ c ∈ gap, isBlank c = true) ∧ ∀ c ∈ gap', isBlank c = true

/-- A text begins with an arrow, before which there may be blanks. -/
def BeginsWithArrow (cs : List Char) : Prop :=
  ∃ gap after, cs = gap ++ '=' :: '>' :: after ∧ ∀ c ∈ gap, isBlank c = true

/-- The piece of a text at a place, counted from zero, when the text is cut at its closing
brackets. -/
def bracketPiece (cs : List Char) (i : Nat) : List Char :=
  (Text.splitAt ')' cs).getD i []

/-- The head of a declaration is a text of its shape. -/
theorem hasDeclarationHead_iff (cs : List Char) :
    HasDeclarationHead cs ↔ Shape.declarationHead.StandsIn cs := by
  simp only [HasDeclarationHead, Shape.StandsIn, Shape.Begins, Shape.declarationHead, Shape.Covers,
    Piece.Covers, List.mem_singleton, Shape.isSpace_eq_isBlank]
  constructor
  · rintro ⟨before, blanks, name, gap, after, rfl, hblanks, hname, hgap⟩
    exact ⟨before, _, ⟨_, after, ⟨_, _, rfl, ⟨blanks, _, hblanks, ⟨name, _, hname,
      ⟨gap, _, hgap, ⟨_, _, rfl, rfl, rfl⟩, rfl⟩, rfl⟩, rfl⟩, rfl⟩, rfl⟩, by simp⟩
  · rintro ⟨before, _, ⟨_, after, ⟨_, _, rfl, ⟨blanks, _, hblanks, ⟨name, _, hname,
      ⟨gap, _, hgap, ⟨_, _, rfl, rfl, rfl⟩, rfl⟩, rfl⟩, rfl⟩, rfl⟩, rfl⟩, rfl⟩
    exact ⟨before, blanks, name, gap, after, by simp, hblanks, hname, hgap⟩

/-- The head of a binding is a text of its shape. -/
theorem hasBindingHead_iff (cs : List Char) :
    HasBindingHead cs ↔ Shape.bindingHead.StandsIn cs := by
  simp only [HasBindingHead, Shape.StandsIn, Shape.Begins, Shape.bindingHead, Shape.Covers,
    Piece.Covers, Shape.isSpace_eq_isBlank]
  constructor
  · rintro ⟨before, keyword, blanks, name, gap, gap', after, rfl, hkeyword, hblanks, hname, hgap,
      hgap'⟩
    exact ⟨before, _, ⟨_, after, ⟨keyword, _, hkeyword, ⟨blanks, _, hblanks, ⟨name, _, hname,
      ⟨gap, _, hgap, ⟨_, _, List.mem_singleton.mpr rfl, ⟨gap', _, hgap',
        ⟨_, _, List.mem_singleton.mpr rfl, rfl, rfl⟩, rfl⟩, rfl⟩, rfl⟩, rfl⟩, rfl⟩, rfl⟩, rfl⟩,
      by simp⟩
  · rintro ⟨before, _, ⟨_, after, ⟨keyword, _, hkeyword, ⟨blanks, _, hblanks, ⟨name, _, hname,
      ⟨gap, _, hgap, ⟨_, _, hequals, ⟨gap', _, hgap', ⟨_, _, hbracket, rfl, rfl⟩, rfl⟩, rfl⟩, rfl⟩,
      rfl⟩, rfl⟩, rfl⟩, rfl⟩, rfl⟩
    rw [List.mem_singleton] at hequals hbracket
    exact ⟨before, keyword, blanks, name, gap, gap', after, by simp [hequals, hbracket], hkeyword,
      hblanks, hname, hgap, hgap'⟩

/-- An arrow is a text of its shape. -/
theorem beginsWithArrow_iff (cs : List Char) : BeginsWithArrow cs ↔ Shape.arrow.Begins cs := by
  simp only [BeginsWithArrow, Shape.Begins, Shape.arrow, Shape.Covers, Piece.Covers,
    List.mem_singleton, Shape.isSpace_eq_isBlank]
  constructor
  · rintro ⟨gap, after, rfl, hgap⟩
    exact ⟨_, after, ⟨gap, _, hgap, ⟨_, _, rfl, rfl, rfl⟩, rfl⟩, by simp⟩
  · rintro ⟨_, after, ⟨gap, _, hgap, ⟨_, _, rfl, rfl, rfl⟩, rfl⟩, rfl⟩
    exact ⟨gap, after, by simp, hgap⟩

instance : DecidablePred HasDeclarationHead := fun cs =>
  decidable_of_iff (Shape.declarationHead.finds cs = true)
    ((Shape.finds_iff Shape.declarationHead_determinate).trans (hasDeclarationHead_iff cs).symm)

instance : DecidablePred HasBindingHead := fun cs =>
  decidable_of_iff (Shape.bindingHead.finds cs = true)
    ((Shape.finds_iff Shape.bindingHead_determinate).trans (hasBindingHead_iff cs).symm)

instance : DecidablePred BeginsWithArrow := fun cs =>
  decidable_of_iff (Shape.after? Shape.arrow cs ≠ none)
    ((not_congr (Shape.after?_eq_none_iff Shape.arrow_determinate)).trans
      (not_not.trans (beginsWithArrow_iff cs).symm))

/--
A text has as many functions as it has pieces that end with a closing bracket and have the head of
a declaration in them, and pieces that end with a closing bracket, have the head of a binding in
them and come before a piece that begins with an arrow.
-/
theorem functionCount_eq_count_pieces (cs : List Char) :
    functionCount cs =
      Nat.count (fun i => HasDeclarationHead (bracketPiece cs i))
        ((Text.splitAt ')' cs).length - 1) +
      Nat.count (fun i => HasBindingHead (bracketPiece cs i) ∧
        BeginsWithArrow (bracketPiece cs (i + 1))) ((Text.splitAt ')' cs).length - 1) := by
  have htrivial : ∀ ds : List Char, True ↔ Shape.Begins [] ds := fun ds =>
    ⟨fun _ => ⟨[], ds, rfl, rfl⟩, fun _ => trivial⟩
  have hdeclarations :=
    Shape.declaration_bracketed.count_eq_count_pieces hasDeclarationHead_iff htrivial cs
  have hbindings :=
    Shape.binding_bracketed.count_eq_count_pieces hasBindingHead_iff beginsWithArrow_iff cs
  simp only [and_true] at hdeclarations
  rw [functionCount, hdeclarations, hbindings]
  rfl

/-- The blanks of scripts include line feeds and the byte order mark, but not the next line. -/
example : isBlank '\n' = true ∧ isBlank '\ufeff' = true ∧ isBlank '\u0085' = false := by
  decide

end ScriptReview
