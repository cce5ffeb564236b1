import ScriptReview.Proofs.Text.Gaps
import ScriptReview.Review.Shape

/-!
# Shapes and gaps

The shapes of functions do not see how the parts of a text are spaced.  Every piece of a shape
treats all blanks alike, so that it matches a text exactly when it matches the collapsed text, and
a shape that begins and ends with a word matches nothing in the blanks around a text.

Main definitions:

* `Piece.IgnoresGaps` and `Shape.IgnoresGaps` say that the lengths and the characters of gaps do
  not matter.

Main results:

* `Shape.after?_collapse` says that matching commutes with collapsing.
* `Shape.count_collapse` says that a text and its collapsed form have equally many matches.
* `Shape.count_between_blanks` says that blanks around a text have no match.
* `functionCount_eq_of_collapse_eq` says that the number of functions depends on the collapsed text
  only.
-/

namespace ScriptReview

open Text (isBlank isWordChar collapse)

/-! ## Pieces -/

namespace Piece

/-- A piece ignores gaps when its words have no blank and its set holds all blanks or none. -/
def IgnoresGaps : Piece → Prop
  | .word choices => ∀ w ∈ choices, w ≠ [] ∧ ∀ c ∈ w, isBlank c = false
  | .some set => ∃ b, ∀ c, isBlank c = true → set c = b
  | .any set => ∃ b, ∀ c, isBlank c = true → set c = b

/-- A word piece ignores gaps when its words pass the test for blanks. -/
theorem word_ignoresGaps {choices : List (List Char)}
    (h : (choices.all fun w => !w.isEmpty && w.all fun c => isBlank c == false) = true) :
    (word choices).IgnoresGaps :=
  Text.forall_mem_of_all h

/-- Skipping a set that holds all blanks or none commutes with collapsing. -/
theorem collapse_dropWhile {set : Char → Bool} {b : Bool}
    (hset : ∀ c, isBlank c = true → set c = b) (cs : List Char) :
    collapse (cs.dropWhile set) = (collapse cs).dropWhile set := by
  cases b with
  | true => exact Text.collapse_dropWhile_of_blank hset cs
  | false => exact Text.collapse_dropWhile_of_not_blank hset cs

/-- The choices of a word are tried in their order. -/
theorem afterWord?_cons (w : List Char) (choices : List (List Char)) (cs : List Char) :
    afterWord? (w :: choices) cs =
      if w.isPrefixOf cs then Option.some (cs.drop w.length) else afterWord? choices cs := by
  simp only [afterWord?, List.find?_cons]
  split <;> simp_all

/-- A word that is matched stands at the beginning of the text. -/
theorem exists_of_afterWord? {choices : List (List Char)} {cs rest : List Char}
    (h : afterWord? choices cs = Option.some rest) : ∃ w ∈ choices, cs = w ++ rest := by
  obtain ⟨w, hw, hrest⟩ := Option.map_eq_some_iff.mp h
  have hbegins : w.isPrefixOf cs = true := by simpa using List.find?_some hw
  obtain ⟨rest', rfl⟩ := List.isPrefixOf_iff_prefix.mp hbegins
  refine ⟨w, List.mem_of_find?_eq_some hw, ?_⟩
  rw [← hrest, List.drop_left]

/-- Words without blanks are found in the collapsed text where they are found in the text. -/
theorem afterWord?_collapse {choices : List (List Char)}
    (h : ∀ w ∈ choices, w ≠ [] ∧ ∀ c ∈ w, isBlank c = false) (cs : List Char) :
    afterWord? choices (collapse cs) = (afterWord? choices cs).map collapse := by
  induction choices with
  | nil => rfl
  | cons w choices ih =>
      have hblank : ∀ c ∈ w, isBlank c = false := (h w List.mem_cons_self).2
      have hrest := ih fun v hv => h v (List.mem_cons_of_mem w hv)
      rw [afterWord?_cons, afterWord?_cons, Text.isPrefixOf_collapse hblank]
      split
      · rename_i hbegins
        obtain ⟨rest, rfl⟩ := List.isPrefixOf_iff_prefix.mp hbegins
        simp [Text.collapse_append hblank]
      · exact hrest

/-- Matching a piece commutes with collapsing. -/
theorem after?_collapse {p : Piece} (h : p.IgnoresGaps) (cs : List Char) :
    after? (collapse cs) p = (after? cs p).map collapse := by
  cases p with
  | word choices => exact afterWord?_collapse h cs
  | some set =>
      obtain ⟨b, hset⟩ := h
      simp only [after?, Text.head?_any_collapse hset, ← collapse_dropWhile hset]
      split <;> rfl
  | any set =>
      obtain ⟨b, hset⟩ := h
      simp only [after?, ← collapse_dropWhile hset, Option.map_some]

/-- A piece leaves an end of the text. -/
theorem suffix_of_after? {p : Piece} {cs rest : List Char} (h : after? cs p = Option.some rest) :
    rest <:+ cs := by
  cases p with
  | word choices =>
      obtain ⟨w, -, rfl⟩ := exists_of_afterWord? h
      exact List.suffix_append w rest
  | some set =>
      simp only [after?] at h
      split at h
      · obtain rfl := Option.some.inj h
        exact List.dropWhile_suffix set
      · contradiction
  | any set =>
      obtain rfl := Option.some.inj h
      exact List.dropWhile_suffix set

/-- A word is found at the beginning of a text with a blank after it exactly when it is found at
the beginning of the text. -/
theorem afterWord?_append_blank {choices : List (List Char)}
    (h : ∀ w ∈ choices, w ≠ [] ∧ ∀ c ∈ w, isBlank c = false) {b : Char} (hb : isBlank b = true)
    (cs : List Char) :
    afterWord? choices (cs ++ [b]) = (afterWord? choices cs).map (· ++ [b]) := by
  induction choices with
  | nil => rfl
  | cons w choices ih =>
      have hblank : ∀ c ∈ w, isBlank c = false := (h w List.mem_cons_self).2
      have hrest := ih fun v hv => h v (List.mem_cons_of_mem w hv)
      have hiff : w <+: cs ++ [b] ↔ w <+: cs := by
        rw [List.prefix_concat_iff]
        constructor
        · rintro (rfl | hw)
          · have hnot := hblank b (by simp)
            rw [hb] at hnot
            contradiction
          · exact hw
        · exact Or.inr
      rw [afterWord?_cons, afterWord?_cons, hrest]
      by_cases hw : w <+: cs
      · rw [if_pos (by simpa using hiff.mpr hw), if_pos (by simpa using hw),
          List.drop_append_of_le_length hw.length_le]
        rfl
      · rw [if_neg (by simpa using fun hw' => hw (hiff.mp hw')), if_neg (by simpa using hw)]

/-- A blank after a text stays after what a piece leaves, unless the piece takes the whole text: then
at most the blank is left. -/
theorem after?_append_blank {p : Piece} (h : p.IgnoresGaps) {b : Char} (hb : isBlank b = true)
    (cs : List Char) :
    after? (cs ++ [b]) p = (after? cs p).map (· ++ [b]) ∨
      (∀ rest ∈ after? cs p, rest = []) ∧
        ∀ rest ∈ after? (cs ++ [b]) p, rest = [] ∨ rest = [b] := by
  cases p with
  | word choices => exact Or.inl (afterWord?_append_blank h hb cs)
  | some set =>
      by_cases hall : cs.dropWhile set = []
      · right
        simp only [after?, List.dropWhile_append, hall]
        constructor
        · intro rest hrest
          split at hrest <;> simp_all
        · intro rest hrest
          cases hset : set b <;> split at hrest <;> simp_all
      · left
        have hne : cs ≠ [] := by
          rintro rfl
          exact hall rfl
        simp only [after?, List.dropWhile_append, List.isEmpty_iff, hall, List.head?_append]
        obtain ⟨c, cs, rfl⟩ := List.exists_cons_of_ne_nil hne
        by_cases hc : set c = true <;> simp [hc]
  | any set =>
      by_cases hall : cs.dropWhile set = []
      · right
        simp only [after?, List.dropWhile_append, hall]
        cases hset : set b <;> simp_all
      · left
        simp [after?, List.dropWhile_append, hall]

end Piece

/-! ## Shapes -/

namespace Shape

/-- A shape ignores gaps when its pieces do and when it begins and ends with a word. -/
structure IgnoresGaps (shape : Shape) : Prop where
  pieces : ∀ p ∈ shape, p.IgnoresGaps
  first : ∃ choices rest, shape = .word choices :: rest
  last : ∃ choices before, shape = before ++ [.word choices]

/-- The other pieces are matched where the first one ends. -/
theorem after?_cons (p : Piece) (shape : Shape) (cs : List Char) :
    after? (p :: shape) cs = (p.after? cs).bind (after? shape) :=
  rfl

/-- Matching commutes with collapsing. -/
theorem after?_collapse {shape : Shape} (h : ∀ p ∈ shape, p.IgnoresGaps) (cs : List Char) :
    after? shape (collapse cs) = (after? shape cs).map collapse := by
  induction shape generalizing cs with
  | nil => rfl
  | cons p shape ih =>
      have hp : p.IgnoresGaps := h p List.mem_cons_self
      have hrest := ih fun q hq => h q (List.mem_cons_of_mem p hq)
      rw [after?_cons, after?_cons, Piece.after?_collapse hp]
      cases p.after? cs with
      | none => rfl
      | some rest => exact hrest rest

/-- A match leaves an end of the text. -/
theorem suffix_of_after? {shape : Shape} {cs rest : List Char} (h : after? shape cs = some rest) :
    rest <:+ cs := by
  induction shape generalizing cs with
  | nil =>
      obtain rfl := Option.some.inj h
      exact List.suffix_rfl
  | cons p shape ih =>
      obtain ⟨middle, hmiddle, hrest⟩ := Option.bind_eq_some_iff.mp h
      exact (ih hrest).trans (Piece.suffix_of_after? hmiddle)

/-- A shape that begins with a word takes a character at least, and its first one is no blank. -/
theorem shorter_of_after? {shape : Shape} (h : shape.IgnoresGaps) {c : Char} {cs rest : List Char}
    (hmatch : after? shape (c :: cs) = some rest) :
    isBlank c = false ∧ rest.length ≤ cs.length := by
  obtain ⟨choices, shape, rfl⟩ := h.first
  have hword : (Piece.word choices).IgnoresGaps := h.pieces _ List.mem_cons_self
  obtain ⟨middle, hmiddle, hrest⟩ := Option.bind_eq_some_iff.mp hmatch
  obtain ⟨w, hw, hcons⟩ := Piece.exists_of_afterWord? hmiddle
  obtain ⟨hne, hblank⟩ := hword w hw
  obtain ⟨d, w, rfl⟩ := List.exists_cons_of_ne_nil hne
  obtain ⟨rfl, rfl⟩ := List.cons.inj hcons
  have hleft : rest <:+ w ++ middle := (suffix_of_after? hrest).trans (List.suffix_append w middle)
  exact ⟨hblank c List.mem_cons_self, hleft.length_le⟩

/-- A shape that ignores gaps does not match where a blank stands. -/
theorem after?_eq_none_of_blank {shape : Shape} (h : shape.IgnoresGaps) {c : Char}
    (hc : isBlank c = true) (cs : List Char) : after? shape (c :: cs) = none := by
  rw [Option.eq_none_iff_forall_ne_some]
  intro rest hmatch
  have hsolid := (shorter_of_after? h hmatch).1
  rw [hc] at hsolid
  contradiction

/-- What ends with a word does not match the empty text. -/
theorem after?_append_word_nil {choices : List (List Char)}
    (h : ∀ w ∈ choices, w ≠ [] ∧ ∀ c ∈ w, isBlank c = false) (before : Shape) :
    after? (before ++ [.word choices]) [] = none := by
  induction before with
  | nil =>
      rw [List.nil_append, after?_cons, Option.bind_eq_none_iff]
      intro rest hrest
      obtain ⟨w, hw, hnil⟩ := Piece.exists_of_afterWord? hrest
      exact absurd (List.append_eq_nil_iff.mp hnil.symm).1 (h w hw).1
  | cons p before ih =>
      rw [List.cons_append, after?_cons, Option.bind_eq_none_iff]
      intro rest hrest
      obtain rfl := List.suffix_nil.mp (Piece.suffix_of_after? hrest)
      exact ih

/-- A blank after a text does not change how a shape matches that ends with a word. -/
theorem after?_append_blank {choices : List (List Char)} {before : Shape}
    (h : ∀ p ∈ before ++ [.word choices], p.IgnoresGaps) {b : Char} (hb : isBlank b = true)
    (cs : List Char) :
    after? (before ++ [.word choices]) (cs ++ [b]) =
      (after? (before ++ [.word choices]) cs).map (· ++ [b]) := by
  have hword : (Piece.word choices).IgnoresGaps :=
    h _ (List.mem_append_right _ List.mem_cons_self)
  induction before generalizing cs with
  | nil =>
      rw [List.nil_append, after?_cons, after?_cons]
      simp only [Piece.after?, Piece.afterWord?_append_blank hword hb]
      cases Piece.afterWord? choices cs <;> rfl
  | cons p before ih =>
      have hp : p.IgnoresGaps := h p List.mem_cons_self
      have hrest := ih fun q hq => h q (List.mem_cons_of_mem p hq)
      have hnil := after?_append_word_nil hword before
      rw [List.cons_append, after?_cons, after?_cons]
      rcases Piece.after?_append_blank hp hb cs with hstep | ⟨hshort, hlong⟩
      · rw [hstep]
        cases p.after? cs with
        | none => rfl
        | some rest => exact hrest rest
      · -- Nothing but the blank is left, and the last word does not begin with it.
        have hleft : (p.after? cs).bind (after? (before ++ [.word choices])) = none := by
          rw [Option.bind_eq_none_iff]
          intro rest hmem
          rw [hshort rest hmem]
          exact hnil
        rw [hleft, Option.map_none, Option.bind_eq_none_iff]
        intro rest hmem
        rcases hlong rest hmem with rfl | rfl
        · exact hnil
        · have hblank := hrest []
          rwa [hnil] at hblank

/-! ## Counting matches -/

/-- Where a match begins, the search goes on after it, and elsewhere at the next character. -/
theorem count_cons {shape : Shape} (h : shape.IgnoresGaps) (c : Char) (cs : List Char) :
    count shape (c :: cs) =
      match after? shape (c :: cs) with
      | none => count shape cs
      | some rest => 1 + count shape rest := by
  rw [count]
  cases hmatch : after? shape (c :: cs) with
  | none => rfl
  | some rest =>
      exact if_pos (shorter_of_after? h hmatch).2

/-- A blank before a text has no match. -/
theorem count_cons_blank {shape : Shape} (h : shape.IgnoresGaps) {c : Char}
    (hc : isBlank c = true) (cs : List Char) : count shape (c :: cs) = count shape cs := by
  rw [count_cons h, after?_eq_none_of_blank h hc]

/-- Skipping the blanks at the beginning of a text loses no match. -/
theorem count_dropWhile_blank {shape : Shape} (h : shape.IgnoresGaps) (cs : List Char) :
    count shape (cs.dropWhile isBlank) = count shape cs := by
  induction cs with
  | nil => rfl
  | cons c cs ih =>
      cases hc : isBlank c with
      | true => rw [List.dropWhile_cons_of_pos hc, ih, count_cons_blank h hc]
      | false => rw [List.dropWhile_cons_of_neg (by simp [hc])]

/-- A text and its collapsed form have equally many matches. -/
theorem count_collapse {shape : Shape} (h : shape.IgnoresGaps) (cs : List Char) :
    count shape (collapse cs) = count shape cs := by
  match cs with
  | [] => rfl
  | c :: cs =>
    cases hc : isBlank c with
    | true =>
        have hshorter : (cs.dropWhile isBlank).length ≤ cs.length :=
          (List.dropWhile_suffix isBlank).length_le
        rw [Text.collapse_cons_of_blank hc, count_cons_blank h Text.isBlank_space,
          Text.collapseFrom_true, count_collapse h (cs.dropWhile isBlank),
          count_dropWhile_blank h, count_cons_blank h hc]
    | false =>
        have hmatch := after?_collapse h.pieces (c :: cs)
        rw [Text.collapse_cons_of_not_blank hc] at hmatch ⊢
        rw [count_cons h, count_cons h, hmatch]
        cases hafter : after? shape (c :: cs) with
        | none => exact count_collapse h cs
        | some rest =>
            have hshorter := (shorter_of_after? h hafter).2
            exact congrArg (1 + ·) (count_collapse h rest)
termination_by cs.length
decreasing_by all_goals (simp only [List.length_cons]; omega)

/-- A blank after a text has no match. -/
theorem count_append_blank {shape : Shape} (h : shape.IgnoresGaps) {b : Char}
    (hb : isBlank b = true) (cs : List Char) : count shape (cs ++ [b]) = count shape cs := by
  obtain ⟨choices, before, hshape⟩ := h.last
  match cs with
  | [] => rw [List.nil_append, count_cons_blank h hb]
  | c :: cs =>
    have hpieces := h.pieces
    rw [hshape] at hpieces
    have hmatch := after?_append_blank hpieces hb (c :: cs)
    rw [← hshape, List.cons_append] at hmatch
    rw [List.cons_append, count_cons h, count_cons h, hmatch]
    cases hafter : after? shape (c :: cs) with
    | none => exact count_append_blank h hb cs
    | some rest =>
        have hshorter := (shorter_of_after? h hafter).2
        exact congrArg (1 + ·) (count_append_blank h hb rest)
termination_by cs.length
decreasing_by all_goals (simp only [List.length_cons]; omega)

/-- Blanks around a text have no match. -/
theorem count_between_blanks {shape : Shape} (h : shape.IgnoresGaps) {a b : Char}
    (ha : isBlank a = true) (hb : isBlank b = true) (cs : List Char) :
    count shape (a :: (cs ++ [b])) = count shape cs := by
  rw [count_cons_blank h ha, count_append_blank h hb]

/-! ## The shapes of functions -/

/-- The characters between brackets include all blanks. -/
theorem ne_bracket_of_isBlank {c : Char} (hc : isBlank c = true) : (c != ')') = true := by
  rw [bne_iff_ne]
  rintro rfl
  revert hc
  decide

/-- The pieces of a parameter list ignore gaps. -/
theorem parameters_ignoresGaps : ∀ p ∈ parameters, p.IgnoresGaps := by
  simp only [parameters, List.forall_mem_cons]
  refine ⟨Piece.word_ignoresGaps (by decide), ⟨true, fun c hc => ne_bracket_of_isBlank hc⟩,
    Piece.word_ignoresGaps (by decide), ?_⟩
  simp

/-- The blanks in shapes are the blanks of scripts. -/
theorem isSpace_eq_isBlank (c : Char) : isSpace c = isBlank c :=
  (Text.isBlank_iff_mem_blankRanges c).symm

/-- The code points of the blanks in shapes. -/
theorem isSpace_iff_toNat (c : Char) :
    isSpace c = true ↔
      c.toNat ∈ [0x09, 0x0A, 0x0B, 0x0C, 0x0D, 0x20, 0xA0, 0x1680, 0x2028, 0x2029, 0x202F, 0x205F,
        0x3000, 0xFEFF] ∨ (0x2000 ≤ c.toNat ∧ c.toNat ≤ 0x200A) := by
  simp [isSpace, Text.inRanges, Text.blankRanges]
  omega

/-- The blanks in shapes include all blanks of scripts. -/
theorem isSpace_of_isBlank {c : Char} (hc : isBlank c = true) : isSpace c = true := by
  rw [isSpace_eq_isBlank, hc]

/-- Declarations ignore gaps. -/
theorem declaration_ignoresGaps : declaration.IgnoresGaps where
  pieces := by
    rw [declaration, List.forall_mem_append]
    refine ⟨?_, parameters_ignoresGaps⟩
    simp only [List.forall_mem_cons]
    refine ⟨Piece.word_ignoresGaps (by decide), ⟨true, fun c hc => isSpace_of_isBlank hc⟩,
      ⟨false, fun c hc => Text.isWordChar_of_isBlank hc⟩,
      ⟨true, fun c hc => isSpace_of_isBlank hc⟩, ?_⟩
    simp
  first := ⟨_, _, rfl⟩
  last := ⟨_, [.word ["function".toList], .some isSpace, .some isWordChar, .any isSpace,
    .word [['(']], .any (· != ')')], rfl⟩

/-- Bindings ignore gaps. -/
theorem binding_ignoresGaps : binding.IgnoresGaps where
  pieces := by
    rw [binding, List.forall_mem_append, List.forall_mem_append]
    refine ⟨⟨?_, parameters_ignoresGaps⟩, ?_⟩
    · simp only [List.forall_mem_cons]
      refine ⟨Piece.word_ignoresGaps (by decide), ⟨true, fun c hc => isSpace_of_isBlank hc⟩,
        ⟨false, fun c hc => Text.isWordChar_of_isBlank hc⟩,
        ⟨true, fun c hc => isSpace_of_isBlank hc⟩, Piece.word_ignoresGaps (by decide),
        ⟨true, fun c hc => isSpace_of_isBlank hc⟩, ?_⟩
      simp
    · simp only [List.forall_mem_cons]
      refine ⟨⟨true, fun c hc => isSpace_of_isBlank hc⟩,
        Piece.word_ignoresGaps (by decide), ?_⟩
      simp
  first := ⟨_, _, rfl⟩
  last := ⟨_, [.word ["const".toList, "let".toList, "var".toList], .some isSpace,
    .some isWordChar, .any isSpace, .word [['=']], .any isSpace] ++ parameters ++ [.any isSpace], rfl⟩

end Shape

/-- Texts that have one collapsed form between blanks have equally many functions. -/
theorem functionCount_eq_of_collapse_eq {a b : Char} (ha : isBlank a = true)
    (hb : isBlank b = true) {cs ds : List Char}
    (h : collapse (a :: (cs ++ [b])) = collapse (a :: (ds ++ [b]))) :
    functionCount cs = functionCount ds := by
  have hcount : ∀ {shape : Shape}, shape.IgnoresGaps → shape.count cs = shape.count ds := by
    intro shape hshape
    rw [← Shape.count_between_blanks hshape ha hb cs, ← Shape.count_collapse hshape, h,
      Shape.count_collapse hshape, Shape.count_between_blanks hshape ha hb]
  rw [functionCount, functionCount, hcount Shape.declaration_ignoresGaps,
    hcount Shape.binding_ignoresGaps]

end ScriptReview
