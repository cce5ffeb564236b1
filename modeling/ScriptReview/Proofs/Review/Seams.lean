import ScriptReview.Proofs.Review.Brackets
import ScriptReview.Proofs.Review.Branches
import ScriptReview.Proofs.Review.Lines

/-!
# Measures across a seam

Two texts are joined by a line feed.  Lines, branches and comment lines of the joined text are those
of its parts.  A function can stand across the seam: a head at the end of the first text takes the
second text up to its first closing bracket into its parameter list, and a parameter list at the end
of the first text may find its arrow at the beginning of the second.  What a part loses in this way
it gets back, and each of the two shapes gains at most one match.

Main results:

* `Shape.Bracketed.count_append_bounds` compares the matches in a text with those in its parts.
* `metricsOf_joined` says how the measures of a joined text follow from those of its parts.
-/

namespace ScriptReview

namespace Shape

/-! ## Shapes at the beginning and inside of longer texts -/

/-- What begins a text begins every longer one. -/
theorem Begins.append {shape : Shape} {cs : List Char} (h : shape.Begins cs) (ds : List Char) :
    shape.Begins (cs ++ ds) := by
  rcases h with ⟨first, rest, hfirst, rfl⟩
  exact ⟨first, rest ++ ds, hfirst, by simp⟩

/-- What stands in a text stands in it after any other text. -/
theorem StandsIn.after {shape : Shape} {ds : List Char} (h : shape.StandsIn ds)
    (cs : List Char) : shape.StandsIn (cs ++ ds) := by
  rcases h with ⟨before, rest, hrest, rfl⟩
  exact ⟨cs ++ before, rest, hrest, by simp⟩

/-- What begins two texts together begins the first one, or all of the first one belongs to it. -/
theorem begins_append_cases {shape : Shape} {cs ds : List Char} (h : shape.Begins (cs ++ ds)) :
    shape.Begins cs ∨ ∃ more, shape.Covers (cs ++ more) := by
  rcases h with ⟨first, rest, hfirst, hsplit⟩
  rcases List.append_eq_append_iff.mp hsplit with ⟨more, rfl, -⟩ | ⟨more, rfl, -⟩
  · exact Or.inr ⟨more, hfirst⟩
  · exact Or.inl ⟨first, more, hfirst, rfl⟩

namespace Bracketed

variable {shape head tail : Shape} (h : Bracketed shape head tail)
include h

/-! ## Matches across a seam -/

/-- The text up to a closing bracket adds at most one match to those after it. -/
theorem count_append_bracket_bounds {piece : List Char} (hpiece : ')' ∉ piece)
    (rest : List Char) :
    count shape rest ≤ count shape (piece ++ ')' :: rest) ∧
      count shape (piece ++ ')' :: rest) ≤ count shape rest + 1 := by
  by_cases hboth : head.StandsIn piece ∧ tail.Begins rest
  · have hmatch := h.count_append_bracket hpiece hboth.1 hboth.2
    omega
  · have hskip := h.count_append_bracket_of_not hpiece hboth
    omega

/-- A text without closing brackets adds at most one match to those of the text after it. -/
theorem count_append_bounds_of_not_mem {piece : List Char} (hpiece : ')' ∉ piece)
    (ds : List Char) :
    count shape ds ≤ count shape (piece ++ ds) ∧
      count shape (piece ++ ds) ≤ count shape ds + 1 := by
  by_cases hmem : ')' ∈ ds
  · rcases List.eq_append_cons_of_mem hmem with ⟨first, rest, rfl, hfirst⟩
    have hlonger : ')' ∉ piece ++ first := by simp [hpiece, hfirst]
    have hbounds := h.count_append_bracket_bounds hlonger rest
    rw [List.append_assoc] at hbounds
    by_cases hboth : head.StandsIn first ∧ tail.Begins rest
    · -- The head that stood in the second text still stands before the bracket.
      have hshort := h.count_append_bracket hfirst hboth.1 hboth.2
      have hlong := h.count_append_bracket hlonger (hboth.1.after piece) hboth.2
      rw [List.append_assoc] at hlong
      omega
    · have hshort := h.count_append_bracket_of_not hfirst hboth
      omega
  · have hnone := h.count_of_not_mem hmem
    have htogether : ')' ∉ piece ++ ds := by simp [hpiece, hmem]
    have hboth := h.count_of_not_mem htogether
    omega

/-- A text has at least the matches of its two parts, and at most one more. -/
theorem count_append_bounds (cs ds : List Char) :
    count shape cs + count shape ds ≤ count shape (cs ++ ds) ∧
      count shape (cs ++ ds) ≤ count shape cs + count shape ds + 1 := by
  by_cases hmem : ')' ∈ cs
  · rcases List.eq_append_cons_of_mem hmem with ⟨piece, rest, rfl, hpiece⟩
    have ih := count_append_bounds rest ds
    rw [List.append_assoc, List.cons_append]
    by_cases hbefore : head.StandsIn piece ∧ tail.Begins rest
    · have hpart := h.count_append_bracket hpiece hbefore.1 hbefore.2
      have hwhole := h.count_append_bracket hpiece hbefore.1 (hbefore.2.append ds)
      omega
    · have hpart := h.count_append_bracket_of_not hpiece hbefore
      by_cases hacross : head.StandsIn piece ∧ tail.Begins (rest ++ ds)
      · -- The tail is completed across the seam, so that all of `rest` belongs to it.
        have hwhole := h.count_append_bracket hpiece hacross.1 hacross.2
        rcases begins_append_cases hacross.2 with htail | ⟨more, hmore⟩
        · exact absurd ⟨hacross.1, htail⟩ hbefore
        · have hinside := h.count_append_tail hmore ds
          have hnone : count shape rest = 0 :=
            h.count_of_not_mem fun hrest =>
              hmore.not_mem h.tail_lacks (List.mem_append_left more hrest)
          omega
      · have hwhole := h.count_append_bracket_of_not hpiece hacross
        omega
  · have hnone := h.count_of_not_mem hmem
    have hbounds := h.count_append_bounds_of_not_mem hmem ds
    omega
termination_by cs.length
decreasing_by
  subst_vars
  simp only [List.length_append, List.length_cons]
  omega

/-- A line feed at the seam is no part of a match. -/
theorem count_joined_bounds (cs ds : List Char) :
    count shape cs + count shape ds ≤ count shape (cs ++ '\n' :: ds) ∧
      count shape (cs ++ '\n' :: ds) ≤ count shape cs + count shape ds + 1 := by
  have hbounds := h.count_append_bounds cs ('\n' :: ds)
  rwa [count_cons_blank h.gaps Text.isBlank_lineFeed] at hbounds

end Bracketed
end Shape

/-! ## Measures of a joined text -/

/-- The words of joined texts are those of the parts. -/
theorem words_joined (cs ds : List Char) :
    Text.words (cs ++ '\n' :: ds) = Text.words cs ++ Text.words ds :=
  Text.words_append_separator (Text.isWordChar_of_isBlank Text.isBlank_lineFeed) cs ds

/-- Every branch word stands in a joined text as often as in its parts. -/
theorem branchCounts_joined (cs ds : List Char) :
    branchCounts (cs ++ '\n' :: ds) =
      List.zipWith (fun a b => (a.1, a.2 + b.2)) (branchCounts cs) (branchCounts ds) := by
  rw [branchCounts_eq_map_count_words, branchCounts_eq_map_count_words,
    branchCounts_eq_map_count_words, words_joined, List.zipWith_map, List.zipWith_self]
  simp only [List.count_append]

/-- The branches of a joined text are those of its parts. -/
theorem complexity_joined (cs ds : List Char) :
    complexity (cs ++ '\n' :: ds) + 1 = complexity cs + complexity ds := by
  rw [complexity_eq_countP_words, complexity_eq_countP_words, complexity_eq_countP_words,
    words_joined, List.countP_append]
  omega

/-- A joined text has at least the functions of its parts, and at most one more of each shape. -/
theorem functionCount_joined_bounds (cs ds : List Char) :
    functionCount cs + functionCount ds ≤ functionCount (cs ++ '\n' :: ds) ∧
      functionCount (cs ++ '\n' :: ds) ≤ functionCount cs + functionCount ds + 2 := by
  have hdeclarations := Shape.declaration_bracketed.count_joined_bounds cs ds
  have hbindings := Shape.binding_bracketed.count_joined_bounds cs ds
  simp only [functionCount]
  omega

/--
Two texts are joined by a line feed.  The lines, the branches, the copies of every branch word and
the comment lines of the joined text are those of the two texts together.  Of each of the two shapes
of functions it has at least as many matches as both, and at most one more, so that it has at most
two functions more.
-/
theorem metricsOf_joined (source source' : String) :
    (metricsOf (source ++ "\n" ++ source')).lines =
      (metricsOf source).lines + (metricsOf source').lines ∧
    ((metricsOf (source ++ "\n" ++ source')).complexity : Int) - 1 =
      ((metricsOf source).complexity - 1) + ((metricsOf source').complexity - 1) ∧
    branchCounts (source ++ "\n" ++ source').toList =
      List.zipWith (fun a b => (a.1, a.2 + b.2)) (branchCounts source.toList)
        (branchCounts source'.toList) ∧
    commentLines (linesOf (source ++ "\n" ++ source')) =
      commentLines (linesOf source) + commentLines (linesOf source') ∧
    (∀ shape ∈ [Shape.declaration, Shape.binding],
      shape.count source.toList + shape.count source'.toList ≤
        shape.count (source ++ "\n" ++ source').toList ∧
      shape.count (source ++ "\n" ++ source').toList ≤
        shape.count source.toList + shape.count source'.toList + 1) ∧
    (metricsOf source).functions + (metricsOf source').functions ≤
      (metricsOf (source ++ "\n" ++ source')).functions ∧
    (metricsOf (source ++ "\n" ++ source')).functions ≤
      (metricsOf source).functions + (metricsOf source').functions + 2 := by
  have hlines : linesOf (source ++ "\n" ++ source') = linesOf source ++ linesOf source' :=
    linesOf_append source source'
  have hchars : (source ++ "\n" ++ source').toList = source.toList ++ '\n' :: source'.toList := by
    simp
  simp only [metricsOf, Metrics.ofCounts, hlines, hchars]
  refine ⟨List.length_append, ?_, branchCounts_joined _ _, List.countP_append, ?_,
    functionCount_joined_bounds _ _⟩
  · have hbranches := complexity_joined source.toList source'.toList
    omega
  · intro shape hshape
    rcases List.mem_pair.mp hshape with rfl | rfl
    · exact Shape.declaration_bracketed.count_joined_bounds _ _
    · exact Shape.binding_bracketed.count_joined_bounds _ _

/-- One parameter list across the seam completes a declaration and a binding. -/
example : functionCount "const x = (function y(".toList = 0 ∧ functionCount "z) => 1".toList = 0 ∧
    functionCount "const x = (function y(\nz) => 1".toList = 2 := by
  refine ⟨?_, ?_, ?_⟩ <;> cbv

end ScriptReview
