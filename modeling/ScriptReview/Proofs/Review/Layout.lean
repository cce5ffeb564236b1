import ScriptReview.Proofs.Review.Branches
import ScriptReview.Proofs.Review.Lines
import ScriptReview.Proofs.Review.Shapes

/-!
# Reviews and the layout of lines

Indentation, trailing blanks and the form of line ends do not matter to a review.  The rules see
trimmed lines, words and functions are found in the same places, and the share of comments is taken
over trimmed lines.  What lines are trimmed of is what may stand between the parts of a function.

Main results:

* `trim_exact` determines the trimmed form of a line.
* `complexity_eq_of_trim_eq` and `functionCount_eq_of_trim_eq` say that the counters of a text
  depend on its trimmed lines only, although they read the whole text.
* `RuleBook.review_eq_of_trim_eq` says that the whole report does.
-/

namespace ScriptReview

open Text (trim joinWith isBlank)

/-! ## Trimmed lines -/

/-- The trimmed form of a line is what stands between two stretches of the blanks that separate the
parts of a function.  It is empty, or neither its first nor its last character is such a blank, and
no other part of the line is like this.  So trimming again changes nothing, blanks around a line do
not matter, and nothing is left exactly if there is nothing but blanks.  The byte order mark is one
of the blanks, and the control character for a next line is not. -/
theorem trim_exact (cs : List Char) :
    (∀ c, Shape.isSpace c = true ↔
      c.toNat ∈ [0x09, 0x0A, 0x0B, 0x0C, 0x0D, 0x20, 0xA0, 0x1680, 0x2028, 0x2029, 0x202F, 0x205F,
        0x3000, 0xFEFF] ∨ (0x2000 ≤ c.toNat ∧ c.toNat ≤ 0x200A)) ∧
    (∀ middle, middle = trim cs ↔
      (middle = [] ∨ (∃ c ∈ middle.head?, Shape.isSpace c = false) ∧
        ∃ c ∈ middle.getLast?, Shape.isSpace c = false) ∧
      ∃ before after, (∀ c ∈ before, Shape.isSpace c = true) ∧
        (∀ c ∈ after, Shape.isSpace c = true) ∧ cs = before ++ middle ++ after) ∧
    trim (trim cs) = trim cs ∧
    (∀ before after, (∀ c ∈ before, Shape.isSpace c = true) →
      (∀ c ∈ after, Shape.isSpace c = true) → trim (before ++ cs ++ after) = trim cs) ∧
    (trim cs = [] ↔ ∀ c ∈ cs, Shape.isSpace c = true) := by
  refine ⟨Shape.isSpace_iff_toNat, ?_, Text.trimBy_trimBy isBlank cs, ?_, ?_⟩
  · intro middle
    simp only [Shape.isSpace_eq_isBlank, ← Text.bare_iff]
    exact Text.eq_trimBy_iff
  · intro before after hbefore hafter
    simp only [Shape.isSpace_eq_isBlank] at hbefore hafter
    exact Text.trimBy_append_append hbefore hafter cs
  · simp only [Shape.isSpace_eq_isBlank]
    exact Text.trimBy_eq_nil_iff

/-- A byte order mark, a tab, a carriage return and an ideographic space are trimmed away, but not a
space before the control character for a next line. -/
theorem trim_exact_of_marked :
    (∀ c ∈ "\ufeff\t".toList, Shape.isSpace c = true) ∧
      (∀ c ∈ "\r\u3000".toList, Shape.isSpace c = true) ∧
      trim ("\ufeff\t".toList ++ "x \u0085".toList ++ "\r\u3000".toList) = "x \u0085".toList := by
  have hbefore : ∀ c ∈ "\ufeff\t".toList, Shape.isSpace c = true := by
    simp [Shape.isSpace_iff_toNat]
  have hafter : ∀ c ∈ "\r\u3000".toList, Shape.isSpace c = true := by
    simp [Shape.isSpace_iff_toNat]
  obtain ⟨-, hmiddle, -, haround, -⟩ := trim_exact "x \u0085".toList
  refine ⟨hbefore, hafter, ?_⟩
  rw [haround _ _ hbefore hafter]
  have hends : (∃ c ∈ "x \u0085".toList.head?, Shape.isSpace c = false) ∧
      ∃ c ∈ "x \u0085".toList.getLast?, Shape.isSpace c = false :=
    ⟨⟨'x', rfl, by decide⟩, ⟨'\u0085', rfl, by decide⟩⟩
  exact ((hmiddle _).mpr ⟨.inr hends, [], [], by simp⟩).symm

/-! ## Counters -/

/-- The complexity depends on the words of a text only. -/
theorem complexity_eq_of_words_eq {cs ds : List Char} (h : Text.words cs = Text.words ds) :
    complexity cs = complexity ds := by
  rw [complexity_eq_countP_words, complexity_eq_countP_words, h]

/-- The words of joined lines are those of the trimmed lines. -/
theorem words_joinWith_trim (lines : List (List Char)) :
    Text.words (joinWith '\n' lines) = (lines.map trim).flatMap Text.words := by
  rw [Text.words_joinWith_lineFeed, List.flatMap_map]
  congr 1
  funext line
  exact (Text.words_trim line).symm

/-- The complexity of joined lines depends on the trimmed lines only. -/
theorem complexity_eq_of_trim_eq {lines lines' : List (List Char)}
    (h : lines.map trim = lines'.map trim) :
    complexity (joinWith '\n' lines) = complexity (joinWith '\n' lines') := by
  apply complexity_eq_of_words_eq
  rw [words_joinWith_trim, words_joinWith_trim, h]

/-- The number of functions in joined lines depends on the trimmed lines only. -/
theorem functionCount_eq_of_trim_eq {lines lines' : List (List Char)}
    (h : lines.map trim = lines'.map trim) :
    functionCount (joinWith '\n' lines) = functionCount (joinWith '\n' lines') := by
  apply functionCount_eq_of_collapse_eq Text.isBlank_lineFeed Text.isBlank_lineFeed
  rw [← Text.collapse_joinWith_lineFeed lines, ← Text.collapse_joinWith_lineFeed lines', h]

/-- The number of comment lines depends on the trimmed lines only. -/
theorem commentLines_eq_countP_trim (lines : List (List Char)) :
    commentLines lines =
      (lines.map trim).countP fun line => line.isEmpty || ['/', '/'].isPrefixOf line := by
  rw [List.countP_map]
  rfl

/-- The share of comment lines depends on the trimmed lines only. -/
theorem commentRatio_eq_of_trim_eq {lines lines' : List (List Char)}
    (h : lines.map trim = lines'.map trim) : commentRatio lines = commentRatio lines' := by
  have hlength : lines.length = lines'.length := by
    simpa using congrArg List.length h
  have hempty : lines.isEmpty = lines'.isEmpty := by
    simpa using congrArg List.isEmpty h
  rw [commentRatio, commentRatio, commentLines_eq_countP_trim, commentLines_eq_countP_trim, h,
    hlength, hempty]

/-! ## Reports -/

/-- The measures of a text depend on its trimmed lines only. -/
theorem metricsOf_eq_of_trim_eq {source source' : String}
    (h : (linesOf source).map trim = (linesOf source').map trim) :
    metricsOf source = metricsOf source' := by
  have hlength : (linesOf source).length = (linesOf source').length := by
    simpa using congrArg List.length h
  have hcomplexity := complexity_eq_of_trim_eq h
  have hfunctions := functionCount_eq_of_trim_eq h
  rw [joinWith_linesOf, joinWith_linesOf] at hcomplexity hfunctions
  rw [metricsOf, metricsOf, hcomplexity, hfunctions, hlength]

/-- The advice for a text depends on its trimmed lines only. -/
theorem adviceOn_eq_of_trim_eq {source source' : String}
    (h : (linesOf source).map trim = (linesOf source').map trim) :
    adviceOn source = adviceOn source' := by
  rw [adviceOn, adviceOn, metricsOf_eq_of_trim_eq h, commentRatio_eq_of_trim_eq h]

namespace RuleBook

/-- Two texts with the same trimmed lines have the same report under every rule book: the same
issues in the same lines, the same measures and the same suggestions. -/
theorem review_eq_of_trim_eq (book : RuleBook) (source source' : String)
    (h : (linesOf source).map trim = (linesOf source').map trim) :
    book.review source = book.review source' := by
  have hissues : book.scan (linesOf source) = book.scan (linesOf source') := book.scan_congr h
  rw [review, review, hissues, metricsOf_eq_of_trim_eq h, adviceOn_eq_of_trim_eq h]

/-- A byte order mark, tabs, trailing blanks and carriage returns leave the report as it is, also
where they stand inside a declaration. -/
theorem review_eq_of_reindented :
    (linesOf "\ufefffunction\t\r\n\tf (a,\r\n  b) \x7b\r\n\tif (a == b) return  \r\n\x7d").map trim =
        (linesOf "function\nf (a,\nb) \x7b\nif (a == b) return\n\x7d").map trim ∧
      builtin.review "\ufefffunction\t\r\n\tf (a,\r\n  b) \x7b\r\n\tif (a == b) return  \r\n\x7d" =
        builtin.review "function\nf (a,\nb) \x7b\nif (a == b) return\n\x7d" := by
  have h :
      (linesOf "\ufefffunction\t\r\n\tf (a,\r\n  b) \x7b\r\n\tif (a == b) return  \r\n\x7d").map
          trim =
        (linesOf "function\nf (a,\nb) \x7b\nif (a == b) return\n\x7d").map trim := by
    decide
  exact ⟨h, review_eq_of_trim_eq builtin _ _ h⟩

end RuleBook
end ScriptReview
