import Mathlib.Data.List.DropRight
import Mathlib.Data.List.TakeWhile
import ScriptReview.Text.Blank
import ScriptReview.Text.Word

/-!
# What trimming takes away

Trimming a text takes away a stretch of blanks at each end and nothing else, and what is left has no
blank at its ends.  This determines the trimmed text.

Main definition: `Text.Bare` says that no character of a set stands at an end of a text.

Main results:

* `Text.exists_eq_append_trim` splits a text into blanks, the trimmed text, and blanks.
* `Text.eq_trimBy_iff` says that the trimmed text is the only bare one in the middle of the text.
* `Text.trimBy_trimBy`, `Text.trimBy_append_append` and `Text.trimBy_eq_nil_iff` say what follows.
* `Text.isWordChar_iff` lists the characters of words, and `Text.isWordChar_of_isBlank` says that no
  blank is among them.
-/

namespace ScriptReview
namespace Text

/-- A text ends with the characters that trimming takes away from its end. -/
theorem exists_eq_trimEndBy_append (p : Char → Bool) (cs : List Char) :
    ∃ after, (∀ c ∈ after, p c = true) ∧ cs = trimEndBy p cs ++ after := by
  refine ⟨(cs.reverse.takeWhile p).reverse, ?_, ?_⟩
  · intro c hc
    rw [List.mem_reverse] at hc
    exact List.mem_takeWhile_imp hc
  · rw [trimEndBy, ← List.reverse_append, List.takeWhile_append_dropWhile, List.reverse_reverse]

/-- Trimming takes away a stretch of the set at each end of a text. -/
theorem exists_eq_append_trimBy (p : Char → Bool) (cs : List Char) :
    ∃ before after, (∀ c ∈ before, p c = true) ∧ (∀ c ∈ after, p c = true) ∧
      cs = before ++ trimBy p cs ++ after := by
  obtain ⟨after, hafter, hsplit⟩ := exists_eq_trimEndBy_append p (cs.dropWhile p)
  refine ⟨cs.takeWhile p, after, fun c hc => List.mem_takeWhile_imp hc, hafter, ?_⟩
  rw [trimBy, List.append_assoc, ← hsplit, List.takeWhile_append_dropWhile]

/-- A text is its trimmed form between two stretches of blanks. -/
theorem exists_eq_append_trim (cs : List Char) :
    ∃ before after, (∀ c ∈ before, isBlank c = true) ∧ (∀ c ∈ after, isBlank c = true) ∧
      cs = before ++ trim cs ++ after :=
  exists_eq_append_trimBy isBlank cs

/-! ## What is left -/

/-- A text that neither begins nor ends with a character of a set. -/
def Bare (p : Char → Bool) (cs : List Char) : Prop :=
  (∀ c ∈ cs.head?, p c = false) ∧ ∀ c ∈ cs.getLast?, p c = false

/-- A text is bare if it is empty, or if its first and its last character are not in the set. -/
theorem bare_iff {p : Char → Bool} {cs : List Char} :
    Bare p cs ↔
      cs = [] ∨ (∃ c ∈ cs.head?, p c = false) ∧ ∃ c ∈ cs.getLast?, p c = false := by
  cases cs with
  | nil => simp [Bare]
  | cons c cs =>
      have hlast := List.getLast?_eq_some_getLast (List.cons_ne_nil c cs)
      simp [Bare, hlast]

/-- Trimming the end is the same as dropping characters from the right. -/
theorem trimEndBy_eq_rdropWhile (p : Char → Bool) (cs : List Char) :
    trimEndBy p cs = cs.rdropWhile p :=
  rfl

/-- The trimmed text is bare. -/
theorem bare_trimBy (p : Char → Bool) (cs : List Char) : Bare p (trimBy p cs) := by
  rw [trimBy, trimEndBy_eq_rdropWhile]
  constructor
  · -- The first character stays when the end is trimmed.
    intro c hc
    obtain ⟨after, hsplit⟩ := List.rdropWhile_prefix p (cs.dropWhile p)
    have hhead := List.head?_dropWhile_not p cs
    rw [← hsplit, List.head?_append, Option.mem_def.mp hc] at hhead
    exact hhead
  · intro c hc
    obtain ⟨hne, rfl⟩ := List.mem_getLast?_eq_getLast hc
    simpa using List.rdropWhile_last_not p (cs.dropWhile p) hne

/-- What stands between two stretches of the set is left when it is bare. -/
theorem trimBy_between {p : Char → Bool} {before middle after : List Char}
    (hbefore : ∀ c ∈ before, p c = true) (hafter : ∀ c ∈ after, p c = true)
    (hmiddle : Bare p middle) : trimBy p (before ++ middle ++ after) = middle := by
  have hend : (middle ++ after).rdropWhile p = middle := by
    have hself : middle.rdropWhile p = middle := by
      rw [List.rdropWhile_eq_self_iff]
      intro hne
      simp [hmiddle.2 _ (List.getLast?_eq_some_getLast hne)]
    have hreverse : ∀ c ∈ after.reverse, p c = true := by simpa using hafter
    rw [List.rdropWhile, List.reverse_append, List.dropWhile_append_of_pos hreverse]
    exact hself
  rw [trimBy, trimEndBy_eq_rdropWhile, List.append_assoc, List.dropWhile_append_of_pos hbefore]
  cases middle with
  | nil => rw [List.nil_append, List.dropWhile_eq_nil_iff.mpr hafter, List.rdropWhile_nil]
  | cons c rest =>
      have hc : p c = false := hmiddle.1 c rfl
      rwa [List.cons_append, List.dropWhile_cons_of_neg (by simp [hc])]

/-- A bare text has nothing to trim. -/
theorem trimBy_eq_self {p : Char → Bool} {cs : List Char} (h : Bare p cs) : trimBy p cs = cs := by
  have hnone : ∀ c ∈ ([] : List Char), p c = true := by simp
  have hbetween := trimBy_between hnone hnone h
  rwa [List.nil_append, List.append_nil] at hbetween

/-- The trimmed text is the only bare text that stands between two stretches of the set. -/
theorem eq_trimBy_iff {p : Char → Bool} {cs middle : List Char} :
    middle = trimBy p cs ↔ Bare p middle ∧ ∃ before after, (∀ c ∈ before, p c = true) ∧
      (∀ c ∈ after, p c = true) ∧ cs = before ++ middle ++ after := by
  constructor
  · rintro rfl
    exact ⟨bare_trimBy p cs, exists_eq_append_trimBy p cs⟩
  · rintro ⟨hmiddle, before, after, hbefore, hafter, rfl⟩
    exact (trimBy_between hbefore hafter hmiddle).symm

/-- Trimming a trimmed text changes nothing. -/
theorem trimBy_trimBy (p : Char → Bool) (cs : List Char) : trimBy p (trimBy p cs) = trimBy p cs :=
  trimBy_eq_self (bare_trimBy p cs)

/-- Stretches of the set around a text are trimmed away with those that it has. -/
theorem trimBy_append_append {p : Char → Bool} {before after : List Char}
    (hbefore : ∀ c ∈ before, p c = true) (hafter : ∀ c ∈ after, p c = true) (cs : List Char) :
    trimBy p (before ++ cs ++ after) = trimBy p cs := by
  obtain ⟨before', after', hbefore', hafter', hsplit⟩ := exists_eq_append_trimBy p cs
  refine (eq_trimBy_iff.mpr ⟨bare_trimBy p cs, before ++ before', after' ++ after, ?_, ?_, ?_⟩).symm
  · exact List.forall_mem_append.mpr ⟨hbefore, hbefore'⟩
  · exact List.forall_mem_append.mpr ⟨hafter', hafter⟩
  · conv_lhs => rw [hsplit]
    simp only [List.append_assoc]

/-- Nothing is left of a text exactly if all its characters are in the set. -/
theorem trimBy_eq_nil_iff {p : Char → Bool} {cs : List Char} :
    trimBy p cs = [] ↔ ∀ c ∈ cs, p c = true := by
  constructor
  · intro h
    obtain ⟨before, after, hbefore, hafter, hsplit⟩ := exists_eq_append_trimBy p cs
    rw [h, List.append_nil] at hsplit
    rw [hsplit]
    exact List.forall_mem_append.mpr ⟨hbefore, hafter⟩
  · intro h
    simp [trimBy, List.dropWhile_eq_nil_iff.mpr h, trimEndBy]

/-! ## Characters -/

/-- A test over the words of a list tells what all their characters are. -/
theorem forall_mem_of_all {words : List (List Char)} {p : Char → Bool} {b : Bool}
    (h : (words.all fun w => !w.isEmpty && w.all fun c => p c == b) = true) :
    ∀ w ∈ words, w ≠ [] ∧ ∀ c ∈ w, p c = b := by
  intro w hw
  obtain ⟨hempty, hchars⟩ := (Bool.and_eq_true _ _).mp (List.all_eq_true.mp h w hw)
  refine ⟨by simpa using hempty, ?_⟩
  intro c hc
  exact eq_of_beq (List.all_eq_true.mp hchars c hc)

/-- The line feed is a blank. -/
theorem isBlank_lineFeed : isBlank '\n' = true := by
  decide

/-- The space is a blank. -/
theorem isBlank_space : isBlank ' ' = true := by
  decide

/-- The characters of words are the underscore and those with the code points of ASCII letters and
digits. -/
theorem isWordChar_iff_toNat (c : Char) :
    isWordChar c = true ↔
      (65 ≤ c.toNat ∧ c.toNat ≤ 90) ∨ (97 ≤ c.toNat ∧ c.toNat ≤ 122) ∨
        (48 ≤ c.toNat ∧ c.toNat ≤ 57) ∨ c = '_' := by
  rw [isWordChar, Bool.or_eq_true, beq_iff_eq]
  change ((decide (65 ≤ c.toNat ∧ c.toNat ≤ 90) ||
    (decide (97 ≤ c.toNat) && decide (c.toNat ≤ 122)) ||
      (decide (48 ≤ c.toNat) && decide (c.toNat ≤ 57))) = true ∨ c = '_') ↔ _
  simp only [Bool.or_eq_true, Bool.and_eq_true, decide_eq_true_eq, or_assoc]

/-- The characters of words are the ASCII digits, the ASCII letters and the underscore. -/
theorem isWordChar_iff (c : Char) :
    isWordChar c = true ↔
      ('0' ≤ c ∧ c ≤ '9') ∨ ('A' ≤ c ∧ c ≤ 'Z') ∨ ('a' ≤ c ∧ c ≤ 'z') ∨ c = '_' := by
  rw [isWordChar_iff_toNat]
  change _ ↔ (48 ≤ c.toNat ∧ c.toNat ≤ 57) ∨ (65 ≤ c.toNat ∧ c.toNat ≤ 90) ∨
    (97 ≤ c.toNat ∧ c.toNat ≤ 122) ∨ c = '_'
  grind

/-- The code points of word characters lie between those of the digits and the small letters. -/
theorem toNat_of_isWordChar {c : Char} (h : isWordChar c = true) :
    48 ≤ c.toNat ∧ c.toNat ≤ 122 := by
  rcases (isWordChar_iff_toNat c).mp h with h | h | h | rfl
  · omega
  · omega
  · omega
  · decide

/-- The code points of blanks lie up to the space or from the no-break space on. -/
theorem toNat_of_isBlank {c : Char} (h : isBlank c = true) : c.toNat ≤ 32 ∨ 160 ≤ c.toNat := by
  simp only [isBlank, isWhiteSpace, Bool.or_eq_true, Bool.and_eq_true, beq_iff_eq, bne_iff_ne,
    decide_eq_true_eq] at h
  omega

/-- No character beyond ASCII belongs to a word. -/
theorem isWordChar_of_not_ascii {c : Char} (h : 128 ≤ c.toNat) : isWordChar c = false := by
  by_contra hword
  have hlow := toNat_of_isWordChar (by simpa using hword)
  omega

/-- No blank belongs to a word. -/
theorem isWordChar_of_isBlank {c : Char} (h : isBlank c = true) : isWordChar c = false := by
  by_contra hword
  have hlow := toNat_of_isWordChar (by simpa using hword)
  have hgap := toNat_of_isBlank h
  omega

end Text
end ScriptReview
