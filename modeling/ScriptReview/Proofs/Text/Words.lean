import ScriptReview.Proofs.Text.Trim
import ScriptReview.Text.Search

/-!
# The words of a text

The words of a text are its longest stretches of word characters.  Counting the places where a word
stands as a whole is counting it among the words of the text.

Main definitions:

* `Text.words` lists the words of a text in their order.
* `Text.Runs` relates a text to its maximal runs of word characters.
* `Text.places` counts the places where a word stands, each of them by itself.

Main results:

* `Text.runs_iff` says that the maximal runs of a text are its words.
* `Text.occurrences_eq_places` says that the search for a word loses nothing where it passes over
  what it has found.
* `Text.occurrences_eq_count_words` says that the occurrences of a word are its copies in `words`.
* `Text.words_append_separator` says that any other character separates words.
* `Text.words_joinWith_lineFeed` and `Text.words_trim` say that the words of a text are those of
  its trimmed lines.
-/

namespace ScriptReview
namespace Text

/-- The longest stretches of word characters in a text, in their order. -/
def words (cs : List Char) : List (List Char) :=
  (cs.splitOnP fun c => !isWordChar c).filter (!·.isEmpty)

/-! ## Where words end -/

@[simp]
theorem words_nil : words [] = [] :=
  rfl

/-- A character that is no word character separates the words before it from those after it. -/
theorem words_append_separator {c : Char} (hc : isWordChar c = false) (xs ys : List Char) :
    words (xs ++ c :: ys) = words xs ++ words ys := by
  unfold words
  rw [List.splitOnP_append_cons xs ys (by simp [hc]), List.filter_append]

/-- A stretch of word characters is one word. -/
theorem words_eq_singleton {xs : List Char} (hne : xs ≠ [])
    (h : ∀ c ∈ xs, isWordChar c = true) : words xs = [xs] := by
  unfold words
  rw [List.splitOnP_eq_singleton (fun c hc => by simp [h c hc])]
  simp [hne]

/-- A character that is no word character begins no word. -/
theorem words_cons_separator {c : Char} (hc : isWordChar c = false) (cs : List Char) :
    words (c :: cs) = words cs := by
  have h := words_append_separator hc [] cs
  rwa [List.nil_append, words_nil, List.nil_append] at h

/-- Blanks before a text add no word. -/
theorem words_blanks_append {bs : List Char} (h : ∀ c ∈ bs, isBlank c = true) (cs : List Char) :
    words (bs ++ cs) = words cs := by
  induction bs with
  | nil => rfl
  | cons b bs ih =>
      have hb : isWordChar b = false := isWordChar_of_isBlank (h b List.mem_cons_self)
      rw [List.cons_append, words_cons_separator hb]
      exact ih fun c hc => h c (List.mem_cons_of_mem b hc)

/-- Blanks after a text add no word. -/
theorem words_append_blanks {bs : List Char} (h : ∀ c ∈ bs, isBlank c = true) (cs : List Char) :
    words (cs ++ bs) = words cs := by
  cases bs with
  | nil => rw [List.append_nil]
  | cons b bs =>
      have hb : isWordChar b = false := isWordChar_of_isBlank (h b List.mem_cons_self)
      have hrest : words bs = [] := by
        have hblank : ∀ c ∈ bs, isBlank c = true := fun c hc => h c (List.mem_cons_of_mem b hc)
        have hwords := words_blanks_append hblank []
        rwa [List.append_nil, words_nil] at hwords
      rw [words_append_separator hb, hrest, List.append_nil]

/-- Trimming takes no word away. -/
theorem words_trim (cs : List Char) : words (trim cs) = words cs := by
  obtain ⟨before, after, hbefore, hafter, hsplit⟩ := exists_eq_append_trim cs
  calc
    words (trim cs) = words (before ++ trim cs) := (words_blanks_append hbefore _).symm
    _ = words (before ++ trim cs ++ after) := (words_append_blanks hafter _).symm
    _ = words cs := by rw [← hsplit]

/-- The words of a text are the words of its lines. -/
theorem words_joinWith_lineFeed (lines : List (List Char)) :
    words (joinWith '\n' lines) = lines.flatMap words := by
  have hbreak : isWordChar '\n' = false := isWordChar_of_isBlank isBlank_lineFeed
  induction lines with
  | nil => rfl
  | cons line rest ih =>
      cases rest with
      | nil => simp [joinWith]
      | cons next rest =>
          rw [joinWith_cons_cons, words_append_separator hbreak, ih, ← List.flatMap_cons]

/-- A stretch of word characters is the first word of a text if no word character follows it. -/
theorem words_append_of_ends {xs rest : List Char} (hne : xs ≠ [])
    (h : ∀ c ∈ xs, isWordChar c = true) (hend : beginsInWord rest = false) :
    words (xs ++ rest) = xs :: words rest := by
  have hfirst := words_eq_singleton hne h
  cases rest with
  | nil => rw [List.append_nil, hfirst, words_nil]
  | cons c rest =>
      have hc : isWordChar c = false := by simpa [beginsInWord] using hend
      rw [words_append_separator hc, hfirst, words_cons_separator hc]
      rfl

/-- After the word characters at its beginning a text does not go on with one. -/
theorem beginsInWord_dropWhile (cs : List Char) :
    beginsInWord (cs.dropWhile isWordChar) = false := by
  have hhead := List.head?_dropWhile_not isWordChar cs
  cases hrest : (cs.dropWhile isWordChar).head? with
  | none => simp [beginsInWord, hrest]
  | some c => simpa [beginsInWord, hrest] using hhead

/-- A text that begins with a word character begins with its first word. -/
theorem words_eq_takeWhile_cons {cs : List Char} (h : beginsInWord cs = true) :
    words cs = cs.takeWhile isWordChar :: words (cs.dropWhile isWordChar) := by
  have hne : cs.takeWhile isWordChar ≠ [] := by
    cases cs with
    | nil => simp [beginsInWord] at h
    | cons c cs =>
        have hc : isWordChar c = true := by simpa [beginsInWord] using h
        simp [hc]
  have hsplit := words_append_of_ends hne (fun c hc => List.mem_takeWhile_imp hc)
    (beginsInWord_dropWhile cs)
  rwa [List.takeWhile_append_dropWhile] at hsplit

/-! ## Maximal runs -/

/-- The maximal runs of word characters of a text, from left to right. What is no word character is
left out, and a run goes on until no word character follows. -/
inductive Runs : List Char → List (List Char) → Prop
  | done : Runs [] []
  | skip {c : Char} {cs : List Char} {runs : List (List Char)} (hc : isWordChar c = false)
      (h : Runs cs runs) : Runs (c :: cs) runs
  | take {run rest : List Char} {runs : List (List Char)} (hne : run ≠ [])
      (hrun : ∀ c ∈ run, isWordChar c = true) (hend : beginsInWord rest = false)
      (h : Runs rest runs) : Runs (run ++ rest) (run :: runs)

/-- The maximal runs of a text are its words. -/
theorem Runs.eq_words {cs : List Char} {runs : List (List Char)} (h : Runs cs runs) :
    runs = words cs := by
  induction h with
  | done => rfl
  | skip hc _ ih => rw [words_cons_separator hc, ih]
  | take hne hrun hend _ ih => rw [words_append_of_ends hne hrun hend, ih]

/-- The words of a text are its maximal runs. -/
theorem runs_words (cs : List Char) : Runs cs (words cs) := by
  match cs with
  | [] => exact .done
  | c :: cs =>
    cases hc : isWordChar c with
    | false =>
        rw [words_cons_separator hc]
        exact .skip hc (runs_words cs)
    | true =>
        have hshorter : (cs.dropWhile isWordChar).length ≤ cs.length :=
          (List.dropWhile_suffix isWordChar).length_le
        have hbegins : beginsInWord (c :: cs) = true := by simpa [beginsInWord] using hc
        have hrest : Runs ((c :: cs).dropWhile isWordChar)
            (words ((c :: cs).dropWhile isWordChar)) := by
          rw [List.dropWhile_cons_of_pos hc]
          exact runs_words (cs.dropWhile isWordChar)
        have hne : (c :: cs).takeWhile isWordChar ≠ [] := by simp [hc]
        have hrun := Runs.take hne (fun d hd => List.mem_takeWhile_imp hd)
          (beginsInWord_dropWhile (c :: cs)) hrest
        rwa [List.takeWhile_append_dropWhile, ← words_eq_takeWhile_cons hbegins] at hrun
termination_by cs.length
decreasing_by all_goals (simp only [List.length_cons]; omega)

/-- Every text has maximal runs, and they are its words. -/
theorem runs_iff (cs : List Char) (runs : List (List Char)) : Runs cs runs ↔ runs = words cs := by
  constructor
  · exact Runs.eq_words
  · rintro rfl
    exact runs_words cs

/-- Word characters in a row stand in one run. -/
theorem Runs.exists_run_around {cs : List Char} {runs : List (List Char)} (h : Runs cs runs)
    {stretch : List Char} (hne : stretch ≠ []) (hword : ∀ c ∈ stretch, isWordChar c = true)
    (hin : stretch <:+: cs) : ∃ run ∈ runs, stretch <:+: run := by
  obtain ⟨d, stretch, rfl⟩ := List.exists_cons_of_ne_nil hne
  have hd : isWordChar d = true := hword d List.mem_cons_self
  induction h with
  | done => simp at hin
  | skip hc _ ih =>
      rcases List.infix_cons_iff.mp hin with hprefix | hin
      · have heq := (List.cons_prefix_cons.mp hprefix).1
        rw [heq, hc] at hd
        contradiction
      · exact ih hin
  | @take run rest runs _ _ hend _ ih =>
      rcases hin with ⟨before, after, hsplit⟩
      rw [List.append_assoc] at hsplit
      rcases List.append_eq_append_iff.mp hsplit with ⟨more, rfl, hmore⟩ | ⟨more, -, rfl⟩
      · refine ⟨before ++ more, List.mem_cons_self, ?_⟩
        rcases List.append_eq_append_iff.mp hmore with ⟨left, rfl, -⟩ | ⟨left, hleft, rfl⟩
        · exact ⟨before, left, by simp⟩
        · -- What follows the run does not go on with a word character.
          cases left with
          | nil => exact ⟨before, [], by simp [hleft]⟩
          | cons c left =>
              have hc : isWordChar c = true := hword c (by simp [hleft])
              simp [beginsInWord, hc] at hend
      · obtain ⟨found, hfound, hin⟩ := ih ⟨more, after, by simp⟩
        exact ⟨found, List.mem_cons_of_mem _ hfound, hin⟩

/-! ## Counting words -/

/-- A text begins with a word exactly when its first stretch of word characters is that word. -/
theorem beginsWithWord_eq {word : List Char} (hword : ∀ c ∈ word, isWordChar c = true)
    (cs : List Char) : beginsWithWord word cs = (cs.takeWhile isWordChar == word) := by
  induction word generalizing cs with
  | nil =>
      cases cs with
      | nil => rfl
      | cons c cs => cases hc : isWordChar c <;> simp [beginsWithWord, beginsInWord, hc]
  | cons d word ih =>
      have hd : isWordChar d = true := hword d List.mem_cons_self
      have hrest : ∀ c ∈ word, isWordChar c = true :=
        fun c hc => hword c (List.mem_cons_of_mem d hc)
      cases cs with
      | nil => rfl
      | cons c cs =>
          have htail := ih hrest cs
          unfold beginsWithWord at htail ⊢
          by_cases hcd : c = d
          · subst hcd
            simpa [hd] using htail
          · have hbegins : (d :: word).isPrefixOf (c :: cs) = false := by
              rw [List.isPrefixOf_cons_cons, beq_false_of_ne (Ne.symm hcd), Bool.false_and]
            have hfirst : (c :: cs).takeWhile isWordChar ≠ d :: word := by
              cases hc : isWordChar c <;> simp [hc, hcd]
            rw [hbegins, Bool.false_and, beq_false_of_ne hfirst]

/-- Adds the places where a word stands in the text that remains to a number. Every place is looked
at, whatever stands before it. The flag says whether a word character comes before the text. -/
def placesFrom (word : List Char) : Bool → Nat → List Char → Nat
  | _, n, [] => n
  | inWord, n, c :: cs =>
    placesFrom word (isWordChar c)
      (if !inWord && beginsWithWord word (c :: cs) then n + 1 else n) cs

/-- The number of all places where a text stands as a whole word. -/
def places (word cs : List Char) : Nat :=
  placesFrom word false 0 cs

/-- What is passed over after the first character of a word is the rest of the word. -/
theorem isWordChar_of_mem_take {word : List Char} (hword : ∀ c ∈ word, isWordChar c = true)
    {c : Char} {cs : List Char} (h : beginsWithWord word (c :: cs) = true) :
    ∀ d ∈ cs.take (word.length - 1), isWordChar c = true ∧ isWordChar d = true := by
  cases word with
  | nil => simp
  | cons first rest =>
      rw [beginsWithWord, Bool.and_eq_true, List.isPrefixOf_iff_prefix] at h
      obtain ⟨rfl, hprefix⟩ := List.cons_prefix_cons.mp h.1
      have htake : cs.take rest.length = rest := (List.prefix_iff_eq_take.mp hprefix).symm
      intro d hd
      rw [List.length_cons, Nat.add_sub_cancel, htake] at hd
      exact ⟨hword first List.mem_cons_self, hword d (List.mem_cons_of_mem first hd)⟩

/-- A search that passes over word characters after others counts every place, because the word
stands at none of those. -/
theorem occurrencesFrom_eq_placesFrom {word : List Char} (hword : ∀ c ∈ word, isWordChar c = true)
    {passed : Nat} {inWord : Bool} (n : Nat) {cs : List Char}
    (hpassed : ∀ c ∈ cs.take passed, inWord = true ∧ isWordChar c = true) :
    occurrencesFrom word passed inWord n cs = placesFrom word inWord n cs := by
  induction cs generalizing passed inWord n with
  | nil => cases passed <;> rfl
  | cons c cs ih =>
      cases passed with
      | zero =>
          simp only [occurrencesFrom, placesFrom]
          by_cases hhit : (!inWord && beginsWithWord word (c :: cs)) = true
          · rw [if_pos hhit, if_pos hhit]
            exact ih (n + 1) (isWordChar_of_mem_take hword (Bool.and_eq_true_iff.mp hhit).2)
          · rw [if_neg hhit, if_neg hhit]
            exact ih n (by simp)
      | succ passed =>
          rw [List.take_succ_cons, List.forall_mem_cons] at hpassed
          obtain ⟨⟨rfl, hc⟩, hrest⟩ := hpassed
          simp only [occurrencesFrom, placesFrom, Bool.not_true, Bool.false_and]
          exact ih n fun d hd => ⟨hc, (hrest d hd).2⟩

/-- The search for a word goes on after the end of what it has found, and misses no place. -/
theorem occurrences_eq_places {word : List Char} (hword : ∀ c ∈ word, isWordChar c = true)
    (cs : List Char) : occurrences word cs = places word cs :=
  occurrencesFrom_eq_placesFrom hword 0 (by simp)

/-- The places counted so far are carried along. -/
theorem placesFrom_eq_add (word : List Char) (inWord : Bool) (n : Nat) (cs : List Char) :
    placesFrom word inWord n cs = n + placesFrom word inWord 0 cs := by
  induction cs generalizing inWord n with
  | nil => rfl
  | cons c cs ih =>
      simp only [placesFrom]
      split
      · rw [ih _ (n + 1), ih _ (0 + 1)]
        omega
      · rw [ih _ n]

/-- Where no word character stands, no word begins. -/
theorem beginsWithWord_cons_separator {word : List Char} (hne : word ≠ [])
    (hword : ∀ c ∈ word, isWordChar c = true) {c : Char} (hc : isWordChar c = false)
    (cs : List Char) : beginsWithWord word (c :: cs) = false := by
  rw [beginsWithWord_eq hword]
  simpa [hc] using hne.symm

/-- Inside a word nothing is counted before the word ends. -/
theorem placesFrom_true {word : List Char} (hne : word ≠ [])
    (hword : ∀ c ∈ word, isWordChar c = true) (n : Nat) (cs : List Char) :
    placesFrom word true n cs = placesFrom word false n (cs.dropWhile isWordChar) := by
  induction cs with
  | nil => rfl
  | cons c cs ih =>
      cases hc : isWordChar c with
      | true => simpa [placesFrom, hc] using ih
      | false => simp [placesFrom, hc, beginsWithWord_cons_separator hne hword hc]

/-- A word has as many places in a text as copies among the words of the text. -/
theorem places_eq_count_words {word : List Char} (hne : word ≠ [])
    (hword : ∀ c ∈ word, isWordChar c = true) (cs : List Char) :
    places word cs = (words cs).count word := by
  match cs with
  | [] => rfl
  | c :: cs =>
    cases hc : isWordChar c with
    | false =>
        have ih := places_eq_count_words hne hword cs
        rw [words_cons_separator hc, ← ih]
        simp [places, placesFrom, hc, beginsWithWord_cons_separator hne hword hc]
    | true =>
        have hshorter : (cs.dropWhile isWordChar).length ≤ cs.length :=
          (List.dropWhile_suffix isWordChar).length_le
        have ih := places_eq_count_words hne hword (cs.dropWhile isWordChar)
        have hbegins : beginsInWord (c :: cs) = true := by simpa [beginsInWord] using hc
        rw [words_eq_takeWhile_cons hbegins, List.count_cons, List.dropWhile_cons_of_pos hc, ← ih,
          ← beginsWithWord_eq hword]
        -- The rest of the first word is skipped, whether or not the word was counted.
        have hskip : ∀ n, placesFrom word true n cs =
            n + places word (cs.dropWhile isWordChar) := by
          intro n
          rw [placesFrom_true hne hword, placesFrom_eq_add, places]
        simp only [places, placesFrom, hc, hskip, Bool.not_false, Bool.true_and]
        split <;> omega
termination_by cs.length
decreasing_by all_goals (simp only [List.length_cons]; omega)

/-- A word stands in a text as often as it is one of the words of the text. -/
theorem occurrences_eq_count_words {word : List Char} (hne : word ≠ [])
    (hword : ∀ c ∈ word, isWordChar c = true) (cs : List Char) :
    occurrences word cs = (words cs).count word := by
  rw [occurrences_eq_places hword, places_eq_count_words hne hword]

end Text
end ScriptReview
