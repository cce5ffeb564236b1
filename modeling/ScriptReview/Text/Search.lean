/-!
# Finding and cutting text

Texts are lists here, of characters or of bytes, so that searching and cutting follow their
structure.

Main definitions:

* `contains` looks for a text inside another, `startsWith` and `endsWith` at its ends.
* `splitAt` cuts a text at every separator, `joinWith` puts the pieces together again.

Main results:

* `contains_iff_isInfix` says that `contains` finds exactly the parts of a text.
* `joinWith_splitAt` says that cutting loses nothing, and `splitAt_joinWith` that pieces without
  separators are found again.
-/

namespace ScriptReview
namespace Text

variable {α : Type}

/-! ## Pieces -/

/-- Puts a symbol in front of the first of several pieces. -/
def consToFirst (c : α) : List (List α) → List (List α)
  | [] => [[c]]
  | piece :: pieces => (c :: piece) :: pieces

/-- Puts pieces together with a separator between them. -/
def joinWith (separator : α) : List (List α) → List α
  | [] => []
  | [piece] => piece
  | piece :: pieces => piece ++ separator :: joinWith separator pieces

/-- A separator stands between the first piece and the others. -/
theorem joinWith_cons_cons (separator : α) (first second : List α)
    (pieces : List (List α)) :
    joinWith separator (first :: second :: pieces) =
      first ++ separator :: joinWith separator (second :: pieces) :=
  rfl

/-- A symbol in front of the first piece is in front of the joined text. -/
theorem joinWith_consToFirst (separator c : α) (pieces : List (List α)) :
    joinWith separator (consToFirst c pieces) = c :: joinWith separator pieces := by
  match pieces with
  | [] => rfl
  | [_] => rfl
  | _ :: _ :: _ => rfl

/-- The symbols of a piece stand in the joined text. -/
theorem subset_joinWith (separator : α) {pieces : List (List α)} {piece : List α}
    (h : piece ∈ pieces) : piece ⊆ joinWith separator pieces := by
  induction pieces with
  | nil => simp at h
  | cons first pieces ih =>
    cases pieces with
    | nil => simp_all [joinWith]
    | cons second pieces =>
      rw [joinWith_cons_cons]
      rcases List.mem_cons.mp h with rfl | h
      · exact List.subset_append_left _ _
      · exact List.subset_append_of_subset_right _ (List.subset_cons_of_subset _ (ih h))

variable [DecidableEq α]

/-! ## Searching -/

/-- Whether a text begins with another. -/
def startsWith (beginning cs : List α) : Bool :=
  beginning.isPrefixOf cs

/-- Whether a text ends with another. -/
def endsWith (ending cs : List α) : Bool :=
  ending.isSuffixOf cs

/-- Whether a text stands somewhere inside another. -/
def contains (part : List α) : List α → Bool
  | [] => part.isEmpty
  | c :: cs => part.isPrefixOf (c :: cs) || contains part cs

/-- The parts of a text are what stands inside it. -/
theorem contains_iff_isInfix (part cs : List α) : contains part cs = true ↔ part <:+: cs := by
  induction cs with
  | nil => simp [contains]
  | cons c cs ih => simp [contains, ih, List.infix_cons_iff]

/-! ## Cutting -/

/-- Cuts a text at every separator. There is one piece more than there are separators. -/
def splitAt (separator : α) (cs : List α) : List (List α) :=
  cs.foldr (fun c pieces => if c = separator then [] :: pieces else consToFirst c pieces) [[]]

@[simp]
theorem splitAt_nil (separator : α) : splitAt separator [] = [[]] :=
  rfl

/-- A separator begins a new piece. -/
@[simp]
theorem splitAt_cons_self (separator : α) (cs : List α) :
    splitAt separator (separator :: cs) = [] :: splitAt separator cs := by
  simp [splitAt]

/-- Any other symbol belongs to the first piece. -/
theorem splitAt_cons_of_ne {separator c : α} (h : c ≠ separator) (cs : List α) :
    splitAt separator (c :: cs) = consToFirst c (splitAt separator cs) := by
  simp [splitAt, h]

/-- There is always a piece. -/
theorem splitAt_ne_nil (separator : α) (cs : List α) : splitAt separator cs ≠ [] := by
  induction cs with
  | nil => simp
  | cons c cs _ =>
    by_cases h : c = separator
    · simp [h]
    · rw [splitAt_cons_of_ne h]
      cases splitAt separator cs <;> simp [consToFirst]

/-- A separator between two texts keeps their pieces apart. -/
theorem splitAt_append_cons (separator : α) (cs ds : List α) :
    splitAt separator (cs ++ separator :: ds) = splitAt separator cs ++ splitAt separator ds := by
  induction cs with
  | nil => simp
  | cons c cs ih =>
    by_cases h : c = separator
    · subst h
      rw [List.cons_append, splitAt_cons_self, splitAt_cons_self, ih, List.cons_append]
    · rw [List.cons_append, splitAt_cons_of_ne h, splitAt_cons_of_ne h, ih]
      match hp : splitAt separator cs with
      | [] => exact absurd hp (splitAt_ne_nil separator cs)
      | _ :: _ => rfl

/-- Cutting a text loses nothing. -/
theorem joinWith_splitAt (separator : α) (cs : List α) :
    joinWith separator (splitAt separator cs) = cs := by
  induction cs with
  | nil => rfl
  | cons c cs ih =>
    by_cases h : c = separator
    · subst h
      rw [splitAt_cons_self]
      match hp : splitAt c cs with
      | [] => exact absurd hp (splitAt_ne_nil c cs)
      | piece :: pieces => simp [joinWith, ← hp, ih]
    · rw [splitAt_cons_of_ne h, joinWith_consToFirst, ih]

/-- A piece has no other symbols than the text that is cut. -/
theorem subset_of_mem_splitAt {separator : α} {cs piece : List α}
    (h : piece ∈ splitAt separator cs) : piece ⊆ cs := by
  have hjoined := subset_joinWith separator h
  rwa [joinWith_splitAt] at hjoined

/-- No piece has a separator. -/
theorem not_mem_of_mem_splitAt {separator : α} {cs piece : List α}
    (h : piece ∈ splitAt separator cs) : separator ∉ piece := by
  induction cs generalizing piece with
  | nil =>
    rw [splitAt_nil, List.mem_singleton] at h
    simp [h]
  | cons c cs ih =>
    by_cases hc : c = separator
    · subst hc
      rw [splitAt_cons_self, List.mem_cons] at h
      rcases h with rfl | h
      · simp
      · exact ih h
    · rw [splitAt_cons_of_ne hc] at h
      match hp : splitAt separator cs with
      | [] => exact absurd hp (splitAt_ne_nil separator cs)
      | first :: pieces =>
        rw [hp, consToFirst, List.mem_cons] at h
        rcases h with rfl | h
        · have hfirst : separator ∉ first := ih (by simp [hp])
          simp [Ne.symm hc, hfirst]
        · exact ih (by simp [hp, h])

/-- A text without separators is one piece. -/
theorem splitAt_of_not_mem {separator : α} {cs : List α} (h : separator ∉ cs) :
    splitAt separator cs = [cs] := by
  induction cs with
  | nil => rfl
  | cons c cs ih =>
    rw [List.mem_cons, not_or] at h
    rw [splitAt_cons_of_ne (Ne.symm h.1), ih h.2]
    rfl

/-- Pieces without separators are found again in the joined text. -/
theorem splitAt_joinWith {separator : α} {pieces : List (List α)} (hne : pieces ≠ [])
    (h : ∀ piece ∈ pieces, separator ∉ piece) :
    splitAt separator (joinWith separator pieces) = pieces := by
  induction pieces with
  | nil => exact absurd rfl hne
  | cons first rest ih =>
    have hfirst : splitAt separator first = [first] := splitAt_of_not_mem (h first (by simp))
    cases rest with
    | nil => exact hfirst
    | cons second rest =>
      have hrest := ih (by simp) fun piece hpiece => h piece (List.mem_cons_of_mem first hpiece)
      rw [joinWith_cons_cons, splitAt_append_cons, hfirst, hrest]
      rfl

/-- A text of several pieces is what the first ones are joined to, a separator, and the last
piece. -/
theorem eq_of_splitAt_eq_concat {separator : α} {cs last : List α}
    {front : List (List α)} (hne : front ≠ []) (h : splitAt separator cs = front ++ [last]) :
    splitAt separator (joinWith separator front) = front ∧
      cs = joinWith separator front ++ separator :: last ∧ separator ∉ last := by
  have hpieces : ∀ piece ∈ front ++ [last], separator ∉ piece := fun piece hpiece =>
    not_mem_of_mem_splitAt (h ▸ hpiece)
  have hlast : separator ∉ last := hpieces last (by simp)
  have hfront : splitAt separator (joinWith separator front) = front :=
    splitAt_joinWith hne fun piece hpiece => hpieces piece (List.mem_append_left [last] hpiece)
  refine ⟨hfront, ?_, hlast⟩
  calc
    cs = joinWith separator (splitAt separator cs) := (joinWith_splitAt separator cs).symm
    _ = joinWith separator (splitAt separator (joinWith separator front ++ separator :: last)) := by
      rw [h, splitAt_append_cons, hfront, splitAt_of_not_mem hlast]
    _ = joinWith separator front ++ separator :: last := joinWith_splitAt separator _

end Text
end ScriptReview
