import Mathlib.Tactic.SplitIfs
import ScriptReview.Json.Value

/-!
# Values are written with printable characters

A value in one line has no control characters: those of its strings are written as escapes, and
everything else is written with digits, letters and signs.

Main definitions:

* `Json.Printable` says that a text has no control characters.

Main results:

* `Decimal.printable_render` is about decimals.
* `Json.Value.printable_compact` is about values in one line.
-/

namespace ScriptReview
namespace Json

/-! ## Texts -/

/-- A text without control characters. -/
def Printable (cs : List Char) : Prop :=
  ∀ c ∈ cs, 0x20 ≤ c.toNat

instance (cs : List Char) : Decidable (Printable cs) :=
  List.decidableBAll (fun c : Char => 0x20 ≤ c.toNat) cs

/-- A printable text has no control character. -/
theorem Printable.not_mem {cs : List Char} (h : Printable cs) {c : Char} (hc : c.toNat < 0x20) :
    c ∉ cs := by
  intro hmem
  have hprintable := h c hmem
  omega

/-- A part of a printable text is printable. -/
theorem Printable.of_subset {cs ds : List Char} (h : Printable ds) (hsub : cs ⊆ ds) :
    Printable cs := by
  intro c hc
  exact h c (hsub hc)

@[simp]
theorem printable_nil : Printable [] := by
  simp [Printable]

@[simp]
theorem printable_cons (c : Char) (cs : List Char) :
    Printable (c :: cs) ↔ 0x20 ≤ c.toNat ∧ Printable cs := by
  simp [Printable]

@[simp]
theorem printable_append (cs ds : List Char) :
    Printable (cs ++ ds) ↔ Printable cs ∧ Printable ds := by
  simp [Printable, or_imp, forall_and]

/-- Digits are printable. -/
theorem printable_toDigits (n : Nat) : Printable (Nat.toDigits 10 n) := by
  intro c hc
  have hdigit : c.isDigit = true := Nat.isDigit_of_mem_toDigits (by omega) (by omega) hc
  rw [Char.isDigit, Bool.and_eq_true, decide_eq_true_eq, decide_eq_true_eq] at hdigit
  have hzero : '0'.toNat ≤ c.toNat := UInt32.le_iff_toNat_le.mp hdigit.1
  exact Nat.le_trans (by decide) hzero

end Json

/-! ## Decimals -/

namespace Decimal

open Json

/-- Zeros are printable. -/
theorem printable_zeros (n : Nat) : Printable (List.replicate n '0') := by
  intro c hc
  rw [List.eq_of_mem_replicate hc]
  decide

/-- The text of an exponent is printable. -/
theorem printable_exponentText (e : Int) : Printable (exponentText e) := by
  unfold exponentText
  rw [printable_cons]
  refine ⟨?_, printable_toDigits e.natAbs⟩
  split_ifs
  · decide
  · decide

/-- The text of a decimal is printable. -/
theorem printable_render (layout : Layout) (d : Decimal) : Printable (d.render layout) := by
  have hdigits := fun n => printable_toDigits n
  have htake : ∀ k n, Printable ((Nat.toDigits 10 n).take k) :=
    fun k n => (hdigits n).of_subset (List.take_subset k _)
  have hdrop : ∀ k n, Printable ((Nat.toDigits 10 n).drop k) :=
    fun k n => (hdigits n).of_subset (List.drop_subset k _)
  unfold render
  dsimp only
  split_ifs
  · decide
  · simp [htake, printable_exponentText]
  · simp [htake, hdrop, printable_exponentText, -List.drop_one]
  · simp [hdigits, printable_zeros]
  · simp [htake, hdrop]
  · simp [hdigits, printable_zeros]

end Decimal

/-! ## Values -/

namespace Json
namespace Value

/-- A character of a string is written with printable characters. -/
theorem printable_escapeChar (c : Char) : Printable (escapeChar c) := by
  unfold escapeChar
  by_cases hquote : c = '"'
  · rw [if_pos hquote]
    decide
  rw [if_neg hquote]
  by_cases hbackslash : c = '\\'
  · rw [if_pos hbackslash]
    decide
  rw [if_neg hbackslash]
  by_cases hcontrol : 0x20 ≤ c.toNat
  · rw [if_pos hcontrol]
    simpa using hcontrol
  rw [if_neg hcontrol]
  have hescape : ∀ n < 0x20, Printable (hexEscape n) := by
    simp only [hexEscape, printable_cons, printable_nil, and_true]
    decide
  split_ifs
  · decide
  · decide
  · decide
  · decide
  · decide
  · exact hescape c.toNat (by omega)

/-- A string in quotes is printable. -/
theorem printable_quote (s : String) : Printable (quote s) := by
  have hescaped : Printable (s.toList.flatMap escapeChar) := by
    intro c hc
    obtain ⟨d, -, hd⟩ := List.mem_flatMap.mp hc
    exact printable_escapeChar d c hd
  simp [quote, hescaped]

/-- The text of an integer is printable. -/
theorem printable_intText (i : Int) : Printable (intText i) := by
  unfold intText
  split_ifs
  · simp [printable_toDigits]
  · exact printable_toDigits i.natAbs

/-- The text of a double is printable. -/
theorem printable_doubleText (x : Binary64) : Printable (doubleText x) := by
  unfold doubleText
  split_ifs
  · decide
  · simp [Decimal.printable_render]
  · simp [Decimal.printable_render]

mutual

/-- A value in one line is printable. -/
theorem printable_compact : ∀ v : Value, Printable (compact v)
  | .null => by decide
  | .bool true => by decide
  | .bool false => by decide
  | .int i => printable_intText i
  | .double x => printable_doubleText x
  | .string s => printable_quote s
  | .array items => by simp [compact, printable_compactItems items]
  | .object members => by simp [compact, printable_compactMembers members]

/-- Items in one line are printable. -/
theorem printable_compactItems : ∀ items : List Value, Printable (compactItems items)
  | [] => printable_nil
  | [v] => printable_compact v
  | v :: w :: rest => by
      simp [compactItems, printable_compact v, printable_compactItems (w :: rest)]

/-- Members in one line are printable. -/
theorem printable_compactMembers :
    ∀ members : List (String × Value), Printable (compactMembers members)
  | [] => printable_nil
  | [(n, v)] => by simp [compactMembers, printable_quote n, printable_compact v]
  | (n, v) :: m :: rest => by
      simp [compactMembers, printable_quote n, printable_compact v,
        printable_compactMembers (m :: rest)]

end

end Value
end Json
end ScriptReview
