import Mathlib.Tactic.SplitIfs
import ScriptReview.Json.Decode

/-!
# Strings and integers are read as they were written

The escapes of a string stand for its characters, and the digits of an integer for its value.

Main definitions:

* `Document.Stops` says that a text does not go on with a number before it.
* `Numeral.ofInt` is the number that an integer is written as.

Main results:

* `Document.exists_symbols?_eq` reads a string up to its closing quote.
* `Document.numeral?_toDigits` reads the digits of a number up to their end.
* `Numeral.value?_ofInt` says that an integer of 64 bits, with or without sign, keeps its value.
-/

namespace ScriptReview
namespace Json

open Value (escapeChar hexEscape)

namespace Document

/-! ## Strings -/

/-- The escape of a control character is the unit of its number. -/
theorem unit?_digitChar {n : Nat} (h : n < 0x20) :
    unit? '0' '0' (Nat.digitChar (n / 16)) (Nat.digitChar (n % 16)) = some (.unit n) := by
  have hall : ∀ n < 0x20,
      unit? '0' '0' (Nat.digitChar (n / 16)) (Nat.digitChar (n % 16)) = some (.unit n) := by
    decide
  exact hall n h

/-- A character that is neither a quote nor a backslash nor a control character stands for itself. -/
theorem symbols?_cons {c : Char} (hquote : c ≠ '"') (hbackslash : c ≠ '\\')
    (hcontrol : 0x20 ≤ c.toNat) (rest : List Char) :
    symbols? (c :: rest) = (symbols? rest).map fun (ss, rest) => (.plain c :: ss, rest) := by
  rw [symbols?]
  · rw [if_neg (by simp [hbackslash, hcontrol])]
  · exact hquote
  · rintro a b d e rest' rfl
    exact absurd rfl hbackslash
  · rintro e rest' rfl
    exact absurd rfl hbackslash

/-- A unit that is no half of a character is a character of its own. -/
theorem chars?_unit {n : Nat} (h : n < 0xD800) (ss : List Symbol) :
    chars? (.unit n :: ss) = (chars? ss).map (Char.ofNat n :: ·) := by
  have hhigh : isHighHalf n = false := by
    simp only [isHighHalf, Bool.and_eq_false_iff, decide_eq_false_iff_not]
    omega
  have hlow : isLowHalf n = false := by
    simp only [isLowHalf, Bool.and_eq_false_iff, decide_eq_false_iff_not]
    omega
  rw [chars?.eq_def]
  simp only [hhigh, hlow, Bool.false_eq_true, if_false]

/-- What a character is written as is one symbol, which stands for the character. -/
theorem exists_symbols?_escapeChar (c : Char) :
    ∃ s, (∀ cs, symbols? (escapeChar c ++ cs) =
        (symbols? cs).map fun (ss, rest) => (s :: ss, rest)) ∧
      ∀ ss, chars? (s :: ss) = (chars? ss).map (c :: ·) := by
  -- The symbol does not depend on what comes after it, so that escapes are read one by one.
  unfold escapeChar
  by_cases hquote : c = '"'
  · subst hquote
    exact ⟨.plain '"', fun cs => rfl, fun ss => rfl⟩
  rw [if_neg hquote]
  by_cases hbackslash : c = '\\'
  · subst hbackslash
    exact ⟨.plain '\\', fun cs => rfl, fun ss => rfl⟩
  rw [if_neg hbackslash]
  by_cases hcontrol : 0x20 ≤ c.toNat
  · rw [if_pos hcontrol]
    exact ⟨.plain c, symbols?_cons hquote hbackslash hcontrol, fun ss => rfl⟩
  rw [if_neg hcontrol]
  have hchar : ∀ {n : Nat}, c.toNat = n → Char.ofNat n = c := by
    rintro n rfl
    exact Char.ofNat_toNat c
  split_ifs with h8 h9 hA hC hD
  · exact ⟨.plain '\x08', fun cs => rfl, fun ss => by rw [← hchar h8]; rfl⟩
  · exact ⟨.plain '\t', fun cs => rfl, fun ss => by rw [← hchar h9]; rfl⟩
  · exact ⟨.plain '\n', fun cs => rfl, fun ss => by rw [← hchar hA]; rfl⟩
  · exact ⟨.plain '\x0c', fun cs => rfl, fun ss => by rw [← hchar hC]; rfl⟩
  · exact ⟨.plain '\r', fun cs => rfl, fun ss => by rw [← hchar hD]; rfl⟩
  · refine ⟨.unit c.toNat, fun cs => ?_, fun ss => ?_⟩
    · simp only [hexEscape, List.cons_append, List.nil_append]
      rw [symbols?, unit?_digitChar (by omega)]
    · rw [chars?_unit (by omega), hchar rfl]

/-- What some characters are written as is read up to the quote that closes it, and stands for
them. -/
theorem exists_symbols?_eq (cs : List Char) :
    ∃ ss, (∀ rest, symbols? (cs.flatMap escapeChar ++ '"' :: rest) = some (ss, rest)) ∧
      chars? ss = some cs := by
  induction cs with
  | nil => exact ⟨[], fun rest => rfl, rfl⟩
  | cons c cs ih =>
      rcases exists_symbols?_escapeChar c with ⟨s, hs, hchars⟩
      rcases ih with ⟨ss, hss, hcs⟩
      refine ⟨s :: ss, fun rest => ?_, ?_⟩
      · rw [List.flatMap_cons, List.append_assoc, hs, hss]
        rfl
      · rw [hchars, hcs]
        rfl

/-! ## Digits -/

/-- A text that does not go on with a number that stands before it. -/
def Stops (cs : List Char) : Prop :=
  ∀ c ∈ cs.head?, c.isDigit = false ∧ c ≠ '.' ∧ c ≠ 'e' ∧ c ≠ 'E'

/-- Digits are read up to the first character that is none. -/
theorem digits_append {ds rest : List Char} (hds : ∀ c ∈ ds, c.isDigit = true)
    (hrest : ∀ c ∈ rest.head?, c.isDigit = false) : digits (ds ++ rest) = (ds, rest) := by
  rw [digits, List.takeWhile_append_of_pos hds, List.dropWhile_append_of_pos hds]
  cases rest with
  | nil => simp
  | cons c rest =>
      have hc := hrest c rfl
      simp [hc]

/-- Only the number zero has digits that begin with a zero. -/
theorem toDigits_eq_of_head? {n : Nat} (h : (Nat.toDigits 10 n).head? = some '0') :
    Nat.toDigits 10 n = ['0'] := by
  induction n using Nat.strongRecOn with
  | ind n ih =>
      by_cases hn : n < 10
      · rw [Nat.toDigits_of_lt_base hn] at h ⊢
        rw [Option.some.inj h]
      · rw [Nat.toDigits_eq_if (by omega), if_neg hn, List.head?_append] at h
        have hfront : (Nat.toDigits 10 (n / 10)).head? = some '0' := by
          rcases Option.or_eq_some_iff.mp h with hhead | ⟨hnone, -⟩
          · exact hhead
          · exact absurd (List.head?_eq_none_iff.mp hnone) Nat.toDigits_ne_nil
        have hvalue := Nat.ofDigitChars_toDigits (b := 10) (n := n / 10) (by omega) (by omega)
        rw [ih (n / 10) (by omega) hfront] at hvalue
        have hzero : 0 = n / 10 := hvalue
        omega

/-- The digits of a number are read as a number without point and exponent. -/
theorem numeral?_toDigits (negative : Bool) (n : Nat) {rest : List Char} (hrest : Stops rest) :
    numeral? negative (Nat.toDigits 10 n ++ rest) =
      some (⟨negative, Nat.toDigits 10 n, [], none⟩, rest) := by
  have hdigits : digits (Nat.toDigits 10 n ++ rest) = (Nat.toDigits 10 n, rest) :=
    digits_append (fun c hc => Nat.isDigit_of_mem_toDigits (by omega) (by omega) hc)
      fun c hc => (hrest c hc).1
  have hzero : ¬ (Nat.toDigits 10 n = [] ∨
      (Nat.toDigits 10 n).head? = some '0' ∧ Nat.toDigits 10 n ≠ ['0']) := by
    rintro (h | ⟨h, hne⟩)
    · exact Nat.toDigits_ne_nil h
    · exact hne (toDigits_eq_of_head? h)
  have hfraction : fraction? rest = some ([], rest) := by
    cases rest with
    | nil => rfl
    | cons c rest =>
        have hc := hrest c rfl
        simp [fraction?, hc]
  have hexponent : exponent? rest = some (none, rest) := by
    cases rest with
    | nil => rfl
    | cons c rest =>
        have hc := hrest c rfl
        simp [exponent?, hc]
  simp only [numeral?, hdigits]
  rw [if_neg hzero, hfraction]
  simp [hexponent]

end Document

/-! ## Values of integers -/

namespace Significand

/-- More digits do not make a number smaller. -/
theorem le_ofDigitChars (cs : List Char) (n : Nat) : n ≤ Nat.ofDigitChars 10 cs n := by
  induction cs generalizing n with
  | nil => exact Nat.le_of_eq Nat.ofDigitChars_nil.symm
  | cons c cs ih =>
      rw [Nat.ofDigitChars_cons]
      have h := ih (10 * n + (c.toNat - '0'.toNat))
      omega

/-- Digits are gathered as long as their number fits. -/
theorem foldl_addWhole_eq (cs : List Char) (n : Nat)
    (h : Nat.ofDigitChars 10 cs n ≤ maxSignificand) :
    cs.foldl addWhole ⟨n, 0, false⟩ = ⟨Nat.ofDigitChars 10 cs n, 0, false⟩ := by
  induction cs generalizing n with
  | nil => rfl
  | cons c cs ih =>
      rw [Nat.ofDigitChars_cons] at h ⊢
      have hstep : addWhole ⟨n, 0, false⟩ c = ⟨10 * n + (c.toNat - '0'.toNat), 0, false⟩ := by
        have hfits : 10 * n + digitValue c ≤ maxSignificand :=
          Nat.le_trans (le_ofDigitChars cs _) h
        rw [addWhole, if_neg (by simp), if_pos hfits]
        rfl
      rw [List.foldl_cons, hstep, ih _ h]

/-- The digits of a number that fits are gathered to this number. -/
theorem ofWhole_toDigits {n : Nat} (h : n ≤ maxSignificand) :
    ofWhole (Nat.toDigits 10 n) = ⟨n, 0, false⟩ := by
  have hvalue : Nat.ofDigitChars 10 (Nat.toDigits 10 n) 0 = n :=
    Nat.ofDigitChars_toDigits (by omega) (by omega)
  rw [ofWhole, foldl_addWhole_eq _ _ (by rwa [hvalue]), hvalue]

end Significand

namespace Numeral

/-- The number that an integer is written as. -/
def ofInt (i : Int) : Numeral :=
  ⟨decide (i < 0), Nat.toDigits 10 i.natAbs, [], none⟩

/-- An integer that fits 64 bits, with or without sign, keeps its value. -/
theorem value?_ofInt {i : Int} (hmin : -powerOfTwo 63 ≤ i) (hmax : i < powerOfTwo 64) :
    (ofInt i).value? = some (.int i) := by
  have hlimit : powerOfTwo 64 = 2 * powerOfTwo 63 := rfl
  have hfits : i.natAbs ≤ maxSignificand := by
    have hlargest : maxSignificand = powerOfTwo 64 - 1 := rfl
    omega
  have hint : (ofInt i).int? = some i := by
    simp only [int?, ofInt, isInteger, Significand.ofWhole_toDigits hfits]
    rw [if_neg (by simp)]
    by_cases hsign : i < 0
    · have hrange : 0 < i.natAbs ∧ i.natAbs ≤ powerOfTwo 63 := by omega
      have hvalue : -(i.natAbs : Int) = i := by omega
      rw [if_neg (by simp [hsign]), if_pos hrange, hvalue]
    · have hvalue : (i.natAbs : Int) = i := by omega
      rw [if_pos (by simp [hsign]), hvalue]
  rw [value?, hint]

end Numeral
end Json
end ScriptReview
