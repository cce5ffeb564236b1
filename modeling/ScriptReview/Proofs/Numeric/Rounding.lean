import Mathlib.Data.Nat.Log
import Mathlib.Tactic.Ring
import ScriptReview.Numeric.Binary64

/-!
# Rounding to double precision

The double precision number nearest to a fraction has 53 significant bits, and a half goes to the
even neighbour.  Rounding keeps the order of fractions, so that two fractions are told apart by a
number between them.

Main results:

* `Binary64.roundDiv_cases` says what the nearest natural number is.
* `Binary64.magnitude_ofRatio_le` says that rounding keeps the order.
* `Binary64.lt_ofRatio_iff` says that rounded fractions are compared by their magnitudes.
* `Binary64.ratio_ofNat` says that natural numbers up to `2 ^ 53` are not rounded.
-/

namespace ScriptReview

/-- A power of two is positive. -/
theorem powerOfTwo_pos (k : Nat) : 0 < powerOfTwo k :=
  Nat.two_pow_pos k

/-- The power of a sum is the product of the powers. -/
theorem powerOfTwo_add (k l : Nat) : powerOfTwo (k + l) = powerOfTwo k * powerOfTwo l :=
  Nat.pow_add 2 k l

/-- A fraction that is not above another has no larger whole part. -/
theorem div_le_div_of_mul_le {num den num' den' : Nat} (hden : 0 < den) (hden' : 0 < den')
    (h : num * den' ≤ num' * den) : num / den ≤ num' / den' := by
  rw [Nat.le_div_iff_mul_le hden']
  apply Nat.le_of_mul_le_mul_right _ hden
  calc
    num / den * den' * den = num / den * den * den' := Nat.mul_right_comm _ _ _
    _ ≤ num * den' := Nat.mul_le_mul_right den' (Nat.div_mul_le_self num den)
    _ ≤ num' * den := h

namespace Binary64

/-! ## The nearest natural number -/

/-- A fraction is rounded to its whole part or to the next number, whichever is nearer, and to the
even one if both are equally near. -/
theorem roundDiv_cases (num den : Nat) :
    (roundDiv num den = num / den ∧ 2 * (num % den) ≤ den ∧
      (2 * (num % den) = den → num / den % 2 = 0)) ∨
    (roundDiv num den = num / den + 1 ∧ den ≤ 2 * (num % den) ∧
      (2 * (num % den) = den → num / den % 2 = 1)) := by
  unfold roundDiv
  dsimp only
  split
  · exact Or.inl ⟨rfl, by omega, by omega⟩
  · split
    · exact Or.inr ⟨rfl, by omega, by omega⟩
    · split
      · exact Or.inl ⟨rfl, by omega, by omega⟩
      · exact Or.inr ⟨rfl, by omega, by omega⟩

/-- A whole fraction is not rounded. -/
theorem roundDiv_mul {den : Nat} (hden : 0 < den) (k : Nat) : roundDiv (k * den) den = k := by
  have hwhole : k * den / den = k := Nat.mul_div_cancel k hden
  have hpart : k * den % den = 0 := Nat.mul_mod_left k den
  rcases roundDiv_cases (k * den) den with hround | hround <;> omega

/-- Of two fractions with the same whole part, the one that is not above the other has no larger
part left. -/
theorem mod_mul_le_of_mul_le {num den num' den' : Nat} (h : num * den' ≤ num' * den)
    (hwhole : num / den = num' / den') : num % den * den' ≤ num' % den' * den := by
  have hnum : num * den' = num / den * (den * den') + num % den * den' := by
    nth_rewrite 1 [← Nat.div_add_mod num den]
    ring
  have hnum' : num' * den = num' / den' * (den * den') + num' % den' * den := by
    nth_rewrite 1 [← Nat.div_add_mod num' den']
    ring
  rw [hnum, hnum', hwhole] at h
  exact Nat.le_of_add_le_add_left h

/-- Rounding to natural numbers keeps the order of fractions. -/
theorem roundDiv_le {num den num' den' : Nat} (hden : 0 < den) (hden' : 0 < den')
    (h : num * den' ≤ num' * den) : roundDiv num den ≤ roundDiv num' den' := by
  have hwhole := div_le_div_of_mul_le hden hden' h
  by_cases hsame : num / den = num' / den'
  · rcases roundDiv_cases num den with hdown | ⟨hup, hhigh, heven⟩
    · rcases roundDiv_cases num' den' with hround' | hround' <;> omega
    · rcases roundDiv_cases num' den' with ⟨hdown', hlow', heven'⟩ | hup'
      · -- Both fractions lie half way between two neighbours, of which only one is even.
        have hparts := mod_mul_le_of_mul_le h hsame
        have hlow : den * den' ≤ 2 * (num % den) * den' := Nat.mul_le_mul_right den' hhigh
        have hhigh' : 2 * (num' % den') * den ≤ den' * den := Nat.mul_le_mul_right den hlow'
        have hcomm : den' * den = den * den' := Nat.mul_comm den' den
        have htwice : 2 * (num % den) * den' = 2 * (num % den * den') := Nat.mul_assoc _ _ _
        have htwice' : 2 * (num' % den') * den = 2 * (num' % den' * den) := Nat.mul_assoc _ _ _
        have hhalf : 2 * (num % den) = den :=
          Nat.eq_of_mul_eq_mul_right hden' (by omega)
        have hhalf' : 2 * (num' % den') = den' :=
          Nat.eq_of_mul_eq_mul_right hden (by omega)
        have hodd := heven hhalf
        have hevenly := heven' hhalf'
        omega
      · omega
  · rcases roundDiv_cases num den with hround | hround <;>
      rcases roundDiv_cases num' den' with hround' | hround' <;> omega

/-! ## Exponents and significands -/

/-- The significand of a rounded fraction. It may be one more than 53 bits can hold. -/
def significandOf (num den : Nat) : Nat :=
  roundDiv (num * powerOfTwo 1074) (den * powerOfTwo (exponentOf num den))

/-- The logarithm of a number grows with the number. -/
theorem log2_le_of_le {n m : Nat} (h : n ≤ m) : n.log2 ≤ m.log2 := by
  rw [Nat.log2_eq_log_two, Nat.log2_eq_log_two]
  exact Nat.log_mono_right h

/-- A smaller fraction has no larger exponent. -/
theorem exponentOf_le {num den num' den' : Nat} (hden : 0 < den) (hden' : 0 < den')
    (h : num * den' ≤ num' * den) : exponentOf num den ≤ exponentOf num' den' := by
  have hscaled : num * powerOfTwo 1074 * den' ≤ num' * powerOfTwo 1074 * den := by
    rw [Nat.mul_right_comm num, Nat.mul_right_comm num']
    exact Nat.mul_le_mul_right _ h
  exact Nat.sub_le_sub_right (log2_le_of_le (div_le_div_of_mul_le hden hden' hscaled)) 52

/-- A significand has at most 53 bits, or is the number after those. -/
theorem significandOf_le (num : Nat) {den : Nat} (hden : 0 < den) :
    significandOf num den ≤ powerOfTwo 53 := by
  have hexponent : (num * powerOfTwo 1074 / den).log2 + 1 ≤ 53 + exponentOf num den := by
    unfold exponentOf
    omega
  have hbelow : num * powerOfTwo 1074 / den < powerOfTwo (53 + exponentOf num den) :=
    Nat.lt_of_lt_of_le Nat.lt_log2_self (Nat.pow_le_pow_right (by decide) hexponent)
  have hround : significandOf num den ≤ roundDiv (powerOfTwo 53 * 1) 1 := by
    refine roundDiv_le (Nat.mul_pos hden (powerOfTwo_pos _)) Nat.one_pos ?_
    rw [Nat.div_lt_iff_lt_mul hden, powerOfTwo_add] at hbelow
    calc
      num * powerOfTwo 1074 * 1 ≤ powerOfTwo 53 * powerOfTwo (exponentOf num den) * den := by
        omega
      _ = powerOfTwo 53 * 1 * (den * powerOfTwo (exponentOf num den)) := by ring
  rwa [roundDiv_mul Nat.one_pos] at hround

/-- A significand has all its 53 bits unless the exponent is the least one. -/
theorem le_significandOf {num den : Nat} (hden : 0 < den) (h : 0 < exponentOf num den) :
    powerOfTwo 52 ≤ significandOf num den := by
  have hexponent : (num * powerOfTwo 1074 / den).log2 = 52 + exponentOf num den := by
    unfold exponentOf at h ⊢
    omega
  have hne : num * powerOfTwo 1074 / den ≠ 0 := by
    intro hzero
    rw [hzero] at hexponent
    have hlog : Nat.log2 0 = 0 := rfl
    omega
  have habove : powerOfTwo (52 + exponentOf num den) ≤ num * powerOfTwo 1074 / den := by
    have hself := Nat.log2_self_le hne
    rwa [hexponent] at hself
  have hround : roundDiv (powerOfTwo 52 * 1) 1 ≤ significandOf num den := by
    refine roundDiv_le Nat.one_pos (Nat.mul_pos hden (powerOfTwo_pos _)) ?_
    rw [Nat.le_div_iff_mul_le hden, powerOfTwo_add] at habove
    calc
      powerOfTwo 52 * 1 * (den * powerOfTwo (exponentOf num den)) =
          powerOfTwo 52 * powerOfTwo (exponentOf num den) * den := by ring
      _ ≤ num * powerOfTwo 1074 * 1 := by omega
  rwa [roundDiv_mul Nat.one_pos] at hround

/-- A smaller fraction has a smaller significand where the exponents are equal. -/
theorem significandOf_le_of_exponentOf_eq {num den num' den' : Nat} (hden : 0 < den)
    (hden' : 0 < den') (h : num * den' ≤ num' * den)
    (hexponent : exponentOf num den = exponentOf num' den') :
    significandOf num den ≤ significandOf num' den' := by
  unfold significandOf
  rw [hexponent]
  refine roundDiv_le (Nat.mul_pos hden (powerOfTwo_pos _)) (Nat.mul_pos hden' (powerOfTwo_pos _)) ?_
  calc
    num * powerOfTwo 1074 * (den' * powerOfTwo (exponentOf num' den')) =
        num * den' * (powerOfTwo 1074 * powerOfTwo (exponentOf num' den')) := by ring
    _ ≤ num' * den * (powerOfTwo 1074 * powerOfTwo (exponentOf num' den')) :=
        Nat.mul_le_mul_right _ h
    _ = num' * powerOfTwo 1074 * (den * powerOfTwo (exponentOf num' den')) := by ring

/-! ## Rounded fractions -/

/-- A magnitude that is not above infinity is kept, and its number is neither negative nor without
a place in the order. -/
theorem ofMagnitude_spec {m : Nat} (h : m ≤ infinityMagnitude) :
    (ofMagnitude false m).magnitude = m ∧ (ofMagnitude false m).isNegative = false ∧
      (ofMagnitude false m).isNaN = false := by
  have hbits : (ofMagnitude false m).bits.toNat = m := by
    have hword : m < 2 ^ 64 := Nat.lt_of_le_of_lt h (by decide)
    simp only [ofMagnitude, Bool.false_eq_true, if_false, UInt64.toNat_ofNat']
    exact Nat.mod_eq_of_lt hword
  have hsmall : m < powerOfTwo 63 := Nat.lt_of_le_of_lt h (by decide)
  have hmagnitude : (ofMagnitude false m).magnitude = m := by
    rw [magnitude, hbits]
    exact Nat.mod_eq_of_lt hsmall
  refine ⟨hmagnitude, ?_, ?_⟩
  · rw [isNegative, hbits]
    exact decide_eq_false (Nat.not_le_of_lt hsmall)
  · rw [isNaN, hmagnitude]
    exact decide_eq_false (Nat.not_lt_of_le h)

/-- The magnitude of a rounded fraction is made of its exponent and its significand. -/
theorem magnitude_ofRatio (num den : Nat) :
    (ofRatio num den).magnitude =
      Nat.min (exponentOf num den * powerOfTwo 52 + significandOf num den) infinityMagnitude :=
  (ofMagnitude_spec (Nat.min_le_right _ _)).1

/-- Rounded fractions are compared by their magnitudes. -/
theorem lt_ofRatio_iff (num den num' den' : Nat) :
    (ofRatio num den).lt (ofRatio num' den') = true ↔
      (ofRatio num den).magnitude < (ofRatio num' den').magnitude := by
  have hspec : ∀ num den, (ofRatio num den).isNegative = false ∧ (ofRatio num den).isNaN = false :=
    fun num den => (ofMagnitude_spec (Nat.min_le_right _ _)).2
  simp [lt, orderKey, hspec]

/-- Rounding keeps the order of fractions. -/
theorem magnitude_ofRatio_le {num den num' den' : Nat} (hden : 0 < den) (hden' : 0 < den')
    (h : num * den' ≤ num' * den) :
    (ofRatio num den).magnitude ≤ (ofRatio num' den').magnitude := by
  have hexponent := exponentOf_le hden hden' h
  have hsum : exponentOf num den * powerOfTwo 52 + significandOf num den ≤
      exponentOf num' den' * powerOfTwo 52 + significandOf num' den' := by
    by_cases hsame : exponentOf num den = exponentOf num' den'
    · have hsignificand := significandOf_le_of_exponentOf_eq hden hden' h hsame
      rw [hsame]
      omega
    · -- A larger exponent outweighs the largest significand.
      have hless : exponentOf num den + 1 ≤ exponentOf num' den' := by omega
      have hmany := significandOf_le num hden
      have hfew := le_significandOf hden' (Nat.lt_of_lt_of_le (Nat.succ_pos _) hless)
      have htwice : powerOfTwo 53 = powerOfTwo 52 + powerOfTwo 52 := rfl
      have hweight := Nat.mul_le_mul_right (powerOfTwo 52) hless
      rw [Nat.add_mul, Nat.one_mul] at hweight
      omega
  rw [magnitude_ofRatio, magnitude_ofRatio]
  exact min_le_min_right infinityMagnitude hsum

/-! ## Natural numbers -/

/-- A number with a full significand is read back from its magnitude. -/
theorem parts_of_magnitude {x : Binary64} {e m : Nat} (h : x.magnitude = e * powerOfTwo 52 + m)
    (hlow : powerOfTwo 52 ≤ m) (hhigh : m < powerOfTwo 53) : x.parts = (m, e) := by
  have htwice : powerOfTwo 53 = 2 * powerOfTwo 52 := rfl
  have hpos := powerOfTwo_pos 52
  have hsplit : x.magnitude = powerOfTwo 52 * (e + 1) + (m - powerOfTwo 52) := by
    rw [h, Nat.mul_succ, Nat.mul_comm]
    omega
  have hfield : x.magnitude / powerOfTwo 52 = e + 1 := by
    rw [hsplit, Nat.mul_add_div hpos, Nat.div_eq_of_lt (by omega)]
  have hfraction : x.magnitude % powerOfTwo 52 = m - powerOfTwo 52 := by
    rw [hsplit, Nat.mul_add_mod, Nat.mod_eq_of_lt (by omega)]
  rw [parts, hfield, hfraction]
  rw [if_neg (Nat.succ_ne_zero e), Nat.add_sub_cancel' hlow, Nat.add_sub_cancel]

/-- A natural number up to `2 ^ 53` is a significand with 53 bits and a power of two. -/
theorem exists_significand {n : Nat} (hpos : n ≠ 0) (h : n ≤ powerOfTwo 53) :
    ∃ m, powerOfTwo 52 ≤ m ∧ m < powerOfTwo 53 ∧
      n * powerOfTwo 1074 = m * powerOfTwo (n.log2 + 1022) := by
  have hself : powerOfTwo n.log2 ≤ n := Nat.log2_self_le hpos
  have hnext : n < powerOfTwo (n.log2 + 1) := Nat.lt_log2_self
  by_cases hlast : n = powerOfTwo 53
  · have hlog : n.log2 = 53 := by rw [hlast]; rfl
    refine ⟨powerOfTwo 52, Nat.le_refl _, by decide, ?_⟩
    rw [hlog, hlast, ← powerOfTwo_add, ← powerOfTwo_add]
  · have hlog : n.log2 ≤ 52 := by
      have hbelow : n < 2 ^ 53 := Nat.lt_of_le_of_ne h hlast
      have hbits := (Nat.log2_lt hpos).mpr hbelow
      omega
    have hlow : powerOfTwo 52 = powerOfTwo n.log2 * powerOfTwo (52 - n.log2) := by
      rw [← powerOfTwo_add, Nat.add_sub_cancel' hlog]
    have hhigh : powerOfTwo 53 = powerOfTwo (n.log2 + 1) * powerOfTwo (52 - n.log2) := by
      rw [← powerOfTwo_add]
      congr 1
      omega
    refine ⟨n * powerOfTwo (52 - n.log2), ?_, ?_, ?_⟩
    · rw [hlow]
      exact Nat.mul_le_mul_right _ hself
    · rw [hhigh]
      exact Nat.mul_lt_mul_of_pos_right hnext (powerOfTwo_pos _)
    · have hsum : 52 - n.log2 + (n.log2 + 1022) = 1074 := by omega
      rw [Nat.mul_assoc, ← powerOfTwo_add, hsum]

/-- A factor that is a power of two is added to the logarithm. -/
theorem log2_mul_powerOfTwo {n : Nat} (h : n ≠ 0) (k : Nat) :
    (n * powerOfTwo k).log2 = n.log2 + k := by
  have hself : powerOfTwo n.log2 ≤ n := Nat.log2_self_le h
  have hnext : n < powerOfTwo (n.log2 + 1) := Nat.lt_log2_self
  rw [Nat.log2_eq_iff (Nat.mul_ne_zero h (powerOfTwo_pos k).ne')]
  constructor
  · change powerOfTwo (n.log2 + k) ≤ n * powerOfTwo k
    rw [powerOfTwo_add]
    exact Nat.mul_le_mul_right _ hself
  · change n * powerOfTwo k < powerOfTwo (n.log2 + k + 1)
    rw [Nat.add_right_comm, powerOfTwo_add]
    exact Nat.mul_lt_mul_of_pos_right hnext (powerOfTwo_pos k)

/-- A natural number up to `2 ^ 53` is not rounded. -/
theorem ratio_ofNat {n : Nat} (h : n ≤ powerOfTwo 53) :
    (ofNat n).ratio = (n * powerOfTwo 1074, powerOfTwo 1074) := by
  by_cases hzero : n = 0
  · subst hzero
    decide +kernel
  · rcases exists_significand hzero h with ⟨m, hlow, hhigh, hvalue⟩
    have hlog : n.log2 ≤ 53 := by
      have hbound := log2_le_of_le h
      have hlast : (powerOfTwo 53).log2 = 53 := rfl
      omega
    have hexponent : exponentOf n 1 = n.log2 + 1022 := by
      rw [exponentOf, Nat.div_one, log2_mul_powerOfTwo hzero]
      omega
    have hsignificand : significandOf n 1 = m := by
      rw [significandOf, hexponent, hvalue, Nat.one_mul, roundDiv_mul (powerOfTwo_pos _)]
    have hmagnitude : (ofNat n).magnitude = (n.log2 + 1022) * powerOfTwo 52 + m := by
      have hweight := Nat.mul_le_mul_right (powerOfTwo 52) (Nat.add_le_add_right hlog 1022)
      have htwice : powerOfTwo 53 = 2 * powerOfTwo 52 := rfl
      rw [ofNat, magnitude_ofRatio, hexponent, hsignificand]
      apply Nat.min_eq_left
      rw [infinityMagnitude]
      omega
    have hparts := parts_of_magnitude hmagnitude hlow hhigh
    rw [ratio, hparts]
    exact Prod.ext hvalue.symm rfl

end Binary64
end ScriptReview
