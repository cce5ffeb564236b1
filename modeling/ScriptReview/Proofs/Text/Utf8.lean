import Mathlib.Data.List.Basic

/-!
# Bytes that are text

Bytes are text when they are cut into the sequences of a table, each of which stands for a
character.  A sequence is neither longer than its character needs, nor does it stand for half of a
surrogate pair or for a number beyond the last character.

Main definitions:

* `Utf8.Encodes` is the table of sequences with the code points that they stand for.
* `Utf8.WellFormed` says that bytes are made of sequences, `Utf8.Decodes` which characters they
  stand for.

Main results:

* `Utf8.encodes_toNat_iff` says that every character has one sequence.
* `Utf8.fromUTF8?_eq_some_iff` and `Utf8.fromUTF8?_eq_none_iff` say which bytes are text and which
  text they are.
-/

namespace ScriptReview
namespace Utf8

/-! ## Sequences -/

/-- A byte that goes on with a sequence. -/
def Continues (b : UInt8) : Prop :=
  0x80 ≤ b.toNat ∧ b.toNat ≤ 0xBF

/-- The code point that a sequence of bytes stands for. The bounds on the first byte of two and on
the second byte after `E0` and `F0` exclude sequences that are too long, those after `ED` surrogates,
and those after `F4` numbers that are too large. -/
inductive Encodes : List UInt8 → Nat → Prop
  | one {a : UInt8} (ha : a.toNat ≤ 0x7F) : Encodes [a] a.toNat
  | two {a b : UInt8} (ha : 0xC2 ≤ a.toNat ∧ a.toNat ≤ 0xDF) (hb : Continues b) :
      Encodes [a, b] ((a.toNat - 0xC0) * 0x40 + (b.toNat - 0x80))
  | three {a b c : UInt8} (ha : 0xE0 ≤ a.toNat ∧ a.toNat ≤ 0xEF) (hb : Continues b)
      (hc : Continues c) (hlong : a.toNat = 0xE0 → 0xA0 ≤ b.toNat)
      (hsurrogate : a.toNat = 0xED → b.toNat ≤ 0x9F) :
      Encodes [a, b, c]
        ((a.toNat - 0xE0) * 0x1000 + (b.toNat - 0x80) * 0x40 + (c.toNat - 0x80))
  | four {a b c d : UInt8} (ha : 0xF0 ≤ a.toNat ∧ a.toNat ≤ 0xF4) (hb : Continues b)
      (hc : Continues c) (hd : Continues d) (hlong : a.toNat = 0xF0 → 0x90 ≤ b.toNat)
      (hlarge : a.toNat = 0xF4 → b.toNat ≤ 0x8F) :
      Encodes [a, b, c, d]
        ((a.toNat - 0xF0) * 0x40000 + (b.toNat - 0x80) * 0x1000 + (c.toNat - 0x80) * 0x40 +
          (d.toNat - 0x80))

/-- A sequence stands for a character. -/
theorem Encodes.isValidChar {bytes : List UInt8} {n : Nat} (h : Encodes bytes n) :
    n.isValidChar := by
  unfold Nat.isValidChar
  cases h with
  | one ha => omega
  | two ha hb =>
      unfold Continues at hb
      omega
  | three ha hb hc hlong hsurrogate =>
      unfold Continues at hb hc
      omega
  | four ha hb hc hd hlong hlarge =>
      unfold Continues at hb hc hd
      omega

/-- A byte is given by its number. -/
theorem ofNat_eq_of_toNat_eq {a : UInt8} {n : Nat} (h : n = a.toNat) : UInt8.ofNat n = a := by
  rw [h, UInt8.ofNat_toNat]

/-- The number of a byte below the limit. -/
theorem toNat_ofNat {n : Nat} (h : n < 256) : (UInt8.ofNat n).toNat = n :=
  UInt8.toNat_ofNat_of_lt h

/-- The sequence that stands for a character is the one that encodes it. -/
theorem Encodes.utf8EncodeChar_eq {bytes : List UInt8} {c : Char} (h : Encodes bytes c.toNat) :
    String.utf8EncodeChar c = bytes := by
  have hval : c.val.toNat = c.toNat := rfl
  unfold String.utf8EncodeChar
  simp only [hval]
  generalize c.toNat = n at h
  cases h with
  | one ha => rw [if_pos ha, ofNat_eq_of_toNat_eq rfl]
  | two ha hb =>
      unfold Continues at hb
      rw [if_neg (by omega), if_pos (by omega), List.cons.injEq, List.cons.injEq]
      refine ⟨ofNat_eq_of_toNat_eq ?_, ofNat_eq_of_toNat_eq ?_, rfl⟩
      all_goals omega
  | three ha hb hc hlong hsurrogate =>
      unfold Continues at hb hc
      rw [if_neg (by omega), if_neg (by omega), if_pos (by omega), List.cons.injEq,
        List.cons.injEq, List.cons.injEq]
      refine ⟨ofNat_eq_of_toNat_eq ?_, ofNat_eq_of_toNat_eq ?_, ofNat_eq_of_toNat_eq ?_, rfl⟩
      all_goals omega
  | four ha hb hc hd hlong hlarge =>
      unfold Continues at hb hc hd
      rw [if_neg (by omega), if_neg (by omega), if_neg (by omega), List.cons.injEq,
        List.cons.injEq, List.cons.injEq, List.cons.injEq]
      refine ⟨ofNat_eq_of_toNat_eq ?_, ofNat_eq_of_toNat_eq ?_, ofNat_eq_of_toNat_eq ?_,
        ofNat_eq_of_toNat_eq ?_, rfl⟩
      all_goals omega

/-- The sequence that encodes a character stands for it. -/
theorem encodes_utf8EncodeChar (c : Char) : Encodes (String.utf8EncodeChar c) c.toNat := by
  have hvalid : c.toNat < 0xD800 ∨ 0xDFFF < c.toNat ∧ c.toNat < 0x110000 := c.valid
  have hval : c.val.toNat = c.toNat := rfl
  unfold String.utf8EncodeChar
  simp only [hval]
  generalize c.toNat = n at hvalid
  clear hval
  by_cases h1 : n ≤ 0x7F
  · rw [if_pos h1]
    have ha := toNat_ofNat (n := n) (by omega)
    have h := Encodes.one (a := UInt8.ofNat n) (by omega)
    rwa [ha] at h
  rw [if_neg h1]
  have hlast := toNat_ofNat (n := n % 0x40 + 0x80) (by omega)
  by_cases h2 : n ≤ 0x7FF
  · rw [if_pos h2]
    have ha := toNat_ofNat (n := n / 64 % 0x20 + 0xC0) (by omega)
    have h := Encodes.two (a := .ofNat (n / 64 % 0x20 + 0xC0)) (b := .ofNat (n % 0x40 + 0x80))
      (by omega) (by unfold Continues; omega)
    have hvalue : n = (n / 64 % 0x20 + 0xC0 - 0xC0) * 0x40 + (n % 0x40 + 0x80 - 0x80) := by omega
    rwa [ha, hlast, ← hvalue] at h
  rw [if_neg h2]
  have hmiddle := toNat_ofNat (n := n / 64 % 0x40 + 0x80) (by omega)
  by_cases h3 : n ≤ 0xFFFF
  · rw [if_pos h3]
    have ha := toNat_ofNat (n := n / 4096 % 0x10 + 0xE0) (by omega)
    have h := Encodes.three (a := .ofNat (n / 4096 % 0x10 + 0xE0))
      (b := .ofNat (n / 64 % 0x40 + 0x80)) (c := .ofNat (n % 0x40 + 0x80))
      (by omega) (by unfold Continues; omega) (by unfold Continues; omega) (by omega) (by omega)
    have hvalue : n = (n / 4096 % 0x10 + 0xE0 - 0xE0) * 0x1000 +
        (n / 64 % 0x40 + 0x80 - 0x80) * 0x40 + (n % 0x40 + 0x80 - 0x80) := by omega
    rwa [ha, hmiddle, hlast, ← hvalue] at h
  rw [if_neg h3]
  have ha := toNat_ofNat (n := n / 262144 % 0x08 + 0xF0) (by omega)
  have hsecond := toNat_ofNat (n := n / 4096 % 0x40 + 0x80) (by omega)
  have h := Encodes.four (a := .ofNat (n / 262144 % 0x08 + 0xF0))
    (b := .ofNat (n / 4096 % 0x40 + 0x80)) (c := .ofNat (n / 64 % 0x40 + 0x80))
    (d := .ofNat (n % 0x40 + 0x80)) (by omega) (by unfold Continues; omega)
    (by unfold Continues; omega) (by unfold Continues; omega) (by omega) (by omega)
  have hvalue : n = (n / 262144 % 0x08 + 0xF0 - 0xF0) * 0x40000 +
      (n / 4096 % 0x40 + 0x80 - 0x80) * 0x1000 + (n / 64 % 0x40 + 0x80 - 0x80) * 0x40 +
      (n % 0x40 + 0x80 - 0x80) := by omega
  rwa [ha, hsecond, hmiddle, hlast, ← hvalue] at h

/-- A sequence stands for a character exactly when it encodes it. -/
theorem encodes_toNat_iff (bytes : List UInt8) (c : Char) :
    Encodes bytes c.toNat ↔ bytes = String.utf8EncodeChar c := by
  constructor
  · intro h
    exact h.utf8EncodeChar_eq.symm
  · rintro rfl
    exact encodes_utf8EncodeChar c

/-! ## Texts -/

/-- Bytes that are made of sequences. -/
inductive WellFormed : List UInt8 → Prop
  | nil : WellFormed []
  | cons {bytes rest : List UInt8} {n : Nat} (h : Encodes bytes n) (hrest : WellFormed rest) :
      WellFormed (bytes ++ rest)

/-- The characters that bytes stand for, sequence by sequence. -/
inductive Decodes : List UInt8 → List Char → Prop
  | nil : Decodes [] []
  | cons {bytes rest : List UInt8} {c : Char} {cs : List Char} (h : Encodes bytes c.toNat)
      (hrest : Decodes rest cs) : Decodes (bytes ++ rest) (c :: cs)

/-- Bytes are made of sequences exactly when they stand for characters. -/
theorem wellFormed_iff (bytes : List UInt8) : WellFormed bytes ↔ ∃ cs, Decodes bytes cs := by
  constructor
  · intro h
    induction h with
    | nil => exact ⟨[], .nil⟩
    | @cons bytes rest n h hrest ih =>
        rcases ih with ⟨cs, hcs⟩
        have hchar : (Char.ofNatAux n h.isValidChar).toNat = n := rfl
        exact ⟨_ :: cs, .cons (hchar ▸ h) hcs⟩
  · rintro ⟨cs, h⟩
    induction h with
    | nil => exact .nil
    | cons h hrest ih => exact .cons h ih

/-- Bytes stand for the characters whose sequences they are made of. -/
theorem decodes_iff (bytes : List UInt8) (cs : List Char) :
    Decodes bytes cs ↔ bytes = cs.flatMap String.utf8EncodeChar := by
  constructor
  · intro h
    induction h with
    | nil => rfl
    | cons h hrest ih => rw [List.flatMap_cons, ← ih, ← (encodes_toNat_iff _ _).mp h]
  · rintro rfl
    induction cs with
    | nil => exact .nil
    | cons c cs ih => exact .cons ((encodes_toNat_iff _ c).mpr rfl) ih

/-- The bytes of a text are the sequences of its characters. -/
theorem toList_toByteArray (text : String) :
    text.toByteArray.data.toList = text.toList.flatMap String.utf8EncodeChar := by
  rw [← String.utf8Encode_toList]
  exact List.toList_data_toByteArray

/-- Bytes are read as the text that has them. -/
theorem fromUTF8?_eq_some_iff_toByteArray (content : ByteArray) (text : String) :
    String.fromUTF8? content = some text ↔ text.toByteArray = content := by
  unfold String.fromUTF8?
  constructor
  · intro h
    split at h
    · exact congrArg String.toByteArray (Option.some.inj h).symm
    · contradiction
  · rintro rfl
    rw [dif_pos text.isValidUTF8]
    rfl

/-- Bytes are read as the text whose characters they stand for. -/
theorem fromUTF8?_eq_some_iff (content : ByteArray) (text : String) :
    String.fromUTF8? content = some text ↔ Decodes content.data.toList text.toList := by
  rw [fromUTF8?_eq_some_iff_toByteArray, decodes_iff, ← toList_toByteArray, Array.toList_inj,
    ByteArray.ext_iff, eq_comm]

/-- Bytes are no text exactly when they are not made of sequences. -/
theorem fromUTF8?_eq_none_iff (content : ByteArray) :
    String.fromUTF8? content = none ↔ ¬ WellFormed content.data.toList := by
  rw [wellFormed_iff, Option.eq_none_iff_forall_ne_some, not_exists]
  constructor
  · intro h cs hcs
    refine h (.ofList cs) ((fromUTF8?_eq_some_iff content _).mpr ?_)
    rwa [String.toList_ofList]
  · intro h text htext
    exact h text.toList ((fromUTF8?_eq_some_iff content text).mp htext)

end Utf8
end ScriptReview
