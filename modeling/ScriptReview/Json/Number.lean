import ScriptReview.Json.Document

/-!
# The numbers of JSON texts

An integer that fits 64 bits, with or without sign, is kept as it is. Every other number is a
double. It is computed from a significand of 64 bits, beyond which further digits are dropped, and
from a power of ten, with one rounding for each of the two and for their product or quotient.

Main definitions:

* `Significand.ofNumeral` gathers the digits of a number.
* `scaleByTen?` multiplies a significand with a power of ten.
* `Numeral.value?` is the value of a number, unless it is too large.
-/

namespace ScriptReview
namespace Json

/-- The largest significand. -/
def maxSignificand : Nat := powerOfTwo 64 - 1

/-- The largest exponent that is read. -/
def maxExponent : Nat := powerOfTwo 31 - 1

/-- The value of a decimal digit. -/
def digitValue (c : Char) : Nat :=
  c.toNat - '0'.toNat

/-- The digits gathered so far: a significand, a power of ten, and whether the significand is
full. -/
structure Significand where
  value : Nat
  exponent : Int
  full : Bool
  deriving DecidableEq, Repr, Inhabited

namespace Significand

/-- Gathers a digit before the point. A full significand counts the digits that it drops. -/
def addWhole (s : Significand) (c : Char) : Significand :=
  if s.full then { s with exponent := s.exponent + 1 }
  else if 10 * s.value + digitValue c ≤ maxSignificand then
    { s with value := 10 * s.value + digitValue c }
  else { s with full := true, exponent := s.exponent + 1 }

/-- Gathers a digit after the point, until the significand is full. -/
def addFraction (s : Significand) (c : Char) : Significand :=
  if s.full then s
  else if 10 * s.value + digitValue c ≤ maxSignificand then
    { s with value := 10 * s.value + digitValue c, exponent := s.exponent - 1 }
  else { s with full := true }

/-- The significand of the digits before the point. -/
def ofWhole (whole : List Char) : Significand :=
  whole.foldl addWhole ⟨0, 0, false⟩

/-- The significand of all digits of a number. -/
def ofNumeral (n : Numeral) : Significand :=
  n.fraction.foldl addFraction { ofWhole n.whole with full := false }

end Significand

/-- A power of ten as a double. -/
def scale (k : Nat) : Binary64 :=
  Binary64.ofNat (powerOfTen k)

/-- A significand times a power of ten, unless that is too large. Small powers are divided by in two
steps, after which nothing but zero is left. -/
def scaleByTen? (significand : Nat) (exponent : Int) : Option Binary64 :=
  let f := Binary64.ofNat significand
  let k := exponent.natAbs
  if 0 ≤ exponent then
    if significand = 0 then some .zero
    else if k ≤ 308 then
      let x := f.mul (scale k)
      if x.isInfinite then none else some x
    else none
  else if k ≤ 308 then some (f.div (scale k))
  else if k ≤ 616 then some ((f.div (scale 308)).div (scale (k - 308)))
  else some .zero

/-- The number that the digits of an exponent stand for, or nothing when it is too large. -/
def exponentValue? (digits : List Char) : Option Nat :=
  digits.foldl (fun n c => n.bind fun n =>
    if 10 * n + digitValue c ≤ maxExponent then some (10 * n + digitValue c) else none) (some 0)

namespace Numeral

/-- The double of a number without its sign. A large exponent makes zero of a zero, of any number
when it is negative, and is too large otherwise. -/
def magnitude? (n : Numeral) : Option Binary64 :=
  let s := Significand.ofNumeral n
  match n.exponent with
  | none => scaleByTen? s.value s.exponent
  | some (negative, digits) =>
    match exponentValue? digits with
    | some e => scaleByTen? s.value (if negative then s.exponent - e else s.exponent + e)
    | none => if s.value = 0 ∨ negative then some .zero else none

/-- Whether a number is written without point and exponent. -/
def isInteger (n : Numeral) : Bool :=
  n.fraction.isEmpty && n.exponent.isNone

/-- The integer that a number stands for, if it is one and fits. Zero with a sign is no integer. -/
def int? (n : Numeral) : Option Int :=
  let s := Significand.ofWhole n.whole
  if !n.isInteger || s.full then none
  else if !n.negative then some s.value
  else if 0 < s.value ∧ s.value ≤ powerOfTwo 63 then some (-s.value)
  else none

/-- The value of a number, unless it is too large for a double. -/
def value? (n : Numeral) : Option Value :=
  match n.int? with
  | some i => some (.int i)
  | none => n.magnitude?.map fun x => .double (if n.negative then x.neg else x)

end Numeral
end Json
end ScriptReview
