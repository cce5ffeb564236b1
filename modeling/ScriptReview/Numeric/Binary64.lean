import ScriptReview.Numeric.Natural

/-!
# Double precision numbers

A double precision number is a word of 64 bits: a sign, eleven bits of exponent and 52 bits of
fraction. Arithmetic is exact arithmetic on fractions of natural numbers followed by rounding to the
nearest number, ties going to the even one. Nothing here depends on the arithmetic of a machine.

Main definitions:

* `Binary64.ofRatio` rounds a fraction.
* `mul` and `div` work on numbers that are not negative.
* `lt` is the order, under which no comparison with a value that is not a number holds.
-/

namespace ScriptReview

/-- A double precision number as its 64 bits. -/
structure Binary64 where
  bits : UInt64
  deriving DecidableEq, Repr, Inhabited

namespace Binary64

/-- The bits without the sign. -/
def magnitude (x : Binary64) : Nat :=
  x.bits.toNat % powerOfTwo 63

/-- Whether the sign bit is set. -/
def isNegative (x : Binary64) : Bool :=
  powerOfTwo 63 ≤ x.bits.toNat

/-- The magnitude of infinity. Larger magnitudes are not numbers. -/
def infinityMagnitude : Nat := 2047 * powerOfTwo 52

/-- Whether the value is not a number. -/
def isNaN (x : Binary64) : Bool :=
  infinityMagnitude < x.magnitude

/-- Whether the value is infinite. -/
def isInfinite (x : Binary64) : Bool :=
  x.magnitude == infinityMagnitude

/-- The number with a given sign and magnitude. -/
def ofMagnitude (negative : Bool) (m : Nat) : Binary64 :=
  ⟨UInt64.ofNat (if negative then powerOfTwo 63 + m else m)⟩

/-- The number with the other sign. -/
def neg (x : Binary64) : Binary64 :=
  ofMagnitude (!x.isNegative) x.magnitude

/-- The significand and the exponent of a finite number: its value without the sign is
`significand * 2 ^ (exponent - 1074)`. -/
def parts (x : Binary64) : Nat × Nat :=
  let e := x.magnitude / powerOfTwo 52
  let f := x.magnitude % powerOfTwo 52
  if e = 0 then (f, 0) else (powerOfTwo 52 + f, e - 1)

/-- The value of a finite number without its sign, as a fraction. -/
def ratio (x : Binary64) : Nat × Nat :=
  let (m, e) := x.parts
  (m * powerOfTwo e, powerOfTwo 1074)

/-- Rounds a fraction to the nearest natural number, a half going to the even neighbour. -/
def roundDiv (num den : Nat) : Nat :=
  let q := num / den
  let r := num % den
  if 2 * r < den then q
  else if den < 2 * r then q + 1
  else if q % 2 = 0 then q else q + 1

/-- The exponent with which a fraction has 53 significant bits, or zero where it has fewer: the
largest `e` with `2 ^ (e + 52) ≤ num / den * 2 ^ 1074`. -/
def exponentOf (num den : Nat) : Nat :=
  (num * powerOfTwo 1074 / den).log2 - 52

/-- The double precision number nearest to the fraction `num / den`, infinity where it is too
large. -/
def ofRatio (num den : Nat) : Binary64 :=
  let e := exponentOf num den
  let m := roundDiv (num * powerOfTwo 1074) (den * powerOfTwo e)
  ofMagnitude false (Nat.min (e * powerOfTwo 52 + m) infinityMagnitude)

/-- The double precision number nearest to a natural number. -/
def ofNat (n : Nat) : Binary64 :=
  ofRatio n 1

/-- The product of two finite numbers that are not negative. -/
def mul (x y : Binary64) : Binary64 :=
  ofRatio (x.ratio.1 * y.ratio.1) (x.ratio.2 * y.ratio.2)

/-- The quotient of two finite numbers that are not negative, the second of which is not zero. -/
def div (x y : Binary64) : Binary64 :=
  ofRatio (x.ratio.1 * y.ratio.2) (x.ratio.2 * y.ratio.1)

/-- The place of a number in the order. Both zeros have one place. -/
def orderKey (x : Binary64) : Int :=
  if x.isNegative then -(x.magnitude : Int) else x.magnitude

/-- The order of numbers. It holds of no pair with a value that is not a number. -/
def lt (x y : Binary64) : Bool :=
  !x.isNaN && !y.isNaN && decide (x.orderKey < y.orderKey)

/-- Zero. -/
def zero : Binary64 := ⟨0⟩

end Binary64
end ScriptReview
