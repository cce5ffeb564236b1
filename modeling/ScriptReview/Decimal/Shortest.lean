import ScriptReview.Numeric.Binary64

/-!
# The shortest decimal of a double

Many decimals are read as one double precision number. The shortest of them is the one to print,
and of several shortest ones the nearest to the number; of two that are equally near, the one with
the even last digit.

Main definitions:

* `Decimal` is a decimal number without sign.
* `Decimal.shortest` finds the shortest decimal of a finite number.
* `Decimal.Layout` says where positional notation ends, and `Decimal.render` writes a decimal.
-/

namespace ScriptReview

/-- The decimal number `digits * 10 ^ exponent`. -/
structure Decimal where
  digits : Nat
  exponent : Int
  deriving DecidableEq, Repr, Inhabited

namespace Decimal

/-! ## The numbers that are read as one double -/

/-- The numbers that round to a double: those between `low` and `high` over `scale`, with the ends
where `closed` is set. The double itself is `value / scale`. -/
structure Interval where
  low : Nat
  value : Nat
  high : Nat
  scale : Nat
  closed : Bool

/-- The numbers that round to a finite double that is not zero. The gap below a power of two is
half as wide as the gap above it. -/
def Interval.ofBinary64 (x : Binary64) : Interval :=
  let (m, e) := x.parts
  let gapBelow := if m = powerOfTwo 52 ∧ e ≠ 0 then 1 else 2
  { low := (4 * m - gapBelow) * powerOfTwo e
    value := 4 * m * powerOfTwo e
    high := (4 * m + 2) * powerOfTwo e
    scale := powerOfTwo 1076
    closed := m % 2 = 0 }

/-- Whether the fraction `num / den` lies in the interval. -/
def Interval.contains (i : Interval) (num den : Nat) : Bool :=
  let n := num * i.scale
  if i.closed then i.low * den ≤ n && n ≤ i.high * den else i.low * den < n && n < i.high * den

/-! ## The search -/

/-- The least `t` up to a bound, counted from `t`, with `den ≤ num * 10 ^ t`. -/
def firstScale (num den : Nat) : Nat → Nat → Nat
  | 0, t => t
  | fuel + 1, t => if den ≤ num then t else firstScale (10 * num) den fuel (t + 1)

/-- The exponent of the leading digit of a fraction that is not zero: the largest `k` with
`10 ^ k ≤ num / den`. -/
def leadingExponent (num den : Nat) : Int :=
  if den ≤ num then ((Nat.toDigits 10 (num / den)).length : Int) - 1
  else -(firstScale num den 400 0 : Int)

/-- The fraction `num / den` in units of `10 ^ exponent`. -/
def inUnits (num den : Nat) (exponent : Int) : Nat × Nat :=
  if exponent < 0 then (num * powerOfTen exponent.natAbs, den)
  else (num, den * powerOfTen exponent.natAbs)

/-- The number `digits * 10 ^ exponent` as a fraction. -/
def toRatio (d : Decimal) : Nat × Nat :=
  if d.exponent < 0 then (d.digits, powerOfTen d.exponent.natAbs)
  else (d.digits * powerOfTen d.exponent.natAbs, 1)

/-- Whether a decimal lies in the interval. -/
def isIn (i : Interval) (d : Decimal) : Bool :=
  i.contains d.toRatio.1 d.toRatio.2

/-- The best decimal of an interval whose last digit has the given exponent: one of the two
neighbours of the value on that grid. -/
def best? (i : Interval) (exponent : Int) : Option Decimal :=
  let (num, den) := inUnits i.value i.scale exponent
  let below : Decimal := ⟨num / den, exponent⟩
  let above : Decimal := ⟨num / den + 1, exponent⟩
  let rest := 2 * (num % den)
  let belowIsNearer := rest < den || (rest == den && below.digits % 2 == 0)
  match isIn i below && below.digits != 0, isIn i above with
  | true, true => some (if belowIsNearer then below else above)
  | true, false => some below
  | false, true => some above
  | false, false => none

/-- The first grid with a decimal in the interval, from the coarsest one on. -/
def search (i : Interval) : Nat → Int → Decimal
  | 0, exponent =>
    let (num, den) := inUnits i.value i.scale exponent
    ⟨num / den, exponent⟩
  | fuel + 1, exponent => (best? i exponent).getD (search i fuel (exponent - 1))

/-- The shortest decimal that is read as a finite number, without its sign. Seventeen digits always
suffice, and the next power of ten may be nearest. -/
def shortest (x : Binary64) : Decimal :=
  if x.magnitude = 0 then ⟨0, 0⟩
  else
    let i := Interval.ofBinary64 x
    search i 18 (leadingExponent i.value i.scale)

/-! ## Writing decimals -/

/-- Removes the zeros at the end of the digits. -/
def normalizeFrom : Nat → Decimal → Decimal
  | 0, d => d
  | fuel + 1, d =>
    if d.digits ≠ 0 ∧ d.digits % 10 = 0 then normalizeFrom fuel ⟨d.digits / 10, d.exponent + 1⟩
    else d

/-- The same number without zeros at the end of its digits. -/
def normalize (d : Decimal) : Decimal :=
  normalizeFrom (Nat.toDigits 10 d.digits).length d

/-- Which decimals are written without an exponent: those whose leading digit has an exponent from
`least` up to `greatest`. -/
structure Layout where
  least : Int
  greatest : Int

/-- The digits of an exponent with its sign, which is always written. -/
def exponentText (e : Int) : List Char :=
  (if e < 0 then '-' else '+') :: Nat.toDigits 10 e.natAbs

/-- The text of a decimal. Without an exponent there is always a point with a digit on both sides.
-/
def render (layout : Layout) (d : Decimal) : List Char :=
  if d.digits = 0 then ['0', '.', '0']
  else
    let d := d.normalize
    let digits := Nat.toDigits 10 d.digits
    let leading := (digits.length : Int) - 1 + d.exponent
    if leading < layout.least ∨ layout.greatest < leading then
      let fraction := digits.drop 1
      digits.take 1 ++ (if fraction = [] then [] else '.' :: fraction) ++
        'e' :: exponentText leading
    else if 0 ≤ d.exponent then digits ++ List.replicate d.exponent.toNat '0' ++ ['.', '0']
    else if 0 ≤ leading then
      digits.take (leading.toNat + 1) ++ '.' :: digits.drop (leading.toNat + 1)
    else ['0', '.'] ++ List.replicate ((-leading).toNat - 1) '0' ++ digits

end Decimal
end ScriptReview
