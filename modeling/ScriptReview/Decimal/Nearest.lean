import ScriptReview.Decimal.Shortest

/-!
# The double nearest to a decimal

Main definitions:

* `Decimal.ofDigits` puts the digits before and after a point and a power of ten together.
* `Decimal.nearest` rounds a decimal to a double.

Numbers of more than 310 digits before the point round to infinity, and numbers whose first digit
comes more than 330 places after the point round to zero, so that no power of ten has to be
computed for them.
-/

namespace ScriptReview
namespace Decimal

/-- The number that decimal digits stand for. -/
def digitsValue (digits : List Char) : Nat :=
  digits.foldl (fun n c => 10 * n + (c.toNat - '0'.toNat)) 0

/-- The decimal with some digits before and after its point, times a power of ten. -/
def ofDigits (whole fraction : List Char) (exponent : Int) : Decimal :=
  ⟨digitsValue (whole ++ fraction), exponent - fraction.length⟩

/-- The exponent of the leading digit of a decimal that is not zero. -/
def leading (d : Decimal) : Int :=
  ((Nat.toDigits 10 d.digits).length : Int) - 1 + d.exponent

/-- The double nearest to a decimal, infinity where it is too large. -/
def nearest (d : Decimal) : Binary64 :=
  if d.digits = 0 ∨ d.leading < -330 then .zero
  else if 309 < d.leading then .ofMagnitude false Binary64.infinityMagnitude
  else .ofRatio d.toRatio.1 d.toRatio.2

end Decimal
end ScriptReview
