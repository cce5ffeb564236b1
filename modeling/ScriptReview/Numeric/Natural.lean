/-!
# Powers and totals of natural numbers

Main definitions:

* `powerOfTwo` and `powerOfTen` are powers.
* `total` adds up a list of numbers.

Main results:

* `total_append` says that the total of two lists together is the sum of their totals.
-/

namespace ScriptReview

/-- A power of two. -/
def powerOfTwo (exponent : Nat) : Nat := Nat.pow 2 exponent

/-- A power of ten. -/
def powerOfTen (exponent : Nat) : Nat := Nat.pow 10 exponent

/-- The total of some numbers. -/
def total : List Nat → Nat
  | [] => 0
  | n :: rest => n + total rest

@[simp]
theorem total_nil : total [] = 0 :=
  rfl

@[simp]
theorem total_cons (n : Nat) (rest : List Nat) : total (n :: rest) = n + total rest :=
  rfl

/-- The total of two lists together is the sum of their totals. -/
@[simp]
theorem total_append (a b : List Nat) : total (a ++ b) = total a + total b := by
  induction a with
  | nil => simp
  | cons n rest ih => simp [ih, Nat.add_assoc]

/-- A fold that adds up numbers ends with what it begins with and their total. -/
theorem foldl_add_eq_total {α : Type} (f : α → Nat) (n : Nat) (l : List α) :
    l.foldl (fun n a => n + f a) n = n + total (l.map f) := by
  induction l generalizing n with
  | nil => rfl
  | cons a l ih => simp [ih, Nat.add_assoc]

end ScriptReview
