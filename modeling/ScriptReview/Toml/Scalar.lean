import ScriptReview.Decimal.Nearest
import ScriptReview.Json.Document
import ScriptReview.Toml.Value

/-!
# TOML numbers, dates and times

Main definitions:

* `Toml.dateTime?` reads a date, a time, or both.
* `Toml.float?` and `Toml.integer?` read numbers, in whose digits underscores may stand between two
  digits.
* `Toml.number?` reads whatever begins with a sign or a digit.
-/

namespace ScriptReview
namespace Toml

/-! ## Dates and times -/

/-- Reads a number of exactly so many digits. -/
def fixed? (count : Nat) (cs : List Char) : Option (Nat × List Char) :=
  let digits := cs.take count
  if digits.length = count ∧ digits.all Char.isDigit then
    some (Decimal.digitsValue digits, cs.drop count)
  else none

/-- Reads a number of two digits between two bounds. -/
def pair? (least greatest : Nat) (cs : List Char) : Option (Nat × List Char) := do
  let (n, rest) ← fixed? 2 cs
  if least ≤ n ∧ n ≤ greatest then some (n, rest) else none

/-- The text after a character that it has to begin with. -/
def after? (c : Char) : List Char → Option (List Char)
  | d :: rest => if d = c then some rest else none
  | [] => none

/-- Whether a year has a leap day. -/
def isLeapYear (year : Nat) : Bool :=
  year % 4 == 0 && (year % 100 != 0 || year % 400 == 0)

/-- The number of days of a month. -/
def daysIn (year month : Nat) : Nat :=
  if month = 2 then (if isLeapYear year then 29 else 28)
  else if month = 4 ∨ month = 6 ∨ month = 9 ∨ month = 11 then 30
  else 31

/-- The text after a date. -/
def afterDate? (cs : List Char) : Option (List Char) := do
  let (year, rest) ← fixed? 4 cs
  let rest ← after? '-' rest
  let (month, rest) ← pair? 1 12 rest
  let rest ← after? '-' rest
  let (_, rest) ← pair? 1 (daysIn year month) rest
  some rest

/-- The text after a fraction of a second that it may begin with. -/
def skipSecondFraction : List Char → List Char
  | '.' :: d :: rest => if d.isDigit then rest.dropWhile Char.isDigit else '.' :: d :: rest
  | cs => cs

/-- The text after a time of day. The sixtieth second is a leap second. -/
def afterTime? (cs : List Char) : Option (List Char) := do
  let (_, rest) ← pair? 0 23 cs
  let rest ← after? ':' rest
  let (_, rest) ← pair? 0 59 rest
  let rest ← after? ':' rest
  let (_, rest) ← pair? 0 60 rest
  some (skipSecondFraction rest)

/-- The text after the hours and minutes of an offset. -/
def afterOffset? (cs : List Char) : Option (List Char) := do
  let (_, rest) ← pair? 0 23 cs
  let rest ← after? ':' rest
  let (_, rest) ← pair? 0 59 rest
  some rest

/-- The text after an offset from universal time that it may begin with. -/
def skipOffset : List Char → List Char
  | [] => []
  | c :: rest =>
    if c = 'Z' ∨ c = 'z' then rest
    else if c = '+' ∨ c = '-' then (afterOffset? rest).getD (c :: rest)
    else c :: rest

/-- The text after a time of day with its offset, which a letter or a blank separates from a date.
-/
def skipTimeOfDate : List Char → List Char
  | [] => []
  | c :: rest =>
    if c = 'T' ∨ c = 't' ∨ c = ' ' then ((afterTime? rest).map skipOffset).getD (c :: rest)
    else c :: rest

/-- The text after a date, a time of day, or both. -/
def afterDateTime? (cs : List Char) : Option (List Char) :=
  match afterDate? cs with
  | some rest => some (skipTimeOfDate rest)
  | none => afterTime? cs

/-- Reads a date, a time of day, or both. -/
def dateTime? (cs : List Char) : Option (Value × List Char) := do
  let rest ← afterDateTime? cs
  some (.dateTime (String.ofList (cs.take (cs.length - rest.length))), rest)

/-! ## Digits -/

/-- Reads digits in which single underscores may stand between two digits. The flag says whether a
digit has to come next. -/
def digitsFrom? (isDigit : Char → Bool) : Bool → List Char → Option (List Char × List Char)
  | needed, [] => if needed then none else some ([], [])
  | needed, c :: rest =>
    if isDigit c then (digitsFrom? isDigit false rest).map fun (ds, rest) => (c :: ds, rest)
    else if needed then none
    else if c = '_' then digitsFrom? isDigit true rest
    else some ([], c :: rest)

/-- Reads at least one digit. -/
def digits? (isDigit : Char → Bool) (cs : List Char) : Option (List Char × List Char) :=
  digitsFrom? isDigit true cs

/-- Reads a sign, which is negative where the flag is set. -/
def sign : List Char → Bool × List Char
  | '-' :: rest => (true, rest)
  | '+' :: rest => (false, rest)
  | cs => (false, cs)

/-- Reads the digits of a whole number. A zero at the beginning stands alone. -/
def whole? : List Char → Option (List Char × List Char)
  | '0' :: rest => some (['0'], rest)
  | cs => digits? Char.isDigit cs

/-! ## Floats -/

/-- Reads an exponent, if there is one. -/
def exponent? : List Char → Option (Option Int × List Char)
  | [] => some (none, [])
  | c :: rest =>
    if c = 'e' ∨ c = 'E' then do
      let (negative, rest) := sign rest
      let (digits, rest) ← digits? Char.isDigit rest
      let n := Decimal.digitsValue digits
      some (some (if negative then -(n : Int) else n), rest)
    else some (none, c :: rest)

/-- Reads the digits after a point, if there is one. -/
def fraction? : List Char → Option (Option (List Char) × List Char)
  | '.' :: rest => (digits? Char.isDigit rest).map fun (ds, rest) => (some ds, rest)
  | cs => some (none, cs)

/-- The infinite double with a sign. -/
def infinity (negative : Bool) : Binary64 :=
  .ofMagnitude negative Binary64.infinityMagnitude

/-- The double with a sign that is not a number. -/
def notANumber (negative : Bool) : Binary64 :=
  .ofMagnitude negative (Binary64.infinityMagnitude + powerOfTwo 51)

/-- Reads a float by name, after its sign. -/
def namedFloat? (negative : Bool) : List Char → Option (Value × List Char)
  | 'i' :: 'n' :: 'f' :: rest => some (.float (infinity negative), rest)
  | 'n' :: 'a' :: 'n' :: rest => some (.float (notANumber negative), rest)
  | _ => none

/-- Reads a float in digits, after its sign. It has a fraction or an exponent, and it does not
round to positive infinity. -/
def digitFloat? (negative : Bool) (cs : List Char) : Option (Value × List Char) := do
  let (whole, rest) ← whole? cs
  let (fraction, rest) ← fraction? rest
  let (exponent, rest) ← exponent? rest
  if fraction.isNone ∧ exponent.isNone then none
  else
    let x := (Decimal.ofDigits whole (fraction.getD []) (exponent.getD 0)).nearest
    if negative then some (.float x.neg, rest)
    else if x.isInfinite then none
    else some (.float x, rest)

/-- Reads a float. -/
def float? (cs : List Char) : Option (Value × List Char) :=
  let (negative, rest) := sign cs
  (namedFloat? negative rest).or (digitFloat? negative rest)

/-! ## Integers -/

/-- An integer, unless it does not fit 64 bits. -/
def fitting? (i : Int) : Option Value :=
  if -(powerOfTwo 63 : Int) ≤ i ∧ i < powerOfTwo 63 then some (.integer i) else none

/-- The number that digits to a base stand for. -/
def valueInBase (base : Nat) (digits : List Char) : Nat :=
  digits.foldl (fun n c => base * n + (Json.Document.hexDigit? c).getD 0) 0

/-- Whether a character is a digit to a base. -/
def isDigitOf (base : Nat) (c : Char) : Bool :=
  (Json.Document.hexDigit? c).any (· < base)

/-- Reads an integer to a base, after the letter that stands for the base. -/
def inBase? (base : Nat) (cs : List Char) : Option (Value × List Char) := do
  let (digits, rest) ← digits? (isDigitOf base) cs
  let v ← fitting? (valueInBase base digits)
  some (v, rest)

/-- Reads an integer. -/
def integer? : List Char → Option (Value × List Char)
  | '0' :: 'x' :: rest => inBase? 16 rest
  | '0' :: 'o' :: rest => inBase? 8 rest
  | '0' :: 'b' :: rest => inBase? 2 rest
  | cs => do
    let (negative, rest) := sign cs
    let (digits, rest) ← whole? rest
    let n := Decimal.digitsValue digits
    let v ← fitting? (if negative then -(n : Int) else n)
    some (v, rest)

/-- Reads what begins with a sign or a digit. -/
def number? (cs : List Char) : Option (Value × List Char) :=
  (dateTime? cs).or ((float? cs).or (integer? cs))

end Toml
end ScriptReview
