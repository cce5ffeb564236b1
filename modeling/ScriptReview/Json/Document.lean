import ScriptReview.Json.Value

/-!
# JSON texts as they are written

A document is the tree of a JSON text before anything is decided about its contents: numbers keep
their digits, strings their escapes, and objects their members in order with all repetitions.
Whether an escape stands for a character, a number fits, or arrays are nested too deeply is asked
only where a part of the document is used.

Main definitions:

* `Json.Document.read?` reads a text, and `Json.Document.decEq` compares two documents.
* `Json.Document.text?` and `Json.Document.value?` are the string and the value that a document
  stands for.
-/

namespace ScriptReview
namespace Json

/-- A number as it is written: sign, digits before and after the point, and an exponent whose flag
says whether it is negative. -/
structure Numeral where
  negative : Bool
  whole : List Char
  fraction : List Char
  exponent : Option (Bool × List Char)
  deriving DecidableEq, Repr, Inhabited

/-- A symbol of a string: a character, or a unit of sixteen bits that is written as an escape. -/
inductive Symbol where
  | plain (c : Char)
  | unit (n : Nat)
  deriving DecidableEq, Repr, Inhabited

/-- A JSON text as a tree. -/
inductive Document where
  | null
  | bool (b : Bool)
  | number (n : Numeral)
  | string (symbols : List Symbol)
  | array (items : List Document)
  | object (members : List (List Symbol × Document))
  deriving Inhabited

namespace Document

/-! ## Comparing -/

mutual

/-- Compares documents. Documents of different kinds differ. -/
def decEq (d e : Document) : Decidable (d = e) :=
  if h : d.ctorIdx = e.ctorIdx then
    match d, e, h with
    | .null, .null, _ => isTrue rfl
    | .bool b, .bool b', _ => decidable_of_iff (b = b') (by rw [bool.injEq])
    | .number n, .number n', _ => decidable_of_iff (n = n') (by rw [number.injEq])
    | .string s, .string s', _ => decidable_of_iff (s = s') (by rw [string.injEq])
    | .array ds, .array ds', _ =>
      haveI := decEqItems ds ds'
      decidable_of_iff (ds = ds') (by rw [array.injEq])
    | .object ms, .object ms', _ =>
      haveI := decEqMembers ms ms'
      decidable_of_iff (ms = ms') (by rw [object.injEq])
  else isFalse fun heq => h (congrArg Document.ctorIdx heq)

/-- Compares the items of arrays. -/
def decEqItems : (ds es : List Document) → Decidable (ds = es)
  | [], [] => isTrue rfl
  | [], _ :: _ => isFalse nofun
  | _ :: _, [] => isFalse nofun
  | d :: ds, e :: es =>
    haveI := decEq d e
    haveI := decEqItems ds es
    decidable_of_iff (d = e ∧ ds = es) (by rw [List.cons.injEq])

/-- Compares the members of objects. -/
def decEqMembers : (ms ns : List (List Symbol × Document)) → Decidable (ms = ns)
  | [], [] => isTrue rfl
  | [], _ :: _ => isFalse nofun
  | _ :: _, [] => isFalse nofun
  | (name, d) :: ms, (name', e) :: ns =>
    haveI := decEq d e
    haveI := decEqMembers ms ns
    decidable_of_iff ((name = name' ∧ d = e) ∧ ms = ns) (by rw [List.cons.injEq, Prod.mk.injEq])

end

instance : DecidableEq Document := decEq

/-! ## Reading -/

/-- The blanks between the tokens of a JSON text. -/
def isBlank (c : Char) : Bool :=
  c == ' ' || c == '\t' || c == '\n' || c == '\r'

/-- The text after the blanks at its beginning. -/
def skip (cs : List Char) : List Char :=
  cs.dropWhile isBlank

/-- The value of a hexadecimal digit in either case. -/
def hexDigit? (c : Char) : Option Nat :=
  if '0' ≤ c ∧ c ≤ '9' then some (c.toNat - '0'.toNat)
  else if 'a' ≤ c ∧ c ≤ 'f' then some (c.toNat - 'a'.toNat + 10)
  else if 'A' ≤ c ∧ c ≤ 'F' then some (c.toNat - 'A'.toNat + 10)
  else none

/-- The unit that four hexadecimal digits stand for. -/
def unit? (a b c d : Char) : Option Symbol := do
  let a ← hexDigit? a
  let b ← hexDigit? b
  let c ← hexDigit? c
  let d ← hexDigit? d
  some (.unit (((a * 16 + b) * 16 + c) * 16 + d))

/-- The character that a letter after a backslash stands for. -/
def escaped? : Char → Option Char
  | '"' => some '"'
  | '\\' => some '\\'
  | '/' => some '/'
  | 'b' => some '\x08'
  | 'f' => some '\x0c'
  | 'n' => some '\n'
  | 'r' => some '\r'
  | 't' => some '\t'
  | _ => none

/-- Reads the symbols of a string up to its closing quote. -/
def symbols? : List Char → Option (List Symbol × List Char)
  | [] => none
  | '"' :: rest => some ([], rest)
  | '\\' :: 'u' :: a :: b :: c :: d :: rest =>
    match unit? a b c d with
    | none => none
    | some s => (symbols? rest).map fun (ss, rest) => (s :: ss, rest)
  | '\\' :: e :: rest =>
    match escaped? e with
    | none => none
    | some c => (symbols? rest).map fun (ss, rest) => (.plain c :: ss, rest)
  | c :: rest =>
    if c = '\\' ∨ c.toNat < 0x20 then none
    else (symbols? rest).map fun (ss, rest) => (.plain c :: ss, rest)

/-- The digits at the beginning of a text, and the text after them. -/
def digits (cs : List Char) : List Char × List Char :=
  (cs.takeWhile Char.isDigit, cs.dropWhile Char.isDigit)

/-- Reads the digits after a point. No point is no digits. -/
def fraction? : List Char → Option (List Char × List Char)
  | '.' :: rest => if (digits rest).1 = [] then none else some (digits rest)
  | cs => some ([], cs)

/-- Reads the digits of an exponent after its sign. -/
def exponentDigits? (negative : Bool) (cs : List Char) :
    Option (Option (Bool × List Char) × List Char) :=
  if (digits cs).1 = [] then none else some (some (negative, (digits cs).1), (digits cs).2)

/-- Reads an exponent, if there is one. -/
def exponent? : List Char → Option (Option (Bool × List Char) × List Char)
  | c :: rest =>
    if c = 'e' ∨ c = 'E' then
      match rest with
      | '-' :: rest => exponentDigits? true rest
      | '+' :: rest => exponentDigits? false rest
      | rest => exponentDigits? false rest
    else some (none, c :: rest)
  | [] => some (none, [])

/-- Reads a number without its sign. A zero at the beginning stands alone. -/
def numeral? (negative : Bool) (cs : List Char) : Option (Numeral × List Char) :=
  let (whole, rest) := digits cs
  if whole = [] ∨ (whole.head? = some '0' ∧ whole ≠ ['0']) then none
  else do
    let (fraction, rest) ← fraction? rest
    let (exponent, rest) ← exponent? rest
    some (⟨negative, whole, fraction, exponent⟩, rest)

/-- The text after an expected word. -/
def after? : List Char → List Char → Option (List Char)
  | [], cs => some cs
  | _ :: _, [] => none
  | p :: ps, c :: cs => if p = c then after? ps cs else none

/-- Reads a scalar. -/
def scalar? : List Char → Option (Document × List Char)
  | 'n' :: rest => (after? "ull".toList rest).map (.null, ·)
  | 't' :: rest => (after? "rue".toList rest).map (.bool true, ·)
  | 'f' :: rest => (after? "alse".toList rest).map (.bool false, ·)
  | '"' :: rest => (symbols? rest).map fun (ss, rest) => (.string ss, rest)
  | '-' :: rest => (numeral? true rest).map fun (n, rest) => (.number n, rest)
  | cs => (numeral? false cs).map fun (n, rest) => (.number n, rest)

mutual

/-- Reads a value. The number bounds how many more calls are made. -/
def valueFrom? : Nat → List Char → Option (Document × List Char)
  | 0, _ => none
  | fuel + 1, cs =>
    match skip cs with
    | '[' :: rest =>
      match skip rest with
      | ']' :: rest => some (.array [], rest)
      | rest => (itemsFrom? fuel rest).map fun (ds, rest) => (.array ds, rest)
    | '\x7b' :: rest =>
      match skip rest with
      | '\x7d' :: rest => some (.object [], rest)
      | rest => (membersFrom? fuel rest).map fun (ms, rest) => (.object ms, rest)
    | cs => scalar? cs

/-- Reads the items of an array, of which there is at least one, and its closing bracket. -/
def itemsFrom? : Nat → List Char → Option (List Document × List Char)
  | 0, _ => none
  | fuel + 1, cs =>
    match valueFrom? fuel cs with
    | none => none
    | some (d, rest) =>
      match skip rest with
      | ',' :: rest => (itemsFrom? fuel rest).map fun (ds, rest) => (d :: ds, rest)
      | ']' :: rest => some ([d], rest)
      | _ => none

/-- Reads the members of an object, of which there is at least one, and its closing brace. -/
def membersFrom? : Nat → List Char → Option (List (List Symbol × Document) × List Char)
  | 0, _ => none
  | fuel + 1, cs =>
    match skip cs with
    | '"' :: rest =>
      match symbols? rest with
      | none => none
      | some (name, rest) =>
        match skip rest with
        | ':' :: rest =>
          match valueFrom? fuel rest with
          | none => none
          | some (d, rest) =>
            match skip rest with
            | ',' :: rest => (membersFrom? fuel rest).map fun (ms, rest) => ((name, d) :: ms, rest)
            | '\x7d' :: rest => some ([(name, d)], rest)
            | _ => none
        | _ => none
    | _ => none

end

/-- Reads a whole text: one value with blanks around it. Every call but the first two leaves a
character behind, so that twice the length of the text bounds their number. -/
def read? (text : List Char) : Option Document :=
  match valueFrom? (2 * text.length + 2) text with
  | some (d, rest) => if (skip rest).isEmpty then some d else none
  | none => none

/-! ## Strings -/

/-- Whether a unit is the first half of a character beyond sixteen bits. -/
def isHighHalf (n : Nat) : Bool :=
  0xD800 ≤ n && n ≤ 0xDBFF

/-- Whether a unit is the second half of a character beyond sixteen bits. -/
def isLowHalf (n : Nat) : Bool :=
  0xDC00 ≤ n && n ≤ 0xDFFF

/-- The characters that symbols stand for. Two halves of a character have to be neighbours. -/
def chars? : List Symbol → Option (List Char)
  | [] => some []
  | .plain c :: rest => (chars? rest).map (c :: ·)
  | .unit n :: rest =>
    if isHighHalf n then
      match rest with
      | .unit m :: rest =>
        if isLowHalf m then
          (chars? rest).map (Char.ofNat (0x10000 + (n - 0xD800) * 0x400 + (m - 0xDC00)) :: ·)
        else none
      | _ => none
    else if isLowHalf n then none
    else (chars? rest).map (Char.ofNat n :: ·)

/-- The string that symbols stand for. -/
def textOf? (symbols : List Symbol) : Option String :=
  (chars? symbols).map String.ofList

/-- The string that a document stands for. -/
def text? : Document → Option String
  | .string symbols => textOf? symbols
  | _ => none

end Document
end Json
end ScriptReview
