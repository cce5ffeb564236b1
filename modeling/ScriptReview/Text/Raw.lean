/-!
# Raw texts

The names of files and the arguments of a program are bytes. They are the UTF-8 of a text as a rule,
but nothing makes them so. Where such bytes are shown, every stretch that is no character is shown
as the replacement character.

Main definitions:

* `RawText` is a text as the system keeps it, and `RawText.ofString` the one that a text is kept as.
* `RawText.text?` is the text that bytes stand for, if they stand for one.
* `RawText.shown` is the text that bytes are shown as, whatever they are.
-/

namespace ScriptReview

/-- A text as the system keeps it: bytes, which need not stand for characters. -/
@[ext]
structure RawText where
  bytes : List UInt8
  deriving DecidableEq, Repr, Inhabited

namespace RawText

/-- A text without bytes. -/
def empty : RawText := ⟨[]⟩

/-- The bytes of a text in UTF-8. -/
def ofString (text : String) : RawText := ⟨text.toByteArray.data.toList⟩

instance : Coe String RawText := ⟨ofString⟩

/-- The text that bytes stand for, if they stand for one. -/
def text? (raw : RawText) : Option String :=
  String.fromUTF8? ⟨⟨raw.bytes⟩⟩

/-! ## Showing bytes -/

/-- The least and the greatest byte that may follow a byte in the sequence of a character. A byte
that is a sequence of its own, or begins none, is not followed by any. -/
def followers? (first : UInt8) : Option (UInt8 × UInt8) :=
  if first < 0xC2 ∨ 0xF4 < first then none
  else if first = 0xE0 then some (0xA0, 0xBF)
  else if first = 0xED then some (0x80, 0x9F)
  else if first = 0xF0 then some (0x90, 0xBF)
  else if first = 0xF4 then some (0x80, 0x8F)
  else some (0x80, 0xBF)

/-- The number of bytes after the first two in the sequence of a character. -/
def laterBytes (first : UInt8) : Nat :=
  if first < 0xE0 then 0 else if first < 0xF0 then 1 else 2

/-- The number of bytes that go on with the sequence that a byte begins, up to the first one that
does not fit. -/
def fitting (first : UInt8) : List UInt8 → Nat
  | [] => 0
  | second :: rest =>
    match followers? first with
    | none => 0
    | some (least, greatest) =>
      if second < least ∨ greatest < second then 0
      else 1 + ((rest.take (laterBytes first)).takeWhile fun b => 0x80 ≤ b && b ≤ 0xBF).length

/-- The character in place of bytes that are none. -/
def replacement : Char := '\uFFFD'

/-- The characters that bytes are shown as. The number says how many bytes are passed over, because
what they belong to has been shown already. -/
def shownFrom : Nat → List UInt8 → List Char
  | _, [] => []
  | passed + 1, _ :: rest => shownFrom passed rest
  | 0, first :: rest =>
    match ByteArray.utf8DecodeChar? ⟨⟨first :: rest⟩⟩ 0 with
    | some c => c :: shownFrom (c.utf8Size - 1) rest
    | none => replacement :: shownFrom (fitting first rest) rest

/-- The text that bytes are shown as. -/
def shown (raw : RawText) : String :=
  String.ofList (shownFrom 0 raw.bytes)

end RawText
end ScriptReview
