import ScriptReview.Proofs.Text.Utf8
import ScriptReview.Text.Raw

/-!
# Raw texts that are texts

A text is kept as the sequences of its characters and found again in them.  Bytes that are no text
are shown with replacement characters, so that bytes are known from how they are shown where there
is none of these.

Main results:

* `RawText.text?_eq_some_iff` and `RawText.text?_eq_none_iff` say which bytes are a text.
* `RawText.shown_ofString` says that a text is shown as it is.
* `RawText.shown_eq_iff` says which bytes are shown as a text without replacement characters.
-/

namespace ScriptReview
namespace RawText

/-! ## Texts as bytes -/

/-- A text is kept as the sequences of its characters. -/
theorem bytes_ofString (text : String) :
    (ofString text).bytes = text.toList.flatMap String.utf8EncodeChar :=
  Utf8.toList_toByteArray text

/-- The bytes of a text are those of its parts. -/
theorem bytes_ofString_append (text text' : String) :
    (ofString (text ++ text')).bytes = (ofString text).bytes ++ (ofString text').bytes := by
  simp only [bytes_ofString, String.toList_append, List.flatMap_append]

/-- Bytes stand for the text that is kept as them. -/
theorem text?_eq_some_iff (raw : RawText) (text : String) :
    raw.text? = some text ↔ raw = ofString text := by
  rw [text?, Utf8.fromUTF8?_eq_some_iff_toByteArray, ByteArray.ext_iff, ← Array.toList_inj, eq_comm,
    RawText.ext_iff]
  rfl

/-- A text is found again in its bytes. -/
@[simp]
theorem text?_ofString (text : String) : (ofString text).text? = some text :=
  (text?_eq_some_iff _ _).mpr rfl

/-- Bytes are no text exactly when they are not made of sequences. -/
theorem text?_eq_none_iff (raw : RawText) : raw.text? = none ↔ ¬ Utf8.WellFormed raw.bytes :=
  Utf8.fromUTF8?_eq_none_iff _

/-- Bytes are made of sequences exactly when a text is kept as them. -/
theorem wellFormed_iff (raw : RawText) :
    Utf8.WellFormed raw.bytes ↔ ∃ text, raw = ofString text := by
  simp only [← text?_eq_some_iff]
  rw [← Option.ne_none_iff_exists', Ne, text?_eq_none_iff, Classical.not_not]

/-- The bytes of a text are made of sequences. -/
theorem wellFormed_ofString (text : String) : Utf8.WellFormed (ofString text).bytes :=
  (wellFormed_iff _).mpr ⟨text, rfl⟩

/-- Different texts are kept as different bytes. -/
@[simp]
theorem ofString_inj {text text' : String} : ofString text = ofString text' ↔ text = text' := by
  constructor
  · intro h
    have htext := text?_ofString text
    rw [h, text?_ofString] at htext
    exact (Option.some.inj htext).symm
  · exact congrArg ofString

/-! ## Bytes that are shown -/

/-- Bytes that are passed over are not shown. -/
theorem shownFrom_eq_drop (passed : Nat) (bytes : List UInt8) :
    shownFrom passed bytes = shownFrom 0 (bytes.drop passed) := by
  induction bytes generalizing passed with
  | nil => cases passed <;> rfl
  | cons first rest ih =>
    cases passed with
    | zero => rfl
    | succ passed => exact ih passed

/-- The sequence of a character begins with a byte. -/
theorem exists_utf8EncodeChar_eq_cons (c : Char) : ∃ first rest,
    String.utf8EncodeChar c = first :: rest ∧ rest.length = c.utf8Size - 1 := by
  have hlength : (String.utf8EncodeChar c).length = c.utf8Size := String.length_utf8EncodeChar c
  cases hbytes : String.utf8EncodeChar c with
  | nil =>
    have hpos := c.utf8Size_pos
    simp [hbytes] at hlength
    omega
  | cons first rest =>
    refine ⟨first, rest, rfl, ?_⟩
    simp [hbytes] at hlength
    omega

/-- Bytes that begin with the sequence of a character are one array after another. -/
theorem mk_encode_append (c : Char) (bytes : List UInt8) :
    (⟨⟨String.utf8EncodeChar c ++ bytes⟩⟩ : ByteArray) =
      (String.utf8EncodeChar c).toByteArray ++ ⟨⟨bytes⟩⟩ := by
  apply ByteArray.ext
  apply Array.toList_inj.mp
  simp

/-- The sequence of a character is shown as the character. -/
theorem shownFrom_encode_append (c : Char) (bytes : List UInt8) :
    shownFrom 0 (String.utf8EncodeChar c ++ bytes) = c :: shownFrom 0 bytes := by
  obtain ⟨first, rest, hbytes, hlength⟩ := exists_utf8EncodeChar_eq_cons c
  have hdecode : ByteArray.utf8DecodeChar? ⟨⟨first :: (rest ++ bytes)⟩⟩ 0 = some c := by
    rw [← List.cons_append, ← hbytes, mk_encode_append]
    exact ByteArray.utf8DecodeChar?_utf8EncodeChar_append
  rw [hbytes, List.cons_append, shownFrom, hdecode]
  dsimp only
  rw [shownFrom_eq_drop, ← hlength, List.drop_left]

/-- The sequences of characters are shown as the characters. -/
theorem shownFrom_flatMap (cs : List Char) :
    shownFrom 0 (cs.flatMap String.utf8EncodeChar) = cs := by
  induction cs with
  | nil => rfl
  | cons c cs ih => rw [List.flatMap_cons, shownFrom_encode_append, ih]

/-- A text is shown as it is. -/
@[simp]
theorem shown_ofString (text : String) : (ofString text).shown = text := by
  rw [shown, bytes_ofString, shownFrom_flatMap, String.ofList_toList]

/-- Bytes that are shown without replacement are the sequences of the characters that are shown. -/
theorem eq_flatMap_of_shownFrom (bytes : List UInt8) (h : replacement ∉ shownFrom 0 bytes) :
    bytes = (shownFrom 0 bytes).flatMap String.utf8EncodeChar := by
  -- The length bounds the bytes, because a character is passed over as a whole.
  induction hn : bytes.length using Nat.strongRecOn generalizing bytes with
  | ind n ih =>
    cases bytes with
    | nil => rfl
    | cons first rest =>
      cases hdecode : ByteArray.utf8DecodeChar? ⟨⟨first :: rest⟩⟩ 0 with
      | none => simp [shownFrom, hdecode] at h
      | some c =>
        obtain ⟨later, hlater⟩ := ByteArray.exists_of_utf8DecodeChar?_eq_some hdecode
        have hbytes : first :: rest = String.utf8EncodeChar c ++ later.data.toList := by
          simpa using congrArg (fun b : ByteArray => b.data.toList) hlater
        rw [hbytes, shownFrom_encode_append] at h ⊢
        have hshorter : later.data.toList.length < n := by
          have hlength := congrArg List.length hbytes
          have hpos := c.utf8Size_pos
          simp at hlength hn
          simp
          omega
        rw [List.flatMap_cons, ← ih _ hshorter _ (fun hmem => h (List.mem_cons_of_mem c hmem)) rfl]

/-- Bytes are shown as a text without replacement characters exactly if they are that text. -/
theorem shown_eq_iff (raw : RawText) {text : String} (h : replacement ∉ text.toList) :
    raw.shown = text ↔ raw = ofString text := by
  constructor
  · rintro rfl
    have hbytes := eq_flatMap_of_shownFrom raw.bytes (by simpa [shown] using h)
    apply RawText.ext
    rwa [bytes_ofString, shown, String.toList_ofList]
  · rintro rfl
    exact shown_ofString text

end RawText
end ScriptReview
