import ScriptReview.Console.Painted
import ScriptReview.Proofs.Console.Summaries

/-!
# Sequences in rendered text

A console takes a text apart into characters that it shows and sequences that it obeys.  A sequence
is an escape character, a bracket, codes, and the letter that ends them.  When the characters alone
are kept, painted text without escape characters of its own is the same with and without colors.

Main definitions:

* `Console.tokens` takes a text apart, `Console.strip` keeps the characters, and
  `Console.sequences` the codes of the sequences.
* `Console.Alternates` says that styles are switched on and off in turn.
* `Painted.EscapeFree` says that painted text has no escape characters of its own.
* `Painted.OnlyColored` says that colors add nothing but sequences to a painted text.

Main results:

* `Painted.tokens_render` says how a console takes painted text with colors apart.
* `Painted.EscapeFree.onlyColored` says that colors add nothing but sequences.
-/

namespace ScriptReview
namespace Console

/-! ## Taking a text apart -/

/-- The characters of the codes in a sequence. -/
def isCode (c : Char) : Bool :=
  c.isDigit || c == ';'

/-- The codes of the sequence that a text begins with, and the text after it. -/
def sequence? : List Char → Option (List Char × List Char)
  | '\x1b' :: '[' :: cs =>
    match cs.dropWhile isCode with
    | 'm' :: rest => some (cs.takeWhile isCode, rest)
    | _ => none
  | _ => none

/-- A text after a sequence is shorter than the text with the sequence. -/
theorem length_lt_of_sequence? {cs codes rest : List Char}
    (h : sequence? cs = some (codes, rest)) : rest.length < cs.length := by
  unfold sequence? at h
  split at h
  · rename_i cs
    split at h
    · rename_i rest' hdrop
      obtain ⟨-, rfl⟩ := Prod.mk.inj (Option.some.inj h)
      have hsuffix := (List.dropWhile_suffix (l := cs) isCode).length_le
      rw [hdrop, List.length_cons] at hsuffix
      simp only [List.length_cons]
      omega
    · contradiction
  · contradiction

/-- A part of a text: a character that is shown, or a sequence with its codes. -/
inductive Token where
  | char (c : Char)
  | sequence (codes : List Char)
  deriving DecidableEq, Repr

/-- The characters and the sequences of a text in order. -/
def tokens : List Char → List Token
  | [] => []
  | c :: cs =>
    match _h : sequence? (c :: cs) with
    | some (codes, rest) => .sequence codes :: tokens rest
    | none => .char c :: tokens cs
termination_by cs => cs.length
decreasing_by
  · exact length_lt_of_sequence? _h
  · simp

/-- The character that is shown. -/
def Token.char? : Token → Option Char
  | .char c => some c
  | .sequence _ => none

/-- The codes of a sequence. -/
def Token.codes? : Token → Option (List Char)
  | .char _ => none
  | .sequence codes => some codes

/-- A text without its sequences. -/
def strip (cs : List Char) : List Char :=
  (tokens cs).filterMap Token.char?

/-- The codes of the sequences of a text in order. -/
def sequences (cs : List Char) : List (List Char) :=
  (tokens cs).filterMap Token.codes?

/-- The code that switches all styles off. -/
def resetCodes : List Char := ['0']

/-- Styles are switched on and off in turn: each sequence with other codes is followed by one that
switches all styles off, and there are no others. -/
inductive Alternates : List (List Char) → Prop
  | nil : Alternates []
  | cons {codes : List Char} {rest : List (List Char)} (h : codes ≠ resetCodes)
      (hrest : Alternates rest) : Alternates (codes :: resetCodes :: rest)

/-- Sequences that alternate may follow each other. -/
theorem Alternates.append {ss ts : List (List Char)} (hs : Alternates ss) (ht : Alternates ts) :
    Alternates (ss ++ ts) := by
  induction hs with
  | nil => exact ht
  | cons h _ ih => exact .cons h ih

/-- Of sequences that alternate, half switch styles off. -/
theorem Alternates.countP_eq {ss : List (List Char)} (h : Alternates ss) :
    ss.countP (· ≠ resetCodes) = ss.countP (· = resetCodes) := by
  induction h with
  | nil => rfl
  | cons h _ ih => simpa [h] using ih

/-! ## Tokens -/

/-- What begins with no escape character begins with no sequence. -/
theorem sequence?_cons_of_ne {c : Char} (h : c ≠ '\x1b') (cs : List Char) :
    sequence? (c :: cs) = none := by
  unfold sequence?
  split
  · rename_i heq
    exact absurd (List.cons.inj heq).1 h
  · rfl

/-- Codes between a bracket and the letter that ends them are read as they are. -/
theorem sequence?_codes {codes : List Char} (h : ∀ c ∈ codes, isCode c = true) (rest : List Char) :
    sequence? ('\x1b' :: '[' :: (codes ++ 'm' :: rest)) = some (codes, rest) := by
  have hend : isCode 'm' = false := rfl
  simp [sequence?, List.takeWhile_append_of_pos h, List.dropWhile_append_of_pos h, hend]

@[simp]
theorem tokens_nil : tokens [] = [] := by
  rw [tokens]

/-- Characters other than the escape character are shown. -/
theorem tokens_append {cs : List Char} (h : '\x1b' ∉ cs) (rest : List Char) :
    tokens (cs ++ rest) = cs.map .char ++ tokens rest := by
  induction cs with
  | nil => simp
  | cons c cs ih =>
      have hne : c ≠ '\x1b' := fun hc => h (by simp [hc])
      have htail : '\x1b' ∉ cs := fun hc => h (by simp [hc])
      rw [List.cons_append, tokens]
      split
      · rename_i heq
        rw [sequence?_cons_of_ne hne] at heq
        contradiction
      · rw [ih htail]
        rfl

/-- A sequence is taken off as a whole. -/
theorem tokens_codes {codes : List Char} (h : ∀ c ∈ codes, isCode c = true) (rest : List Char) :
    tokens ('\x1b' :: '[' :: (codes ++ 'm' :: rest)) = .sequence codes :: tokens rest := by
  rw [tokens]
  split
  · rename_i heq
    rw [sequence?_codes h] at heq
    obtain ⟨rfl, rfl⟩ := Prod.mk.inj (Option.some.inj heq)
    rfl
  · rename_i heq
    rw [sequence?_codes h] at heq
    contradiction

end Console

/-! ## Styles -/

namespace Style

open Console

/-- The codes of a style are codes. -/
theorem isCode_of_mem_codes (s : Style) : ∀ c ∈ s.codes, isCode c = true := by
  rw [← List.all_eq_true]
  cases s with
  | weight w => cases w <;> decide
  | color k => cases k <;> decide
  | both w k => cases w <;> cases k <;> decide

/-- No style has the code that switches all styles off. -/
theorem codes_ne_resetCodes (s : Style) : s.codes ≠ resetCodes := by
  cases s with
  | weight w => cases w <;> decide
  | color k => cases k <;> decide
  | both w k => cases w <;> cases k <;> decide

/-- The sequence that switches a style on has the codes of the style. -/
theorem tokens_opening_append (s : Style) (rest : List Char) :
    tokens (s.opening ++ rest) = .sequence s.codes :: tokens rest := by
  simpa [opening] using tokens_codes s.isCode_of_mem_codes rest

/-- The sequence that switches all styles off has the code for it. -/
theorem tokens_closing_append (rest : List Char) :
    tokens (closing ++ rest) = .sequence resetCodes :: tokens rest := by
  have hreset : ∀ c ∈ resetCodes, isCode c = true := List.all_eq_true.mp (by decide)
  exact tokens_codes hreset rest

end Style

/-! ## Spans -/

namespace Span

open Console

/-- The characters of a span that are shown. -/
def shown (s : Span) : List Char :=
  padTo s.width s.text

/-- What a console takes a span with colors apart into. -/
def tokens (s : Span) : List Token :=
  match s.style with
  | none => s.shown.map .char
  | some style => .sequence style.codes :: (s.shown.map .char ++ [.sequence resetCodes])

/-- The blanks that fill up a text are no escape characters. -/
theorem not_mem_shown {s : Span} (h : '\x1b' ∉ s.text) : '\x1b' ∉ s.shown := by
  simp [shown, padTo, h]

/-- A span without colors is shown as it is. -/
theorem render_false (s : Span) : s.render false = s.shown := by
  unfold render
  cases s.style with
  | none => rfl
  | some style => rfl

/-- A console takes a span with colors apart into its characters and the sequences around them. -/
theorem tokens_render_append {s : Span} (h : '\x1b' ∉ s.text) (rest : List Char) :
    Console.tokens (s.render true ++ rest) = s.tokens ++ Console.tokens rest := by
  unfold render tokens
  cases s.style with
  | none => exact tokens_append (not_mem_shown h) rest
  | some style =>
      simp only [if_true, style.reopen_eq_self h, List.append_assoc,
        style.tokens_opening_append]
      rw [← shown, tokens_append (not_mem_shown h), Style.tokens_closing_append]
      simp

/-- The characters of a span are those that are shown without colors. -/
theorem filterMap_char?_tokens (s : Span) : s.tokens.filterMap Token.char? = s.shown := by
  have hchars : (s.shown.map Token.char).filterMap Token.char? = s.shown := by
    rw [List.filterMap_map]
    exact List.filterMap_some
  unfold tokens
  cases s.style with
  | none => exact hchars
  | some style =>
      have hreset : [Token.sequence resetCodes].filterMap Token.char? = [] := rfl
      rw [List.filterMap_cons_none rfl, List.filterMap_append, hchars, hreset, List.append_nil]

/-- The sequences of a span alternate: there are none or two. -/
theorem alternates_tokens (s : Span) : Alternates (s.tokens.filterMap Token.codes?) := by
  have hcodes : (s.shown.map Token.char).filterMap Token.codes? = [] := by
    simp [List.filterMap_map, Function.comp_def, Token.codes?]
  unfold tokens
  cases s.style with
  | none =>
      rw [hcodes]
      exact .nil
  | some style =>
      simp only [List.filterMap_cons, List.filterMap_append, hcodes]
      exact .cons style.codes_ne_resetCodes .nil

end Span

/-! ## Painted text -/

namespace Painted

open Console

/-- Painted text without escape characters of its own. -/
def EscapeFree (p : Painted) : Prop :=
  ∀ s ∈ p, '\x1b' ∉ s.text

/-- Colors add nothing but sequences to a painted text, and these switch styles on and off in
turn. -/
structure OnlyColored (p : Painted) : Prop where
  strip_eq : strip (p.render true) = p.render false
  balanced : (sequences (p.render true)).countP (· ≠ resetCodes) =
    (sequences (p.render true)).countP (· = resetCodes)
  alternates : Alternates (sequences (p.render true))

/-- A console takes painted text apart span by span. -/
theorem tokens_render {p : Painted} (h : p.EscapeFree) :
    tokens (p.render true) = p.flatMap Span.tokens := by
  induction p with
  | nil => simp
  | cons s p ih =>
      have hs : '\x1b' ∉ s.text := h s (by simp)
      have hp : EscapeFree p := fun t ht => h t (by simp [ht])
      rw [render, List.flatMap_cons, Span.tokens_render_append hs, List.flatMap_cons]
      exact congrArg _ (ih hp)

/-- Painted text without escape characters of its own is the same without the sequences that colors
add. -/
theorem strip_render {p : Painted} (h : p.EscapeFree) :
    strip (p.render true) = p.render false := by
  have hspan : Span.render false = Span.shown := funext Span.render_false
  rw [strip, tokens_render h, List.filterMap_flatMap, render, hspan]
  simp only [Span.filterMap_char?_tokens]

/-- The sequences of painted text alternate. -/
theorem alternates_render {p : Painted} (h : p.EscapeFree) :
    Alternates (sequences (p.render true)) := by
  rw [sequences, tokens_render h, List.filterMap_flatMap]
  clear h
  induction p with
  | nil => exact .nil
  | cons s p ih => exact s.alternates_tokens.append ih

/-- Colors add nothing but sequences to painted text without escape characters of its own. -/
theorem EscapeFree.onlyColored {p : Painted} (h : p.EscapeFree) : p.OnlyColored :=
  ⟨strip_render h, (alternates_render h).countP_eq, alternates_render h⟩

/-! ## Painted text that is put together -/

@[simp]
theorem escapeFree_nil : EscapeFree [] := by
  simp [EscapeFree]

@[simp]
theorem escapeFree_cons (s : Span) (p : Painted) :
    EscapeFree (s :: p) ↔ '\x1b' ∉ s.text ∧ EscapeFree p := by
  simp [EscapeFree]

@[simp]
theorem escapeFree_append (p q : Painted) :
    EscapeFree (p ++ q) ↔ EscapeFree p ∧ EscapeFree q := by
  simp [EscapeFree, or_imp, forall_and]

@[simp]
theorem escapeFree_flatMap {α : Type} (as : List α) (f : α → Painted) :
    EscapeFree (as.flatMap f) ↔ ∀ a ∈ as, EscapeFree (f a) := by
  induction as with
  | nil => simp
  | cons a as ih => simp [ih]

@[simp]
theorem escapeFree_line (p : Painted) : EscapeFree (line p) ↔ EscapeFree p := by
  have hend : '\x1b' ∉ (Span.plain "\n").text := by decide
  simp [line, hend]

end Painted
end ScriptReview
