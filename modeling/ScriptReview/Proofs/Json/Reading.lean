import Mathlib.Data.List.DropRight
import Mathlib.Data.List.Forall2
import ScriptReview.Proofs.Json.Tokens
import ScriptReview.Text.Search

/-!
# Texts that read as documents

A text reads as a document wherever it stands, if what comes after it does not go on with a number.
Texts that read as the items of an array, with commas between them, make up a text that reads as the
array.

Main definitions:

* `Document.Blank` says that a text has nothing but blanks.
* `Document.Reads` says that a text reads as a document, `Document.ReadsMember` that it reads as a
  member of an object.

Main results:

* `Document.reads_intText` and `Document.exists_reads_quote` are about scalars.
* `Document.reads_array` and `Document.reads_object` put texts together.
* `Document.read?_of_reads` says that a text that reads as a document is read as a whole.
-/

namespace ScriptReview
namespace Json

open Text (joinWith joinWith_cons_cons)

namespace Document

/-! ## Blanks -/

/-- A text of nothing but blanks. -/
def Blank (cs : List Char) : Prop :=
  ∀ c ∈ cs, isBlank c = true

/-- Blanks are skipped. -/
theorem skip_append {b : List Char} (hb : Blank b) (cs : List Char) : skip (b ++ cs) = skip cs :=
  List.dropWhile_append_of_pos hb

/-- A character that is no blank is not skipped. -/
theorem skip_cons {c : Char} (hc : isBlank c = false) (cs : List Char) :
    skip (c :: cs) = c :: cs :=
  List.dropWhile_cons_of_neg (by simp [hc])

/-- After blanks that are skipped there are none. -/
@[simp]
theorem skip_skip (cs : List Char) : skip (skip cs) = skip cs :=
  List.dropWhile_idempotent isBlank cs

/-- A character that no number goes on with ends it. -/
theorem stops_cons {c : Char} (h : c.isDigit = false ∧ c ≠ '.' ∧ c ≠ 'e' ∧ c ≠ 'E')
    (cs : List Char) : Stops (c :: cs) := by
  intro c' hc'
  obtain rfl := Option.some.inj hc'
  exact h

/-- There are four blanks. -/
theorem eq_of_isBlank {c : Char} (hc : isBlank c = true) :
    c = ' ' ∨ c = '\t' ∨ c = '\n' ∨ c = '\r' := by
  simpa [isBlank, or_assoc] using hc

/-- Blanks end a number. -/
theorem stops_append {b : List Char} (hb : Blank b) {cs : List Char} (h : Stops cs) :
    Stops (b ++ cs) := by
  cases b with
  | nil => exact h
  | cons c b =>
      refine stops_cons ?_ _
      rcases eq_of_isBlank (hb c (by simp)) with rfl | rfl | rfl | rfl <;> decide

/-! ## Values -/

/-- A text that reads as a document wherever it stands before something that does not go on with a
number. Blanks at its end may be left over, and twice its length bounds the number of calls. -/
def Reads (cs : List Char) (d : Document) : Prop :=
  ∀ fuel rest, 2 * cs.length ≤ fuel → Stops rest →
    ∃ rest', valueFrom? fuel (cs ++ rest) = some (d, rest') ∧ skip rest' = skip rest

/-- Blanks before a value do not matter. -/
theorem valueFrom?_congr {cs cs' : List Char} (h : skip cs = skip cs') (fuel : Nat) :
    valueFrom? fuel cs = valueFrom? fuel cs' := by
  cases fuel with
  | zero => rfl
  | succ fuel => rw [valueFrom?, valueFrom?, h]

/-- Blanks before items do not matter. -/
theorem itemsFrom?_congr {cs cs' : List Char} (h : skip cs = skip cs') (fuel : Nat) :
    itemsFrom? fuel cs = itemsFrom? fuel cs' := by
  cases fuel with
  | zero => rfl
  | succ fuel => rw [itemsFrom?, itemsFrom?, valueFrom?_congr h]

/-- Blanks before members do not matter. -/
theorem membersFrom?_congr {cs cs' : List Char} (h : skip cs = skip cs') (fuel : Nat) :
    membersFrom? fuel cs = membersFrom? fuel cs' := by
  cases fuel with
  | zero => rfl
  | succ fuel => rw [membersFrom?, membersFrom?, h]

/-- Blanks before a text do not change what it reads as. -/
theorem Reads.blank_append {b cs : List Char} {d : Document} (hb : Blank b) (h : Reads cs d) :
    Reads (b ++ cs) d := by
  intro fuel rest hfuel hrest
  rw [List.length_append] at hfuel
  rw [List.append_assoc, valueFrom?_congr (skip_append hb _)]
  exact h fuel rest (by omega) hrest

/-- Blanks after a text do not change what it reads as. -/
theorem Reads.append_blank {b cs : List Char} {d : Document} (h : Reads cs d) (hb : Blank b) :
    Reads (cs ++ b) d := by
  intro fuel rest hfuel hrest
  rw [List.length_append] at hfuel
  rcases h fuel (b ++ rest) (by omega) (stops_append hb hrest) with ⟨rest', hread, hskip⟩
  refine ⟨rest', ?_, by rw [hskip, skip_append hb]⟩
  rw [List.append_assoc, hread]

/-- What begins with neither a blank nor a bracket nor a brace is a scalar. -/
theorem valueFrom?_cons {c : Char} (hblank : isBlank c = false) (hbracket : c ≠ '[')
    (hbrace : c ≠ '\x7b') (fuel : Nat) (cs : List Char) :
    valueFrom? (fuel + 1) (c :: cs) = scalar? (c :: cs) := by
  rw [valueFrom?, skip_cons hblank]
  split
  · rename_i heq
    exact absurd (List.cons.inj heq).1 hbracket
  · rename_i heq
    exact absurd (List.cons.inj heq).1 hbrace
  · rfl

/-- A text that is a scalar reads as that scalar. -/
theorem reads_scalar {c : Char} {cs : List Char} {d : Document} (hblank : isBlank c = false)
    (hbracket : c ≠ '[') (hbrace : c ≠ '\x7b')
    (h : ∀ rest, Stops rest → scalar? (c :: cs ++ rest) = some (d, rest)) : Reads (c :: cs) d := by
  intro fuel rest hfuel hrest
  cases fuel with
  | zero => simp at hfuel
  | succ fuel =>
      refine ⟨rest, ?_, rfl⟩
      rw [List.cons_append, valueFrom?_cons hblank hbracket hbrace, ← List.cons_append,
        h rest hrest]

/-- A digit is no blank. -/
theorem isBlank_of_isDigit {c : Char} (hc : c.isDigit = true) : isBlank c = false := by
  rw [Bool.eq_false_iff]
  intro h
  rcases eq_of_isBlank h with rfl | rfl | rfl | rfl <;> contradiction

/-- A digit begins a number. -/
theorem scalar?_cons_digit {c : Char} (hc : c.isDigit = true) (cs : List Char) :
    scalar? (c :: cs) = (numeral? false (c :: cs)).map fun (n, rest) => (.number n, rest) := by
  rw [scalar?]
  all_goals
    intro _ h
    obtain rfl := (List.cons.inj h).1
    contradiction

/-- The text of an integer reads as the number that it is written as. -/
theorem reads_intText (i : Int) : Reads (Value.intText i) (.number (.ofInt i)) := by
  unfold Value.intText
  by_cases hsign : i < 0
  · rw [if_pos hsign]
    refine reads_scalar rfl (by decide) (by decide) fun rest hrest => ?_
    rw [List.cons_append, scalar?, numeral?_toDigits true _ hrest, Numeral.ofInt,
      decide_eq_true hsign]
    rfl
  · rw [if_neg hsign]
    have hread := fun rest (hrest : Stops rest) => numeral?_toDigits false i.natAbs hrest
    have hdigit : ∀ c ∈ Nat.toDigits 10 i.natAbs, c.isDigit = true := fun c hc =>
      Nat.isDigit_of_mem_toDigits (by omega) (by omega) hc
    have hnumber : Numeral.ofInt i = ⟨false, Nat.toDigits 10 i.natAbs, [], none⟩ := by
      rw [Numeral.ofInt, decide_eq_false hsign]
    rw [hnumber]
    cases hdigits : Nat.toDigits 10 i.natAbs with
    | nil => exact absurd hdigits Nat.toDigits_ne_nil
    | cons c cs =>
        -- The first digit keeps the reader from taking the text for anything but a number.
        rw [hdigits] at hread hdigit
        have hc : c.isDigit = true := hdigit c (by simp)
        refine reads_scalar (isBlank_of_isDigit hc) (by rintro rfl; contradiction)
          (by rintro rfl; contradiction) fun rest hrest => ?_
        rw [List.cons_append, scalar?_cons_digit hc, ← List.cons_append, hread rest hrest]
        rfl

/-- A string in quotes reads as symbols that stand for the string. -/
theorem exists_reads_quote (s : String) :
    ∃ ss, Reads (Value.quote s) (.string ss) ∧ textOf? ss = some s := by
  rcases exists_symbols?_eq s.toList with ⟨ss, hread, hchars⟩
  have hquote : Value.quote s = '"' :: (s.toList.flatMap Value.escapeChar ++ ['"']) := rfl
  rw [hquote]
  refine ⟨ss, ?_, by rw [textOf?, hchars, Option.map_some, String.ofList_toList]⟩
  refine reads_scalar rfl (by decide) (by decide) fun rest _ => ?_
  rw [List.cons_append, List.append_assoc, List.singleton_append, scalar?, hread]
  rfl

/-- A value does not begin with a closing bracket. -/
theorem skip_ne_of_valueFrom? {fuel : Nat} {cs : List Char} {p : Document × List Char}
    (h : valueFrom? fuel cs = some p) (rest : List Char) : skip cs ≠ ']' :: rest := by
  intro hskip
  cases fuel with
  | zero => contradiction
  | succ fuel =>
      rw [valueFrom?, hskip] at h
      contradiction

/-! ## Arrays -/

/-- Brackets with nothing but blanks between them are the empty array. -/
theorem reads_emptyArray {b : List Char} (hb : Blank b) :
    Reads ('[' :: (b ++ [']'])) (.array []) := by
  intro fuel rest hfuel hrest
  cases fuel with
  | zero => simp at hfuel
  | succ fuel =>
      refine ⟨rest, ?_, rfl⟩
      rw [List.cons_append, List.append_assoc, valueFrom?, skip_cons rfl]
      simp only [skip_append hb]
      rfl

/-- A text that reads as a document is an item, and what comes after it says whether others
follow. -/
theorem itemsFrom?_append {cs rest : List Char} {d : Document} (h : Reads cs d) {fuel : Nat}
    (hfuel : 2 * cs.length ≤ fuel) (hstops : Stops rest) :
    itemsFrom? (fuel + 1) (cs ++ rest) =
      match skip rest with
      | ',' :: rest => (itemsFrom? fuel rest).map fun (ds, rest) => (d :: ds, rest)
      | ']' :: rest => some ([d], rest)
      | _ => none := by
  rcases h fuel rest hfuel hstops with ⟨left, hvalue, hleft⟩
  rw [itemsFrom?, hvalue]
  exact hleft ▸ rfl

/-- Texts that read as documents, with commas between them, read as the items up to the bracket that
closes them. -/
theorem itemsFrom?_joinWith {texts : List (List Char)} {ds : List Document}
    (h : List.Forall₂ Reads texts ds) (hne : texts ≠ []) {b : List Char} (hb : Blank b)
    (rest : List Char) (fuel : Nat) (hfuel : 2 * (joinWith ',' texts).length + 1 ≤ fuel) :
    itemsFrom? fuel (joinWith ',' texts ++ (b ++ ']' :: rest)) = some (ds, rest) := by
  -- Each item takes one call more than its value does, which the comma after it pays for.
  induction h generalizing fuel with
  | nil => exact absurd rfl hne
  | @cons text d texts ds hread htexts ih =>
      cases fuel with
      | zero => omega
      | succ fuel =>
      cases htexts with
      | nil =>
          have hstops : Stops (b ++ ']' :: rest) := stops_append hb (stops_cons (by decide) rest)
          rw [joinWith, itemsFrom?_append hread (by simpa [joinWith] using hfuel) hstops,
            skip_append hb, skip_cons rfl]
          rfl
      | @cons second d' texts ds hsecond htexts =>
          rw [joinWith_cons_cons, List.length_append, List.length_cons] at hfuel
          have hitems := ih (by simp) fuel (by omega)
          rw [joinWith_cons_cons, List.append_assoc, List.cons_append,
            itemsFrom?_append hread (by omega) (stops_cons (by decide) _), skip_cons rfl]
          simp only [hitems, Option.map_some]

/-- Items do not begin with a closing bracket. -/
theorem skip_ne_of_itemsFrom? {fuel : Nat} {cs : List Char} {p : List Document × List Char}
    (h : itemsFrom? fuel cs = some p) (rest : List Char) : skip cs ≠ ']' :: rest := by
  cases fuel with
  | zero => contradiction
  | succ fuel =>
      rw [itemsFrom?] at h
      cases hvalue : valueFrom? fuel cs with
      | none =>
          rw [hvalue] at h
          contradiction
      | some p => exact skip_ne_of_valueFrom? hvalue rest

/-- Texts that read as documents, with commas between them and in brackets, read as the array. -/
theorem reads_array {texts : List (List Char)} {ds : List Document}
    (h : List.Forall₂ Reads texts ds) {b : List Char} (hb : Blank b) :
    Reads ('[' :: (joinWith ',' texts ++ (b ++ [']']))) (.array ds) := by
  by_cases hne : texts = []
  · subst hne
    cases h
    exact reads_emptyArray hb
  intro fuel rest hfuel hrest
  cases fuel with
  | zero => simp at hfuel
  | succ fuel =>
  simp only [List.length_cons, List.length_append] at hfuel
  have hitems := itemsFrom?_joinWith h hne hb rest fuel (by omega)
  have htext : '[' :: (joinWith ',' texts ++ (b ++ [']'])) ++ rest =
      '[' :: (joinWith ',' texts ++ (b ++ ']' :: rest)) := by simp
  refine ⟨rest, ?_, rfl⟩
  rw [htext, valueFrom?, skip_cons rfl]
  simp only
  -- The reader looks for an empty array before it reads items.
  split
  · rename_i heq
    exact absurd heq (skip_ne_of_itemsFrom? hitems _)
  · rw [itemsFrom?_congr (skip_skip _), hitems]
    rfl

/-! ## Objects -/

/-- A text that reads as a member: blanks, a quote, a name with the quote that closes it, a colon,
and a text that reads as a document. -/
inductive ReadsMember : List Char → List Symbol × Document → Prop
  | intro {b name text : List Char} {ss : List Symbol} {d : Document} (hb : Blank b)
      (hname : ∀ rest, symbols? (name ++ rest) = some (ss, rest)) (htext : Reads text d) :
      ReadsMember (b ++ '"' :: (name ++ ':' :: text)) (ss, d)

/-- Braces with nothing but blanks between them are the empty object. -/
theorem reads_emptyObject {b : List Char} (hb : Blank b) :
    Reads ('\x7b' :: (b ++ ['\x7d'])) (.object []) := by
  intro fuel rest hfuel hrest
  cases fuel with
  | zero => simp at hfuel
  | succ fuel =>
      refine ⟨rest, ?_, rfl⟩
      rw [List.cons_append, List.append_assoc, valueFrom?, skip_cons rfl]
      simp only [skip_append hb]
      rfl

/-- A text that reads as a member is one, and what comes after it says whether others follow. -/
theorem membersFrom?_append {cs rest : List Char} {m : List Symbol × Document}
    (h : ReadsMember cs m) {fuel : Nat} (hfuel : 2 * cs.length ≤ fuel) (hstops : Stops rest) :
    membersFrom? (fuel + 1) (cs ++ rest) =
      match skip rest with
      | ',' :: rest => (membersFrom? fuel rest).map fun (ms, rest) => (m :: ms, rest)
      | '\x7d' :: rest => some ([m], rest)
      | _ => none := by
  cases h with
  | @intro b name text ss d hb hname htext =>
      simp only [List.length_append, List.length_cons] at hfuel
      rcases htext fuel rest (by omega) hstops with ⟨left, hvalue, hleft⟩
      rw [List.append_assoc, membersFrom?, skip_append hb]
      simp only [List.cons_append, List.append_assoc, hname, hvalue,
        skip_cons (c := '"') rfl, skip_cons (c := ':') rfl]
      exact hleft ▸ rfl

/-- Texts that read as members, with commas between them, read as the members up to the brace that
closes them. -/
theorem membersFrom?_joinWith {texts : List (List Char)} {ms : List (List Symbol × Document)}
    (h : List.Forall₂ ReadsMember texts ms) (hne : texts ≠ []) {b : List Char} (hb : Blank b)
    (rest : List Char) (fuel : Nat) (hfuel : 2 * (joinWith ',' texts).length + 1 ≤ fuel) :
    membersFrom? fuel (joinWith ',' texts ++ (b ++ '\x7d' :: rest)) = some (ms, rest) := by
  induction h generalizing fuel with
  | nil => exact absurd rfl hne
  | @cons text m texts ms hread htexts ih =>
      cases fuel with
      | zero => omega
      | succ fuel =>
      cases htexts with
      | nil =>
          have hstops : Stops (b ++ '\x7d' :: rest) :=
            stops_append hb (stops_cons (by decide) rest)
          rw [joinWith, membersFrom?_append hread (by simpa [joinWith] using hfuel) hstops,
            skip_append hb, skip_cons rfl]
          rfl
      | @cons second m' texts ms hsecond htexts =>
          rw [joinWith_cons_cons, List.length_append, List.length_cons] at hfuel
          have hmembers := ih (by simp) fuel (by omega)
          rw [joinWith_cons_cons, List.append_assoc, List.cons_append,
            membersFrom?_append hread (by omega) (stops_cons (by decide) _), skip_cons rfl]
          simp only [hmembers, Option.map_some]

/-- Members do not begin with a closing brace. -/
theorem skip_ne_of_membersFrom? {fuel : Nat} {cs : List Char}
    {p : List (List Symbol × Document) × List Char} (h : membersFrom? fuel cs = some p)
    (rest : List Char) : skip cs ≠ '\x7d' :: rest := by
  intro hskip
  cases fuel with
  | zero => contradiction
  | succ fuel =>
      rw [membersFrom?, hskip] at h
      contradiction

/-- Texts that read as members, with commas between them and in braces, read as the object. -/
theorem reads_object {texts : List (List Char)} {ms : List (List Symbol × Document)}
    (h : List.Forall₂ ReadsMember texts ms) {b : List Char} (hb : Blank b) :
    Reads ('\x7b' :: (joinWith ',' texts ++ (b ++ ['\x7d']))) (.object ms) := by
  by_cases hne : texts = []
  · subst hne
    cases h
    exact reads_emptyObject hb
  intro fuel rest hfuel hrest
  cases fuel with
  | zero => simp at hfuel
  | succ fuel =>
  simp only [List.length_cons, List.length_append] at hfuel
  have hmembers := membersFrom?_joinWith h hne hb rest fuel (by omega)
  have htext : '\x7b' :: (joinWith ',' texts ++ (b ++ ['\x7d'])) ++ rest =
      '\x7b' :: (joinWith ',' texts ++ (b ++ '\x7d' :: rest)) := by simp
  refine ⟨rest, ?_, rfl⟩
  rw [htext, valueFrom?, skip_cons rfl]
  simp only
  split
  · rename_i heq
    exact absurd heq (skip_ne_of_membersFrom? hmembers _)
  · rw [membersFrom?_congr (skip_skip _), hmembers]
    rfl

/-- A text that reads as a document is read as the document. -/
theorem read?_of_reads {cs : List Char} {d : Document} (h : Reads cs d) : read? cs = some d := by
  rcases h (2 * cs.length + 2) [] (by omega) (by simp [Stops]) with ⟨rest, hvalue, hskip⟩
  rw [List.append_nil] at hvalue
  rw [read?, hvalue]
  simp only
  rw [hskip]
  rfl

end Document

end Json
end ScriptReview
