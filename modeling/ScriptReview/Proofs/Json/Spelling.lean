import ScriptReview.Console.Painted
import ScriptReview.Proofs.Json.Reading
import ScriptReview.Proofs.Json.Strict

/-!
# Texts that spell values

A text spells a value if the strict reader finds the value in it, wherever the text stands.

Main definitions:

* `Value.Spelled` says that a text spells a value, `Value.SpelledMember` that it spells a member.
* `Value.strictOf?` is the value that the strict reader finds in a text.

Main results:

* `Value.spelled_array` and `Value.spelled_object` put texts together.
* `Value.spelled_prettyAt` says that a value in several lines spells the value, and
  `Value.spelled_printed` that this holds of what is printed.
* `Value.strictOf?_eq_of_spelled` says that a text that spells a value is read as the value.
-/

namespace ScriptReview
namespace Json

open Text (joinWith joinWith_cons_cons)

namespace Value

open Document (Reads ReadsMember Blank)

/-! ## Values that are spelled -/

/-- A text that spells a value. -/
def Spelled (cs : List Char) (v : Value) : Prop :=
  ∃ d, Reads cs d ∧ d.strict? = some v

/-- A text that spells a member of an object. -/
def SpelledMember (cs : List Char) (member : String × Value) : Prop :=
  ∃ m, ReadsMember cs m ∧ Document.MemberOf m member

/-- The value that the strict reader finds in a text. -/
def strictOf? (text : List Char) : Option Value :=
  (Document.read? text).bind Document.strict?

/-- A text that spells a value is read as the value. -/
theorem strictOf?_eq_of_spelled {cs : List Char} {v : Value} (h : Spelled cs v) :
    strictOf? cs = some v := by
  rcases h with ⟨d, hread, hv⟩
  rw [strictOf?, Document.read?_of_reads hread]
  exact hv

/-- Blanks before a text do not change what it spells. -/
theorem Spelled.blank_append {b cs : List Char} {v : Value} (hb : Blank b) (h : Spelled cs v) :
    Spelled (b ++ cs) v := by
  rcases h with ⟨d, hread, hv⟩
  exact ⟨d, hread.blank_append hb, hv⟩

/-- Blanks after a text do not change what it spells. -/
theorem Spelled.append_blank {b cs : List Char} {v : Value} (h : Spelled cs v) (hb : Blank b) :
    Spelled (cs ++ b) v := by
  rcases h with ⟨d, hread, hv⟩
  exact ⟨d, hread.append_blank hb, hv⟩

/-- The text of an integer of 64 bits, with or without sign, spells the integer. -/
theorem spelled_intText {i : Int} (hmin : -powerOfTwo 63 ≤ i) (hmax : i < powerOfTwo 64) :
    Spelled (intText i) (.int i) :=
  ⟨_, Document.reads_intText i, Numeral.value?_ofInt hmin hmax⟩

/-- A string in quotes spells the string. -/
theorem spelled_quote (s : String) : Spelled (quote s) (.string s) := by
  rcases Document.exists_reads_quote s with ⟨ss, hread, hss⟩
  exact ⟨_, hread, (Document.strict?_eq_string_iff _ _).mpr ⟨ss, rfl, hss⟩⟩

/-- Texts that spell values, with commas between them and in brackets, spell the array. -/
theorem spelled_array {texts : List (List Char)} {vs : List Value}
    (h : List.Forall₂ Spelled texts vs) {b : List Char} (hb : Blank b) :
    Spelled ('[' :: (joinWith ',' texts ++ (b ++ [']']))) (.array vs) := by
  rcases exists_forall₂_of_forall₂_exists h with ⟨ds, hread, hvs⟩
  exact ⟨_, Document.reads_array hread hb, (Document.strict?_eq_array_iff _ _).mpr ⟨ds, rfl, hvs⟩⟩

/-- Blanks, a name in quotes, a colon and a text that spells a value spell a member. -/
theorem spelledMember_intro {b cs : List Char} (hb : Blank b) (name : String) {v : Value}
    (h : Spelled cs v) : SpelledMember (b ++ (quote name ++ ':' :: cs)) (name, v) := by
  rcases h with ⟨d, hread, hv⟩
  rcases Document.exists_symbols?_eq name.toList with ⟨ss, hname, hchars⟩
  have htext : quote name ++ ':' :: cs =
      '"' :: ((name.toList.flatMap escapeChar ++ ['"']) ++ ':' :: cs) := rfl
  rw [htext]
  refine ⟨(ss, d), .intro hb (fun rest => ?_) hread, ?_, hv⟩
  · rw [List.append_assoc, List.singleton_append, hname]
  · rw [Document.textOf?, hchars, Option.map_some, String.ofList_toList]

/-- Texts that spell members of different names, with commas between them and in braces, spell the
object. -/
theorem spelled_object {texts : List (List Char)} {members : List (String × Value)}
    (h : List.Forall₂ SpelledMember texts members) (hnodup : (members.map Prod.fst).Nodup)
    {b : List Char} (hb : Blank b) :
    Spelled ('\x7b' :: (joinWith ',' texts ++ (b ++ ['\x7d']))) (.object members) := by
  rcases exists_forall₂_of_forall₂_exists h with ⟨ms, hread, hms⟩
  exact ⟨_, Document.reads_object hread hb,
    (Document.strict?_eq_object_iff _ _).mpr ⟨ms, rfl, hms, hnodup⟩⟩

/-! ## Values in several lines -/

/-- A new line is blank. -/
theorem blank_newLine (level : Nat) : Blank (newLine level) := by
  intro c hc
  rw [newLine, List.mem_cons, List.mem_replicate] at hc
  rcases hc with rfl | ⟨-, rfl⟩ <;> rfl

/-- Items stand on lines of their own with commas between them. -/
theorem prettyItems_eq_joinWith (level : Nat) (vs : List Value) :
    prettyItems level vs = joinWith ',' (vs.map fun v => newLine level ++ prettyAt level v) := by
  induction vs with
  | nil => rfl
  | cons v vs ih =>
      cases vs with
      | nil => rfl
      | cons w vs =>
          rw [prettyItems, ih, List.map_cons, List.map_cons, List.map_cons, joinWith_cons_cons]
          exact List.cons_ne_nil w vs

/-- Members stand on lines of their own with commas between them. -/
theorem prettyMembers_eq_joinWith (level : Nat) (members : List (String × Value)) :
    prettyMembers level members = joinWith ',' (members.map fun m =>
      newLine level ++ (quote m.1 ++ ':' :: ' ' :: prettyAt level m.2)) := by
  induction members with
  | nil => rfl
  | cons m members ih =>
      cases members with
      | nil => simp [prettyMembers, joinWith]
      | cons n members =>
          rw [prettyMembers, ih, List.map_cons, List.map_cons, List.map_cons, joinWith_cons_cons]
          · simp
          · exact List.cons_ne_nil n members

/-- An array in several lines has its items between its brackets. -/
theorem exists_prettyAt_array (level : Nat) (vs : List Value) :
    ∃ b, Blank b ∧ prettyAt level (.array vs) =
      '[' :: (joinWith ',' (vs.map fun v => newLine (level + 1) ++ prettyAt (level + 1) v) ++
        (b ++ [']'])) := by
  cases vs with
  | nil => exact ⟨[], by simp [Blank], rfl⟩
  | cons v vs =>
      refine ⟨newLine level, blank_newLine level, ?_⟩
      rw [prettyAt, prettyItems_eq_joinWith]
      simp

/-- An object in several lines has its members between its braces. -/
theorem exists_prettyAt_object (level : Nat) (members : List (String × Value)) :
    ∃ b, Blank b ∧ prettyAt level (.object members) =
      '\x7b' :: (joinWith ',' (members.map fun m => newLine (level + 1) ++
        (quote m.1 ++ ':' :: ' ' :: prettyAt (level + 1) m.2)) ++ (b ++ ['\x7d'])) := by
  cases members with
  | nil => exact ⟨[], by simp [Blank], rfl⟩
  | cons m members =>
      refine ⟨newLine level, blank_newLine level, ?_⟩
      rw [prettyAt, prettyMembers_eq_joinWith]
      simp

/-- A value in several lines spells the value. -/
theorem spelled_prettyAt {v : Value} (hv : v.Portable (· ≠ ·)) (level : Nat) :
    Spelled (prettyAt level v) v := by
  induction hv generalizing level with
  | null => exact ⟨.null, Document.reads_scalar rfl (by decide) (by decide) fun _ _ => rfl, rfl⟩
  | bool b =>
      refine ⟨.bool b, ?_, rfl⟩
      cases b <;> exact Document.reads_scalar rfl (by decide) (by decide) fun _ _ => rfl
  | int hmin hmax => exact spelled_intText hmin hmax
  | string s => exact spelled_quote s
  | @array vs h ih =>
      rcases exists_prettyAt_array level vs with ⟨b, hb, htext⟩
      rw [htext]
      refine spelled_array ?_ hb
      rw [List.forall₂_map_left_iff, List.forall₂_same]
      intro v hv
      exact (ih v hv (level + 1)).blank_append (blank_newLine (level + 1))
  | @object members hnames h ih =>
      rcases exists_prettyAt_object level members with ⟨b, hb, htext⟩
      rw [htext]
      refine spelled_object ?_ hnames hb
      rw [List.forall₂_map_left_iff, List.forall₂_same]
      intro m hm
      have hspace : Blank [' '] := by simp [Blank, Document.isBlank]
      exact spelledMember_intro (blank_newLine (level + 1)) m.1
        ((ih m hm (level + 1)).blank_append hspace)

/-- A value that is printed in several lines, which end with a new line, spells the value. -/
theorem spelled_printed {v : Value} (hv : v.Portable (· ≠ ·)) (colors : Bool) :
    Spelled (Painted.toText colors (.line [.plain (String.ofList v.pretty)])).toList v := by
  have htext : (Painted.toText colors (.line [.plain (String.ofList v.pretty)])).toList =
      prettyAt 0 v ++ ['\n'] := by
    rw [Painted.toText, String.toList_ofList, Painted.line, Painted.render_append]
    simp [Painted.render, Span.render, Span.plain, padTo, pretty]
  have hend : Blank ['\n'] := by simp [Blank, Document.isBlank]
  rw [htext]
  exact (spelled_prettyAt hv 0).append_blank hend

end Value
end Json
end ScriptReview
