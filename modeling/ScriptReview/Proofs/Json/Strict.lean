import Mathlib.Data.List.Nodup
import Mathlib.Data.String.Basic
import ScriptReview.Json.Decode
import ScriptReview.Proofs.Traversal

/-!
# Strict reading

A strict reader takes a document as it is written: the members of an object keep their order, and no
two of them have one name.  Where it gives a value, all other readers agree with it, if the value is
one that they keep and is not nested too deeply.

Main definitions:

* `Value.Portable` says that a value has only integers of 64 bits, and how its names are ordered.
* `Value.nesting` counts the arrays and objects that are open at one place of a value.
* `Document.strict?` is the strict reader.

Main results:

* `Document.value?_of_strict?` says that the reader for values agrees with it.
* `Document.record?_of_strict?` says that the fields of an object are its members.
-/

namespace ScriptReview
namespace Json

/-! ## Values -/

namespace Value

/-- A value without doubles whose integers fit 64 bits, with or without sign. The names of an object
are related, each of them to all that follow. -/
inductive Portable (R : String → String → Prop) : Value → Prop
  | null : Portable R .null
  | bool (b : Bool) : Portable R (.bool b)
  | int {i : Int} (hmin : -powerOfTwo 63 ≤ i) (hmax : i < powerOfTwo 64) : Portable R (.int i)
  | string (s : String) : Portable R (.string s)
  | array {items : List Value} (h : ∀ v ∈ items, Portable R v) : Portable R (.array items)
  | object {members : List (String × Value)} (hnames : (members.map Prod.fst).Pairwise R)
      (h : ∀ m ∈ members, Portable R m.2) : Portable R (.object members)

/-- A relation between names may be replaced by a weaker one. -/
theorem Portable.imp {R S : String → String → Prop} (hRS : ∀ m n, R m n → S m n) {v : Value}
    (h : v.Portable R) : v.Portable S := by
  induction h with
  | null => exact .null
  | bool b => exact .bool b
  | int hmin hmax => exact .int hmin hmax
  | string s => exact .string s
  | array h ih => exact .array ih
  | object hnames h ih => exact .object (hnames.imp (hRS _ _)) ih

/-- A natural number of 64 bits is kept. -/
theorem portable_nat {R : String → String → Prop} {n : Nat} (h : n < powerOfTwo 64) :
    Portable R (.int n) :=
  .int (by omega) (by omega)

/-- An array is kept if everything is kept that its items are written as. -/
theorem portable_map {R : String → String → Prop} {α : Type} {write : α → Value} {as : List α}
    (h : ∀ a ∈ as, (write a).Portable R) : Portable R (.array (as.map write)) := by
  refine .array ?_
  rw [List.forall_mem_map]
  exact h

mutual

/-- The largest number of arrays and objects that are open at one place of a value. -/
def nesting : Value → Nat
  | .array items => nestingOfItems items + 1
  | .object members => nestingOfMembers members + 1
  | _ => 0

/-- The largest nesting of some items. -/
def nestingOfItems : List Value → Nat
  | [] => 0
  | v :: vs => max (nesting v) (nestingOfItems vs)

/-- The largest nesting of some members. -/
def nestingOfMembers : List (String × Value) → Nat
  | [] => 0
  | (_, v) :: rest => max (nesting v) (nestingOfMembers rest)

end

/-- An item is nested less deeply than its array. -/
theorem nesting_lt_of_mem_items {v : Value} {items : List Value} (h : v ∈ items) :
    v.nesting < (array items).nesting := by
  rw [nesting, Nat.lt_succ_iff]
  induction items with
  | nil => contradiction
  | cons w items ih =>
      rw [nestingOfItems]
      rcases List.mem_cons.mp h with rfl | h
      · exact Nat.le_max_left _ _
      · exact Nat.le_trans (ih h) (Nat.le_max_right _ _)

/-- A member is nested less deeply than its object. -/
theorem nesting_lt_of_mem_members {m : String × Value} {members : List (String × Value)}
    (h : m ∈ members) : m.2.nesting < (object members).nesting := by
  rw [nesting, Nat.lt_succ_iff]
  induction members with
  | nil => contradiction
  | cons n members ih =>
      rw [nestingOfMembers]
      rcases List.mem_cons.mp h with rfl | h
      · exact Nat.le_max_left _ _
      · exact Nat.le_trans (ih h) (Nat.le_max_right _ _)

/-- A member whose name comes after all others is put at the end. -/
theorem putMember_eq_append {name : String} {v : Value} {sorted : List (String × Value)}
    (h : ∀ m ∈ sorted, m.1 < name) : putMember name v sorted = sorted ++ [(name, v)] := by
  induction sorted with
  | nil => rfl
  | cons m sorted ih =>
      have hlt : m.1 < name := h m (by simp)
      rw [putMember, if_neg hlt.not_gt, if_neg hlt.ne', ih fun n hn => h n (by simp [hn])]
      rfl

end Value

/-! ## Documents -/

namespace Document

mutual

/-- The value of a document in which no two members of an object have one name. -/
def strict? : Document → Option Value
  | .null => some .null
  | .bool b => some (.bool b)
  | .number n => n.value?
  | .string symbols => (textOf? symbols).map .string
  | .array items => (strictItems? items).map .array
  | .object members => do
    let members ← strictMembers? members
    if (members.map Prod.fst).Nodup then some (.object members) else none

/-- The values of several documents. -/
def strictItems? : List Document → Option (List Value)
  | [] => some []
  | d :: ds => do
    let v ← strict? d
    let vs ← strictItems? ds
    some (v :: vs)

/-- The names and values of several members. -/
def strictMembers? : List (List Symbol × Document) → Option (List (String × Value))
  | [] => some []
  | (name, d) :: rest => do
    let n ← textOf? name
    let v ← strict? d
    let members ← strictMembers? rest
    some ((n, v) :: members)

end

/-- A member with its symbols stands for a name and a value. -/
def MemberOf (m : List Symbol × Document) (named : String × Value) : Prop :=
  textOf? m.1 = some named.1 ∧ m.2.strict? = some named.2

/-- Items are read one by one. -/
theorem strictItems?_eq_some_iff (ds : List Document) (vs : List Value) :
    strictItems? ds = some vs ↔ List.Forall₂ (fun d v => d.strict? = some v) ds vs := by
  induction ds generalizing vs with
  | nil => simp [strictItems?, eq_comm]
  | cons d ds ih =>
      simp only [strictItems?, Option.bind_eq_bind, Option.bind_eq_some_iff, ih,
        List.forall₂_cons_left_iff, Option.some.injEq]
      constructor
      · rintro ⟨v, hv, vs, hvs, rfl⟩
        exact ⟨v, vs, hv, hvs, rfl⟩
      · rintro ⟨v, vs, hv, hvs, rfl⟩
        exact ⟨v, hv, vs, hvs, rfl⟩

/-- Members are read one by one. -/
theorem strictMembers?_eq_some_iff (ms : List (List Symbol × Document))
    (members : List (String × Value)) :
    strictMembers? ms = some members ↔ List.Forall₂ MemberOf ms members := by
  induction ms generalizing members with
  | nil => simp [strictMembers?, eq_comm]
  | cons m ms ih =>
      simp only [strictMembers?, Option.bind_eq_bind, Option.bind_eq_some_iff, ih,
        List.forall₂_cons_left_iff, Option.some.injEq]
      constructor
      · rintro ⟨n, hn, v, hv, members, hmembers, rfl⟩
        exact ⟨(n, v), members, ⟨hn, hv⟩, hmembers, rfl⟩
      · rintro ⟨m, members, hm, hmembers, rfl⟩
        exact ⟨m.1, hm.1, m.2, hm.2, members, hmembers, rfl⟩

/-- The value of a number is an integer or a double. -/
theorem eq_of_value?_eq_some {n : Numeral} {v : Value} (h : n.value? = some v) :
    (∃ i, v = .int i) ∨ ∃ x, v = .double x := by
  unfold Numeral.value? at h
  cases hint : n.int? with
  | some i =>
      rw [hint] at h
      exact .inl ⟨i, (Option.some.inj h).symm⟩
  | none =>
      rw [hint] at h
      rcases Option.map_eq_some_iff.mp h with ⟨x, -, rfl⟩
      exact .inr ⟨_, rfl⟩

/-- Strings are read from strings. -/
theorem strict?_eq_string_iff (d : Document) (s : String) :
    d.strict? = some (.string s) ↔ ∃ ss, d = .string ss ∧ textOf? ss = some s := by
  cases d with
  | number n =>
      simp only [strict?, reduceCtorEq, false_and, exists_false, iff_false]
      intro h
      rcases eq_of_value?_eq_some h with ⟨_, h⟩ | ⟨_, h⟩ <;> contradiction
  | _ => simp [strict?, Option.bind_eq_some_iff]

/-- Arrays are read from arrays. -/
theorem strict?_eq_array_iff (d : Document) (vs : List Value) :
    d.strict? = some (.array vs) ↔
      ∃ ds, d = .array ds ∧ List.Forall₂ (fun d v => d.strict? = some v) ds vs := by
  cases d with
  | number n =>
      simp only [strict?, reduceCtorEq, false_and, exists_false, iff_false]
      intro h
      rcases eq_of_value?_eq_some h with ⟨_, h⟩ | ⟨_, h⟩ <;> contradiction
  | _ => simp [strict?, Option.bind_eq_some_iff, strictItems?_eq_some_iff]

/-- Objects are read from objects. -/
theorem strict?_eq_object_iff (d : Document) (members : List (String × Value)) :
    d.strict? = some (.object members) ↔
      ∃ ms, d = .object ms ∧ List.Forall₂ MemberOf ms members ∧
        (members.map Prod.fst).Nodup := by
  cases d with
  | number n =>
      simp only [strict?, reduceCtorEq, false_and, exists_false, iff_false]
      intro h
      rcases eq_of_value?_eq_some h with ⟨_, h⟩ | ⟨_, h⟩ <;> contradiction
  | object ms =>
      simp only [strict?, Option.bind_eq_bind, Option.bind_eq_some_iff,
        strictMembers?_eq_some_iff, Option.ite_none_right_eq_some, Option.some.injEq,
        Value.object.injEq, Document.object.injEq, exists_eq_left']
      constructor
      · rintro ⟨ns, hns, hnodup, rfl⟩
        exact ⟨hns, hnodup⟩
      · rintro ⟨hmembers, hnodup⟩
        exact ⟨members, hmembers, hnodup, rfl⟩
  | _ => simp [strict?]

/-! ## Other readers -/

/-- Items whose values are read are read as items. -/
theorem values?_of_forall₂ {depth : Nat} {ds : List Document} {vs : List Value}
    (h : List.Forall₂ (fun d v => d.value? depth = some v) ds vs) :
    values? depth ds = some vs := by
  induction h with
  | nil => rfl
  | cons h _ ih => rw [values?, h, ih]; rfl

/-- Members that are read in the order of their names come after those before them. -/
theorem memberValues?_of_forall₂ {depth : Nat} {ms : List (List Symbol × Document)}
    {members sorted : List (String × Value)}
    (h : List.Forall₂ (fun m named => textOf? m.1 = some named.1 ∧
      m.2.value? depth = some named.2) ms members)
    (hsorted : ((sorted ++ members).map Prod.fst).Pairwise (· < ·)) :
    memberValues? depth ms sorted = some (sorted ++ members) := by
  induction h generalizing sorted with
  | nil => rw [memberValues?, List.append_nil]
  | @cons m named ms members h _ ih =>
      have hlast : ∀ n ∈ sorted, n.1 < named.1 := by
        intro n hn
        rw [List.map_append, List.pairwise_append] at hsorted
        exact hsorted.2.2 _ (List.mem_map_of_mem hn) _ (by simp)
      rw [memberValues?, h.1, h.2]
      simp only [Option.bind_eq_bind, Option.bind_some, Value.putMember_eq_append hlast]
      rw [ih (by simpa using hsorted)]
      simp

/-- A value that is kept and not nested too deeply is the value of its document. -/
theorem value?_of_strict? {v : Value} (hv : v.Portable (· < ·)) {d : Document}
    (h : d.strict? = some v) {depth : Nat} (hdepth : v.nesting ≤ depth) :
    d.value? depth = some v := by
  induction hv generalizing d depth with
  | @array vs _ ih =>
      rcases (strict?_eq_array_iff _ _).mp h with ⟨ds, rfl, hds⟩
      have hitems : List.Forall₂ (fun d v => d.value? (depth - 1) = some v) ds vs := by
        refine (forall₂_and_right hds fun v hv => hv).imp fun d v hd => ?_
        have hlt := Value.nesting_lt_of_mem_items hd.1
        exact ih v hd.1 hd.2 (by omega)
      have hpos : depth ≠ 0 := Nat.ne_zero_of_lt hdepth
      rw [value?, if_neg hpos, values?_of_forall₂ hitems]
      rfl
  | @object members hnames _ ih =>
      rcases (strict?_eq_object_iff _ _).mp h with ⟨ms, rfl, hms, -⟩
      have hmembers : List.Forall₂ (fun m named => textOf? m.1 = some named.1 ∧
          m.2.value? (depth - 1) = some named.2) ms members := by
        refine (forall₂_and_right hms fun named hnamed => hnamed).imp fun m named hm => ?_
        have hlt := Value.nesting_lt_of_mem_members hm.1
        exact ⟨hm.2.1, ih named hm.1 hm.2.2 (by omega)⟩
      have hpos : depth ≠ 0 := Nat.ne_zero_of_lt hdepth
      rw [value?, if_neg hpos, memberValues?_of_forall₂ hmembers (by simpa using hnames)]
      rfl
  | string s =>
      rcases (strict?_eq_string_iff _ _).mp h with ⟨ss, rfl, hss⟩
      rw [value?, hss]
      rfl
  | _ => cases d <;> simp_all [strict?, value?, Option.bind_eq_some_iff]

/-- The items of an array whose values are kept and not nested too deeply have these values. -/
theorem exists_values?_eq_of_strict? {d : Document} {vs : List Value}
    (h : d.strict? = some (.array vs)) {depth : Nat}
    (hvs : ∀ v ∈ vs, v.Portable (· < ·) ∧ v.nesting ≤ depth) :
    ∃ ds, d.items? = some ds ∧ values? depth ds = some vs := by
  rcases (strict?_eq_array_iff _ _).mp h with ⟨ds, rfl, hds⟩
  refine ⟨ds, rfl, values?_of_forall₂ ?_⟩
  exact (forall₂_and_right hds hvs).imp fun d v hd => value?_of_strict? hd.1.1 hd.2 hd.1.2

/-- The string of a document is read as a string. -/
theorem text?_of_strict? {d : Document} {s : String} (h : d.strict? = some (.string s)) :
    d.text? = some s := by
  rcases (strict?_eq_string_iff d s).mp h with ⟨ss, rfl, hss⟩
  exact hss

/-- The string of a document is read as a name. -/
theorem choice?_of_strict? {α : Type} {find : String → Option α} {d : Document} {s : String}
    (h : d.strict? = some (.string s)) : d.choice? find = find s := by
  rcases (strict?_eq_string_iff d s).mp h with ⟨ss, rfl, hss⟩
  rw [choice?, hss]
  rfl

/-- The items of an array are read one by one, each by a reader that agrees with its value. -/
theorem mapM_items?_of_strict? {α : Type} {f : Document → Option α} {g : α → Value}
    {d : Document} {as : List α} (h : d.strict? = some (.array (as.map g)))
    (hread : ∀ a ∈ as, ∀ d : Document, d.strict? = some (g a) → f d = some a) :
    d.items?.bind (·.mapM f) = some as := by
  rcases (strict?_eq_array_iff d _).mp h with ⟨ds, rfl, hds⟩
  rw [List.forall₂_map_right_iff] at hds
  exact mapM_eq_some_iff_forall₂.mpr
    ((forall₂_and_right hds fun a ha => ha).imp fun d a hd => hread a hd.1 d hd.2)

/-- The strings of an array are read one by one. -/
theorem texts?_of_strict? {d : Document} {texts : List String}
    (h : d.strict? = some (.array (texts.map .string))) : d.texts? = some texts :=
  mapM_items?_of_strict? h fun _ _ _ hd => text?_of_strict? hd

/-- A member is found by its name if no other one has it. -/
theorem lookup_eq_of_mem {α : Type} {named : List (String × α)}
    (hnodup : (named.map Prod.fst).Nodup) {m : String × α} (hm : m ∈ named) :
    List.lookup m.1 named = some m.2 := by
  induction named with
  | nil => contradiction
  | cons first rest ih =>
      rw [List.map_cons, List.nodup_cons] at hnodup
      rcases List.mem_cons.mp hm with rfl | hrest
      · exact List.lookup_cons_self
      · have hne : m.1 ≠ first.1 := by
          intro heq
          exact hnodup.1 (heq ▸ List.mem_map_of_mem hrest)
        rw [List.lookup_cons, beq_false_of_ne hne]
        exact ih hnodup.2 hrest

/-- A name that no two members have is the name of one member at most. -/
theorem length_filter_le_one {α : Type} {named : List (String × α)}
    (hnodup : (named.map Prod.fst).Nodup) (name : String) :
    (named.filter (·.1 == name)).length ≤ 1 := by
  have hcount := List.nodup_iff_count_le_one.mp hnodup name
  rw [List.count_eq_countP, List.countP_map, List.countP_eq_length_filter] at hcount
  exact hcount

/-- The names of members are read one by one. -/
theorem exists_named?_eq {ms : List (List Symbol × Document)} {members : List (String × Value)}
    (h : List.Forall₂ MemberOf ms members) :
    ∃ named, named? ms = some named ∧ named.map Prod.fst = members.map Prod.fst ∧
      List.Forall₂ (fun d m => d.strict? = some m.2) (named.map Prod.snd) members := by
  induction h with
  | nil => exact ⟨[], rfl, rfl, .nil⟩
  | @cons m member ms members hm _ ih =>
      rcases ih with ⟨named, hnamed, hnames, hvalues⟩
      rcases m with ⟨name, d⟩
      refine ⟨(member.1, d) :: named, ?_, ?_, .cons hm.2 hvalues⟩
      · have hname : textOf? name = some member.1 := hm.1
        rw [named?] at hnamed ⊢
        simp [List.mapM_cons, hnamed, hname]
      · rw [List.map_cons, List.map_cons, hnames]

/-- The fields of an object that has no others are its members. -/
theorem exists_record?_eq_of_strict? {d : Document} {members : List (String × Value)}
    (h : d.strict? = some (.object members)) :
    ∃ ds, d.record? (members.map Prod.fst) = some (ds.map some) ∧
      List.Forall₂ (fun d member => d.strict? = some member.2) ds members := by
  rcases (strict?_eq_object_iff d members).mp h with ⟨ms, rfl, hms, hnodup⟩
  rcases exists_named?_eq hms with ⟨named, hnamed, hnames, hvalues⟩
  rw [← hnames] at hnodup
  refine ⟨named.map Prod.snd, ?_, hvalues⟩
  have hfields : (named.map Prod.fst).map (fun n => List.lookup n named) =
      (named.map Prod.snd).map some := by
    rw [List.map_map, List.map_map]
    exact List.map_congr_left fun m hm => lookup_eq_of_mem hnodup hm
  have honce : (named.map Prod.fst).all
      (fun n => (named.filter (·.1 == n)).length ≤ 1) = true := by
    simpa using fun n _ _ => length_filter_le_one hnodup n
  rw [← hnames, record?, hnamed]
  simp only [Option.bind_eq_bind, Option.bind_some]
  rw [if_pos honce, hfields]

end Document
end Json
end ScriptReview
