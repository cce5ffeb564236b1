import Mathlib.Data.List.Nodup
import Mathlib.Data.List.Perm.Basic
import ScriptReview.Proofs.Json.Strict
import ScriptReview.Proofs.Lookup

/-!
# The members of records

The fields of a record are found by their names.  Hence it makes no difference in which order the
members of an object stand, nor whether there are others, while a field that comes twice spoils the
record.

Main definitions:

* `Document.MembersChanged` changes the order of members, or adds one that is no field.
* `Document.FieldChanged` changes the value of a field, `Document.ItemChanged` an item of an array,
  and `Document.FieldAdded` adds a field that was missing.
* `Document.Lacking` says that a field is missing, `Document.Repeated` that one comes twice.
* `Document.FieldHolds` and `Document.ItemHolds` say something of the value of a field and of an
  item.

Main results:

* `Document.MembersChanged.record?_eq` says that the fields are the same.
* `Document.FieldChanged.exists_record?_eq` and `Document.FieldAdded.record?_eq` say that one field
  is another.
* `Document.Lacking.none_mem` and `Document.Repeated.record?_eq_none` are about spoiled records.
-/

namespace ScriptReview
namespace Json
namespace Document

/-- The members of an object as they are written. -/
abbrev Members := List (List Symbol × Document)

/-! ## Changes and places -/

/-- A change to the members of an object that leaves a record with these fields as it is: the
members stand in another order, or one is added whose name is no field. -/
inductive MembersChanged (fields : List String) : Document → Document → Prop
  | permuted {ms ms' : Members} (h : ms.Perm ms') : MembersChanged fields (.object ms) (.object ms')
  | added {before after : Members} {name : List Symbol} {n : String} (v : Document)
      (hname : textOf? name = some n) (hother : n ∉ fields) :
      MembersChanged fields (.object (before ++ after)) (.object (before ++ (name, v) :: after))

/-- A change to the value of a field, be it the member of an object or an item in the place of the
field. -/
inductive FieldChanged (fields : List String) (n : String) (R : Document → Document → Prop) :
    Document → Document → Prop
  | member {before after : Members} {name : List Symbol} {v v' : Document}
      (hname : textOf? name = some n) (h : R v v') :
      FieldChanged fields n R (.object (before ++ (name, v) :: after))
        (.object (before ++ (name, v') :: after))
  | item {before after : List Document} {v v' : Document}
      (hplace : fields[before.length]? = some n) (h : R v v') :
      FieldChanged fields n R (.array (before ++ v :: after)) (.array (before ++ v' :: after))

/-- A change to an item of an array. -/
inductive ItemChanged (R : Document → Document → Prop) : Document → Document → Prop
  | item {before after : List Document} {d d' : Document} (h : R d d') :
      ItemChanged R (.array (before ++ d :: after)) (.array (before ++ d' :: after))

/-- A member is added for a field that has none. -/
inductive FieldAdded (n : String) (v : Document) : Document → Document → Prop
  | member {before after : Members} {name : List Symbol}
      (hmissing : ∀ m ∈ before ++ after, textOf? m.1 ≠ some n) (hname : textOf? name = some n) :
      FieldAdded n v (.object (before ++ after)) (.object (before ++ (name, v) :: after))

/-- A record in which a field is missing: no member of the object has its name, or the array is too
short. -/
inductive Lacking (fields : List String) : Document → Prop
  | member {ms : Members} {n : String} (hfield : n ∈ fields)
      (hmissing : ∀ m ∈ ms, textOf? m.1 ≠ some n) : Lacking fields (.object ms)
  | item {items : List Document} (hshort : items.length < fields.length) :
      Lacking fields (.array items)

/-- An object in which one of some fields has two members. -/
inductive Repeated (fields : List String) : Document → Prop
  | members {before between after : Members} {n : String} {name name' : List Symbol}
      {v v' : Document} (hfield : n ∈ fields) (hname : textOf? name = some n)
      (hname' : textOf? name' = some n) :
      Repeated fields (.object (before ++ (name, v) :: (between ++ (name', v') :: after)))

/-- The value of a field has a property. -/
inductive FieldHolds (fields : List String) (n : String) (P : Document → Prop) : Document → Prop
  | member {ms : Members} {name : List Symbol} {v : Document} (hmem : (name, v) ∈ ms)
      (hname : textOf? name = some n) (h : P v) : FieldHolds fields n P (.object ms)
  | item {items : List Document} {i : Nat} {v : Document} (hplace : fields[i]? = some n)
      (hitem : items[i]? = some v) (h : P v) : FieldHolds fields n P (.array items)

/-- An item of an array has a property. -/
inductive ItemHolds (P : Document → Prop) : Document → Prop
  | item {items : List Document} {d : Document} (hmem : d ∈ items) (h : P d) :
      ItemHolds P (.array items)

/-! ## Named members -/

/-- A member with its symbols and the name that they stand for. -/
def NameOf (m : List Symbol × Document) (named : String × Document) : Prop :=
  textOf? m.1 = some named.1 ∧ m.2 = named.2

/-- Members get their names one by one. -/
theorem named?_eq_some_iff (ms : Members) (named : List (String × Document)) :
    named? ms = some named ↔ List.Forall₂ NameOf ms named := by
  have hname : ∀ (m : List Symbol × Document) (named : String × Document),
      (textOf? m.1).map (·, m.2) = some named ↔ NameOf m named := by
    intro m named
    simp [NameOf, Prod.ext_iff]
  rw [named?, mapM_eq_some_iff_forall₂]
  simp only [hname]

/-- Members in another order have their names in another order. -/
theorem exists_named?_of_perm {ms ms' : Members} (h : ms.Perm ms')
    {named : List (String × Document)} (hnamed : named? ms = some named) :
    ∃ named', named? ms' = some named' ∧ named'.Perm named := by
  simp only [named?_eq_some_iff] at hnamed ⊢
  obtain ⟨named', hnamed', hperm⟩ := List.perm_comp_forall₂ h.symm hnamed
  exact ⟨named', hnamed', hperm⟩

/-- The names of joined members are joined. -/
theorem named?_append_eq_some_iff (before after : Members) (named : List (String × Document)) :
    named? (before ++ after) = some named ↔
      ∃ nb na, named? before = some nb ∧ named? after = some na ∧ named = nb ++ na := by
  simp only [named?, List.mapM_append, Option.bind_eq_bind, Option.bind_eq_some_iff,
    Option.pure_def, Option.some.injEq]
  constructor
  · rintro ⟨nb, hb, na, ha, rfl⟩
    exact ⟨nb, na, hb, ha, rfl⟩
  · rintro ⟨nb, na, hb, ha, rfl⟩
    exact ⟨nb, hb, na, ha, rfl⟩

/-- A member that has a name stands with it between the others. -/
theorem named?_insert_eq_some_iff {name : List Symbol} {n : String} (h : textOf? name = some n)
    (v : Document) (before after : Members) (named : List (String × Document)) :
    named? (before ++ (name, v) :: after) = some named ↔
      ∃ nb na, named? before = some nb ∧ named? after = some na ∧
        named = nb ++ (n, v) :: na := by
  have hcons : named? ((name, v) :: after) = (named? after).map ((n, v) :: ·) := by
    rw [named?, List.mapM_cons]
    simp only [h, Option.map_some]
    change (named? after >>= fun rest => some ((n, v) :: rest)) = _
    cases named? after <;> rfl
  rw [named?_append_eq_some_iff, hcons]
  simp only [Option.map_eq_some_iff]
  constructor
  · rintro ⟨nb, _, hb, ⟨na, ha, rfl⟩, rfl⟩
    exact ⟨nb, na, hb, ha, rfl⟩
  · rintro ⟨nb, na, hb, ha, rfl⟩
    exact ⟨nb, _, hb, ⟨na, ha, rfl⟩, rfl⟩

/-- A name that no member stands for is not among the names. -/
theorem not_mem_of_named? {ms : Members} {named : List (String × Document)}
    (h : named? ms = some named) {n : String} (hmissing : ∀ m ∈ ms, textOf? m.1 ≠ some n) :
    n ∉ named.map Prod.fst := by
  rw [named?_eq_some_iff] at h
  induction h with
  | nil => simp
  | @cons m member ms named hm _ ih =>
      have hne : n ≠ member.1 := by
        intro heq
        exact hmissing m (by simp) (by rw [hm.1, heq])
      rw [List.map_cons, List.mem_cons, not_or]
      exact ⟨hne, ih fun m' hm' => hmissing m' (by simp [hm'])⟩

/-- A name that no member on either side stands for is not among the names of either side. -/
theorem not_mem_of_named?_append {before after : Members} {n : String}
    (hmissing : ∀ m ∈ before ++ after, textOf? m.1 ≠ some n) {nb na : List (String × Document)}
    (hb : named? before = some nb) (ha : named? after = some na) :
    n ∉ nb.map Prod.fst ∧ n ∉ na.map Prod.fst :=
  ⟨not_mem_of_named? hb fun m hm => hmissing m (List.mem_append_left _ hm),
    not_mem_of_named? ha fun m hm => hmissing m (List.mem_append_right _ hm)⟩

/-! ## Fields of objects -/

/-- The members of a name are as many as its occurrences among the names. -/
theorem length_filter_eq_count (named : List (String × Document)) (n : String) :
    (named.filter (·.1 == n)).length = (named.map Prod.fst).count n := by
  rw [List.count_eq_countP, List.countP_map, List.countP_eq_length_filter]
  rfl

/-- The fields of an object are found by their names, if none of them comes twice. -/
theorem record?_object_eq_some_iff (fields : List String) (ms : Members)
    (fs : List (Option Document)) :
    record? fields (.object ms) = some fs ↔
      ∃ named, named? ms = some named ∧ (∀ n ∈ fields, (named.map Prod.fst).count n ≤ 1) ∧
        fields.map (fun n => List.lookup n named) = fs := by
  simp only [record?, Option.bind_eq_bind, Option.bind_eq_some_iff,
    Option.ite_none_right_eq_some, List.all_eq_true, decide_eq_true_eq, length_filter_eq_count,
    Option.some.injEq]

/-- The fields of an array are its items in order, if there are not too many. -/
theorem record?_array_eq_some_iff (fields : List String) (items : List Document)
    (fs : List (Option Document)) :
    record? fields (.array items) = some fs ↔ items.length ≤ fields.length ∧
      items.map some ++ List.replicate (fields.length - items.length) none = fs := by
  rw [record?, Option.ite_none_right_eq_some, Option.some.injEq]

/-- A record has a place for each of its fields. -/
theorem length_record? {fields : List String} {d : Document} {fs : List (Option Document)}
    (h : d.record? fields = some fs) : fs.length = fields.length := by
  cases d with
  | array items =>
      obtain ⟨hlength, rfl⟩ := (record?_array_eq_some_iff _ _ _).mp h
      rw [List.length_append, List.length_map, List.length_replicate]
      omega
  | object ms =>
      obtain ⟨_, -, -, rfl⟩ := (record?_object_eq_some_iff _ _ _).mp h
      exact List.length_map _
  | _ => contradiction

/-- A name that comes at most once is not found before the place where it stands. -/
theorem lookup_before_eq_none {n : String} {v : Document} {before after : List (String × Document)}
    (h : ((before ++ (n, v) :: after).map Prod.fst).count n ≤ 1) :
    List.lookup n before = none := by
  apply lookup_eq_none_of_not_mem
  intro hmem
  have hpos := List.count_pos_iff.mpr hmem
  rw [List.map_append, List.map_cons, List.count_append, List.count_cons_self] at h
  omega

/-- A name that comes at most once is found alike in any order. -/
theorem lookup_eq_of_perm {named named' : List (String × Document)} (h : named'.Perm named)
    {n : String} (honce : (named.map Prod.fst).count n ≤ 1) :
    List.lookup n named' = List.lookup n named := by
  rw [← length_filter_eq_count] at honce
  have hfilter := h.filter (·.1 == n)
  rw [lookup_eq_find?, lookup_eq_find?, ← List.head?_filter, ← List.head?_filter]
  cases hmembers : named.filter (·.1 == n) with
  | nil =>
      rw [hmembers] at hfilter
      rw [hfilter.eq_nil]
  | cons m rest =>
      rw [hmembers, List.length_cons] at honce
      have hrest : rest = [] := List.eq_nil_of_length_eq_zero (by omega)
      rw [hmembers, hrest] at hfilter
      rw [hrest, hfilter.eq_singleton]

/-! ## Changes that leave a record as it is -/

/-- Members in another order have the same fields. -/
theorem record?_of_perm {fields : List String} {ms ms' : Members} (h : ms.Perm ms')
    {fs : List (Option Document)} (hfs : record? fields (.object ms) = some fs) :
    record? fields (.object ms') = some fs := by
  rw [record?_object_eq_some_iff] at hfs ⊢
  obtain ⟨named, hnamed, honce, rfl⟩ := hfs
  obtain ⟨named', hnamed', hperm⟩ := exists_named?_of_perm h hnamed
  refine ⟨named', hnamed', ?_, ?_⟩
  · intro n hn
    rw [(hperm.map Prod.fst).count_eq]
    exact honce n hn
  · apply List.map_congr_left
    intro n hn
    exact lookup_eq_of_perm hperm (honce n hn)

/-- A member whose name is no field makes no difference. -/
theorem record?_insert_of_not_mem {fields : List String} {name : List Symbol} {n : String}
    (hname : textOf? name = some n) (hother : n ∉ fields) (v : Document)
    (before after : Members) (fs : List (Option Document)) :
    record? fields (.object (before ++ (name, v) :: after)) = some fs ↔
      record? fields (.object (before ++ after)) = some fs := by
  have hne : ∀ k ∈ fields, k ≠ n := by
    intro k hk heq
    exact hother (heq ▸ hk)
  have hcount : ∀ (nb na : List (String × Document)), ∀ k ∈ fields,
      ((nb ++ (n, v) :: na).map Prod.fst).count k = ((nb ++ na).map Prod.fst).count k := by
    intro nb na k hk
    simp [List.count_append, List.count_cons_of_ne (hne k hk).symm]
  have hmap : ∀ nb na : List (String × Document),
      fields.map (fun k => List.lookup k (nb ++ (n, v) :: na)) =
        fields.map fun k => List.lookup k (nb ++ na) := by
    intro nb na
    apply List.map_congr_left
    intro k hk
    exact lookup_insert_of_ne (hne k hk) v nb na
  simp only [record?_object_eq_some_iff, named?_insert_eq_some_iff hname,
    named?_append_eq_some_iff]
  constructor
  · rintro ⟨_, ⟨nb, na, hb, ha, rfl⟩, honce, rfl⟩
    refine ⟨_, ⟨nb, na, hb, ha, rfl⟩, ?_, (hmap nb na).symm⟩
    intro k hk
    rw [← hcount nb na k hk]
    exact honce k hk
  · rintro ⟨_, ⟨nb, na, hb, ha, rfl⟩, honce, rfl⟩
    refine ⟨_, ⟨nb, na, hb, ha, rfl⟩, ?_, hmap nb na⟩
    intro k hk
    rw [hcount nb na k hk]
    exact honce k hk

/-- A record has the same fields after such a change. -/
theorem MembersChanged.record?_eq {fields : List String} {d d' : Document}
    (h : MembersChanged fields d d') : d'.record? fields = d.record? fields := by
  apply Option.ext
  intro fs
  cases h with
  | permuted h => exact ⟨record?_of_perm h.symm, record?_of_perm h⟩
  | added v hname hother => exact record?_insert_of_not_mem hname hother v _ _ fs

/-! ## Changes to one field -/

/-- A change to a field may be taken back. -/
theorem FieldChanged.symm {fields : List String} {n : String} {R : Document → Document → Prop}
    {d d' : Document} (h : FieldChanged fields n R d d') :
    FieldChanged fields n (fun v v' => R v' v) d' d := by
  cases h with
  | member hname h => exact .member hname h
  | item hplace h => exact .item hplace h

/-- The member of a field is found in its place. -/
theorem getElem?_of_insert {fields : List String} {i : Nat} {n : String}
    (hi : fields[i]? = some n) {name : List Symbol} (hname : textOf? name = some n) (v : Document)
    (before after : Members) {fs : List (Option Document)}
    (h : record? fields (.object (before ++ (name, v) :: after)) = some fs) :
    fs[i]? = some (some v) := by
  simp only [record?_object_eq_some_iff, named?_insert_eq_some_iff hname] at h
  obtain ⟨_, ⟨nb, na, -, -, rfl⟩, honce, rfl⟩ := h
  have hbefore := lookup_before_eq_none (honce n (List.mem_of_getElem? hi))
  rw [List.getElem?_map, hi, Option.map_some, lookup_insert_self hbefore]

section Field

variable {fields : List String} (hnodup : fields.Nodup) {i : Nat} {n : String}
  (hi : fields[i]? = some n)
include hnodup hi

/-- Another value of a field changes what is found in its place. -/
theorem record?_insert_set {name : List Symbol} (hname : textOf? name = some n) (v v' : Document)
    (before after : Members) {fs : List (Option Document)}
    (h : record? fields (.object (before ++ (name, v) :: after)) = some fs) :
    record? fields (.object (before ++ (name, v') :: after)) = some (fs.set i (some v')) := by
  simp only [record?_object_eq_some_iff, named?_insert_eq_some_iff hname] at h ⊢
  obtain ⟨_, ⟨nb, na, hb, ha, rfl⟩, honce, rfl⟩ := h
  have hbefore := lookup_before_eq_none (honce n (List.mem_of_getElem? hi))
  refine ⟨_, ⟨nb, na, hb, ha, rfl⟩, ?_, ?_⟩
  · intro k hk
    simpa using honce k hk
  · rw [map_eq_set hnodup hi, lookup_insert_self hbefore]
    intro k hk
    rw [lookup_insert_of_ne hk, lookup_insert_of_ne hk]

/-- A change to a field changes what is found in its place. -/
theorem FieldChanged.exists_record?_eq {R : Document → Document → Prop} {d d' : Document}
    (h : FieldChanged fields n R d d') {fs : List (Option Document)}
    (hfs : d.record? fields = some fs) :
    ∃ v v', R v v' ∧ fs[i]? = some (some v) ∧ d'.record? fields = some (fs.set i (some v')) := by
  cases h with
  | @member before after name v v' hname h =>
      exact ⟨v, v', h, getElem?_of_insert hi hname v before after hfs,
        record?_insert_set hnodup hi hname v v' before after hfs⟩
  | @item before after v v' hplace h =>
      have hlt : i < fields.length := (List.getElem?_eq_some_iff.mp hi).1
      obtain rfl : i = before.length :=
        (List.getElem?_inj hlt hnodup).mp (by rw [hi, hplace])
      rw [record?_array_eq_some_iff] at hfs
      obtain ⟨hlength, rfl⟩ := hfs
      refine ⟨v, v', h, by simp, ?_⟩
      rw [record?_array_eq_some_iff]
      refine ⟨by simpa using hlength, ?_⟩
      simp

/-- A member that is added for a missing field is found in the place of the field, where there was
nothing before. -/
theorem record?_insert_of_missing {name : List Symbol} (hname : textOf? name = some n)
    {before after : Members} (hmissing : ∀ m ∈ before ++ after, textOf? m.1 ≠ some n) (v : Document)
    {fs : List (Option Document)} (h : record? fields (.object (before ++ after)) = some fs) :
    fs[i]? = some none ∧
      record? fields (.object (before ++ (name, v) :: after)) = some (fs.set i (some v)) := by
  simp only [record?_object_eq_some_iff, named?_append_eq_some_iff,
    named?_insert_eq_some_iff hname] at h ⊢
  obtain ⟨_, ⟨nb, na, hb, ha, rfl⟩, honce, rfl⟩ := h
  have hnone := not_mem_of_named?_append hmissing hb ha
  have hbefore := lookup_eq_none_of_not_mem hnone.1
  refine ⟨?_, _, ⟨nb, na, hb, ha, rfl⟩, ?_, ?_⟩
  · rw [List.getElem?_map, hi, Option.map_some, List.lookup_append, hbefore,
      lookup_eq_none_of_not_mem hnone.2]
    rfl
  · intro k hk
    by_cases hkn : k = n
    · rw [hkn, List.map_append, List.map_cons, List.count_append, List.count_cons_self,
        List.count_eq_zero.mpr hnone.1, List.count_eq_zero.mpr hnone.2]
    · simpa [List.count_cons_of_ne (Ne.symm hkn)] using honce k hk
  · rw [map_eq_set hnodup hi, lookup_insert_self hbefore]
    intro k hk
    exact lookup_insert_of_ne hk v nb na

/-- Without the only member for a field nothing is found in its place. -/
theorem record?_of_insert_of_missing {name : List Symbol} (hname : textOf? name = some n)
    {before after : Members} (hmissing : ∀ m ∈ before ++ after, textOf? m.1 ≠ some n) {v : Document}
    {fs : List (Option Document)}
    (h : record? fields (.object (before ++ (name, v) :: after)) = some fs) :
    record? fields (.object (before ++ after)) = some (fs.set i none) := by
  simp only [record?_object_eq_some_iff, named?_append_eq_some_iff,
    named?_insert_eq_some_iff hname] at h ⊢
  obtain ⟨_, ⟨nb, na, hb, ha, rfl⟩, honce, rfl⟩ := h
  have hnone := not_mem_of_named?_append hmissing hb ha
  have hlookup : List.lookup n (nb ++ na) = none := by
    rw [List.lookup_append, lookup_eq_none_of_not_mem hnone.1, lookup_eq_none_of_not_mem hnone.2]
    rfl
  refine ⟨_, ⟨nb, na, hb, ha, rfl⟩, ?_, ?_⟩
  · intro k hk
    have hsub : (nb ++ na).Sublist (nb ++ (n, v) :: na) :=
      List.Sublist.append_left (List.sublist_cons_self _ _) nb
    exact Nat.le_trans ((hsub.map Prod.fst).count_le k) (honce k hk)
  · rw [map_eq_set hnodup hi, hlookup]
    intro k hk
    exact (lookup_insert_of_ne hk v nb na).symm

/-- A field that is added is found in its place, where there was nothing before. -/
theorem FieldAdded.record?_eq {v : Document} {d d' : Document} (h : FieldAdded n v d d') :
    (∀ fs, d.record? fields = some fs →
      fs[i]? = some none ∧ d'.record? fields = some (fs.set i (some v))) ∧
    ∀ fs, d'.record? fields = some fs →
      fs[i]? = some (some v) ∧ d.record? fields = some (fs.set i none) := by
  cases h with
  | @member before after name hmissing hname =>
      constructor
      · intro fs hfs
        exact record?_insert_of_missing hnodup hi hname hmissing v hfs
      · intro fs hfs
        exact ⟨getElem?_of_insert hi hname v before after hfs,
          record?_of_insert_of_missing hnodup hi hname hmissing hfs⟩

/-- The value of a field that has a property is found in its place. -/
theorem FieldHolds.exists_getElem?_eq {P : Document → Prop} {d : Document}
    (h : FieldHolds fields n P d) {fs : List (Option Document)}
    (hfs : d.record? fields = some fs) : ∃ v, P v ∧ fs[i]? = some (some v) := by
  cases h with
  | @member ms name v hmem hname h =>
      obtain ⟨before, after, rfl⟩ := List.append_of_mem hmem
      exact ⟨v, h, getElem?_of_insert hi hname v before after hfs⟩
  | @item items j v hplace hitem h =>
      have hlt : i < fields.length := (List.getElem?_eq_some_iff.mp hi).1
      obtain rfl : i = j := (List.getElem?_inj hlt hnodup).mp (by rw [hi, hplace])
      rw [record?_array_eq_some_iff] at hfs
      obtain ⟨-, rfl⟩ := hfs
      have hitems : i < items.length := (List.getElem?_eq_some_iff.mp hitem).1
      refine ⟨v, h, ?_⟩
      rw [List.getElem?_append_left (by simpa using hitems), List.getElem?_map, hitem,
        Option.map_some]

end Field

/-! ## Items of arrays -/

/-- A change to an item makes no difference to a reader that gives the same for both. -/
theorem ItemChanged.mapM_items?_eq {α : Type} {read : Document → Option α}
    {R : Document → Document → Prop} (hread : ∀ d d', R d d' → read d' = read d)
    {d d' : Document} (h : ItemChanged R d d') :
    d'.items?.bind (·.mapM read) = d.items?.bind (·.mapM read) := by
  cases h with
  | item h =>
      simp only [items?, Option.bind_some, List.mapM_append, List.mapM_cons, hread _ _ h]

/-- Items are not read if one of them is not. -/
theorem ItemHolds.mapM_items?_eq_none {α : Type} {read : Document → Option α}
    {P : Document → Prop} (hread : ∀ d, P d → read d = none) {d : Document}
    (h : ItemHolds P d) : d.items?.bind (·.mapM read) = none := by
  cases h with
  | @item items d hmem h =>
      obtain ⟨before, after, rfl⟩ := List.append_of_mem hmem
      simp [items?, List.mapM_append, List.mapM_cons, hread d h]

/-! ## Spoiled records -/

/-- A field that is missing is not found. -/
theorem Lacking.none_mem {fields : List String} {d : Document} (h : Lacking fields d)
    {fs : List (Option Document)} (hfs : d.record? fields = some fs) : none ∈ fs := by
  cases h with
  | @member ms n hfield hmissing =>
      obtain ⟨named, hnamed, -, rfl⟩ := (record?_object_eq_some_iff _ _ _).mp hfs
      have hnone := lookup_eq_none_of_not_mem (not_mem_of_named? hnamed hmissing)
      exact List.mem_map.mpr ⟨n, hfield, hnone⟩
  | @item items hshort =>
      obtain ⟨-, rfl⟩ := (record?_array_eq_some_iff _ _ _).mp hfs
      have hne : fields.length - items.length ≠ 0 := by omega
      exact List.mem_append_right _ (List.mem_replicate.mpr ⟨hne, rfl⟩)

/-- A field that comes twice spoils the record. -/
theorem Repeated.record?_eq_none {fields : List String} {d : Document} (h : Repeated fields d) :
    d.record? fields = none := by
  cases h with
  | @members before between after n name name' v v' hfield hname hname' =>
      apply Option.eq_none_iff_forall_ne_some.mpr
      intro fs hfs
      simp only [record?_object_eq_some_iff, named?_insert_eq_some_iff hname,
        named?_insert_eq_some_iff hname'] at hfs
      obtain ⟨_, ⟨nb, _, -, ⟨nm, na, -, -, rfl⟩, rfl⟩, honce, -⟩ := hfs
      have hcount := honce n hfield
      simp only [List.map_append, List.map_cons, List.count_append, List.count_cons_self] at hcount
      omega

end Document
end Json
end ScriptReview
