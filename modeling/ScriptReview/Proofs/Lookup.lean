import Mathlib.Data.List.Basic
import ScriptReview.Exercise.Difficulty
import ScriptReview.Review.Severity

/-!
# Finding by name

A list of members is searched for a name from its beginning, and so is a list of all things that
have a label.

Main results:

* `lookup_eq_find?` says that the first member of a name is found.
* `lookup_insert_self` and `lookup_insert_of_ne` say what a member between others changes.
* `map_eq_set` says that what is found for several names differs in one place only.
* `IssueKind.ofLabel?_eq_some_iff`, `Severity.ofLabel?_eq_some_iff` and
  `Difficulty.ofLabel?_eq_some_iff` say that each label stands for one thing.
-/

namespace ScriptReview

/-! ## Members -/

section Members

variable {α : Type}

/-- The member that is found is the first one of its name. -/
theorem lookup_eq_find? (name : String) (members : List (String × α)) :
    List.lookup name members = (members.find? (·.1 == name)).map Prod.snd := by
  induction members with
  | nil => rfl
  | cons m members ih =>
      rw [List.lookup_cons, List.find?_cons]
      by_cases h : m.1 = name
      · rw [beq_iff_eq.mpr h, beq_iff_eq.mpr h.symm]
        rfl
      · have h' : ¬ name = m.1 := fun heq => h heq.symm
        rw [beq_false_of_ne h, beq_false_of_ne h', ih]

/-- A name that no member has is not found. -/
theorem lookup_eq_none_of_not_mem {name : String} {members : List (String × α)}
    (h : name ∉ members.map Prod.fst) : List.lookup name members = none := by
  rw [List.lookup_eq_none_iff]
  intro m hm
  have hne : name ≠ m.1 := fun heq => h (heq ▸ List.mem_map_of_mem hm)
  simp [hne]

/-- A member between others is found, if none of those before it has its name. -/
theorem lookup_insert_self {name : String} {before : List (String × α)}
    (h : List.lookup name before = none) (a : α) (after : List (String × α)) :
    List.lookup name (before ++ (name, a) :: after) = some a := by
  rw [List.lookup_append, h, List.lookup_cons_self]
  rfl

/-- A member of another name makes no difference. -/
theorem lookup_insert_of_ne {name other : String} (h : name ≠ other) (a : α)
    (before after : List (String × α)) :
    List.lookup name (before ++ (other, a) :: after) = List.lookup name (before ++ after) := by
  rw [List.lookup_append, List.lookup_append, List.lookup_cons, beq_false_of_ne h]

/-- What is found for different names differs in the place of one name only, if it does not differ
for the others. -/
theorem map_eq_set {names : List String} (hnodup : names.Nodup) {i : Nat} {name : String}
    (hi : names[i]? = some name) {f g : String → α} (h : ∀ other ≠ name, g other = f other) :
    names.map g = (names.map f).set i (g name) := by
  apply List.ext_getElem?
  intro j
  rw [List.getElem?_set, List.getElem?_map, List.getElem?_map, List.length_map]
  by_cases hj : i = j
  · have hlt : i < names.length := (List.getElem?_eq_some_iff.mp hi).1
    subst hj
    rw [if_pos rfl, if_pos hlt, hi, Option.map_some]
  · rw [if_neg hj]
    cases hother : names[j]? with
    | none => rfl
    | some other =>
        have hne : other ≠ name := by
          intro heq
          have hlt : i < names.length := (List.getElem?_eq_some_iff.mp hi).1
          exact hj ((List.getElem?_inj hlt hnodup).mp (by rw [hi, hother, heq]))
        rw [Option.map_some, Option.map_some, h other hne]

end Members

/-! ## Labels -/

/-- What is found by a name has the name. -/
theorem eq_label_of_find? {α : Type} {label : α → String} {all : List α} {name : String} {a : α}
    (h : all.find? (label · == name) = some a) : name = label a := by
  have hlabel := List.find?_some h
  exact (eq_of_beq hlabel).symm

/-- A kind is found by its name only. -/
theorem IssueKind.ofLabel?_eq_some_iff (name : String) (k : IssueKind) :
    ofLabel? name = some k ↔ name = k.label :=
  ⟨eq_label_of_find?, by rintro rfl; exact k.ofLabel?_label⟩

/-- A severity is found by its name only. -/
theorem Severity.ofLabel?_eq_some_iff (name : String) (s : Severity) :
    ofLabel? name = some s ↔ name = s.label :=
  ⟨eq_label_of_find?, by rintro rfl; exact s.ofLabel?_label⟩

/-- A difficulty is found by its name only. -/
theorem Difficulty.ofLabel?_eq_some_iff (name : String) (d : Difficulty) :
    ofLabel? name = some d ↔ name = d.label :=
  ⟨eq_label_of_find?, by rintro rfl; exact d.ofLabel?_label⟩

end ScriptReview
