import ScriptReview.Proofs.Lookup
import ScriptReview.Proofs.Traversal
import ScriptReview.Toml.Decode

/-!
# Tables with defaults

A key that is missing from a table has a default.  A table is read as if the defaults of all missing
keys were written in it, hence it makes no difference if some of them are, nor whether there are
keys that mean nothing.

Main definitions:

* `Toml.given` is the value of a key, or its default.
* `Toml.filled` and `Toml.filledIn` write the defaults of the missing keys, and `Toml.atKey` changes
  the value of a key.
* `Toml.Edited` writes one default, or adds a key that means nothing; `Toml.KeyChanged`,
  `Toml.InTable` and `Toml.InArray` lead to the place of such a change.
* `Toml.SeesOnly` says that a reader uses the values, or defaults, of some keys only.
* `Toml.Value.Writes` says that a value is a word.

Main results:

* `Toml.optional?_eq_bind_given` says that a default is read like a value that is written.
* `Toml.Edited.given_eq` and `Toml.KeyChanged.bind_given_eq` say what is found after a change.
* `Toml.SeesOnly.eq_of_inTable` and `Toml.SeesOnly.eq_filledIn` say that such a reader sees none.
* `Toml.Value.choice?_eq_some_iff` says which values are read as a name.
-/

namespace ScriptReview
namespace Toml

/-- The keys of a table with their values. -/
abbrev Members := List (String × Value)

/-- The value of a key, or its default. -/
def given (defaults : Members) (name : String) (members : Members) : Option Value :=
  (List.lookup name members).or (List.lookup name defaults)

/-- A field is read like its default where it is missing, if the default is read as it should be. -/
theorem optional?_eq_bind_given {α : Type} {default : α} {read : Value → Option α}
    {defaults : Members} {name : String}
    (h : (List.lookup name defaults).bind read = some default) (members : Members) :
    optional? default read (List.lookup name members) =
      (given defaults name members).bind read := by
  unfold given
  cases List.lookup name members with
  | none => rw [optional?_none, Option.none_or, h]
  | some v => rw [optional?_some, Option.some_or, Option.bind_some]

/-- A key without a default has the value that is written. -/
theorem given_eq_lookup {defaults : Members} {name : String}
    (h : List.lookup name defaults = none) (members : Members) :
    given defaults name members = List.lookup name members := by
  rw [given, h, Option.or_none]

/-- A key that is written has the value that is written. -/
theorem given_eq_some {members : Members} {name : String} {v : Value}
    (h : List.lookup name members = some v) (defaults : Members) :
    given defaults name members = some v := by
  rw [given, h, Option.some_or]

/-! ## Writing defaults -/

/-- A table in which the defaults of all missing keys are written. -/
def filled (defaults members : Members) : Members :=
  members ++ defaults.filter fun d => (List.lookup d.1 members).isNone

/-- Writes the defaults of all missing keys of a value that is a table. -/
def filledIn (defaults : Members) : Value → Value
  | .table members => .table (filled defaults members)
  | v => v

/-- Changes the values of a key. -/
def atKey (name : String) (change : Value → Value) (members : Members) : Members :=
  members.map fun m => if m.1 = name then (m.1, change m.2) else m

/-- What is written for a missing key is its default. -/
theorem lookup_filled (defaults members : Members) (name : String) :
    List.lookup name (filled defaults members) = given defaults name members := by
  rw [filled, given, List.lookup_append]
  cases h : List.lookup name members with
  | some v => rw [Option.some_or, Option.some_or]
  | none =>
      have hkeep : ∀ d : String × Value, d.1 == name → (List.lookup d.1 members).isNone := by
        intro d hd
        rw [eq_of_beq hd, h]
        rfl
      rw [Option.none_or, Option.none_or, lookup_eq_find?, lookup_eq_find?, List.find?_filter]
      congr 2
      funext d
      specialize hkeep d
      cases hd : d.1 == name with
      | false => simp
      | true => simp [hkeep hd]

/-- Defaults that are written are read as before. -/
theorem given_filled (defaults members : Members) (name : String) :
    given defaults name (filled defaults members) = given defaults name members := by
  rw [given, lookup_filled, given, Option.or_assoc, Option.or_self]

/-- The value of a key is changed. -/
theorem lookup_atKey_self (name : String) (change : Value → Value) (members : Members) :
    List.lookup name (atKey name change members) = (List.lookup name members).map change := by
  induction members with
  | nil => rfl
  | cons m members ih =>
      rw [atKey, List.map_cons, ← atKey]
      by_cases h : m.1 = name
      · rw [if_pos h, ← h, List.lookup_cons_self, List.lookup_cons, beq_self_eq_true]
        rfl
      · have h' : ¬ name = m.1 := fun heq => h heq.symm
        rw [if_neg h, List.lookup_cons, List.lookup_cons, beq_false_of_ne h', ih]

/-- The values of other keys are not changed. -/
theorem lookup_atKey_of_ne {name other : String} (h : other ≠ name) (change : Value → Value)
    (members : Members) :
    List.lookup other (atKey name change members) = List.lookup other members := by
  induction members with
  | nil => rfl
  | cons m members ih =>
      rw [atKey, List.map_cons, ← atKey]
      by_cases hm : m.1 = name
      · rw [if_pos hm, List.lookup_cons, List.lookup_cons, ih, hm, beq_false_of_ne h]
      · rw [if_neg hm, List.lookup_cons, List.lookup_cons, ih]

/-- Other keys keep their values. -/
theorem given_atKey_of_ne {name other : String} (h : other ≠ name) (change : Value → Value)
    (defaults members : Members) :
    given defaults other (atKey name change members) = given defaults other members := by
  rw [given, lookup_atKey_of_ne h, given]

/-- Other values of a key make no difference if they are read alike. -/
theorem bind_given_atKey {α : Type} {read : Value → Option α} {change : Value → Value}
    (hread : ∀ v, read (change v) = read v) (defaults : Members) (name : String)
    (members : Members) :
    (given defaults name (atKey name change members)).bind read =
      (given defaults name members).bind read := by
  rw [given, lookup_atKey_self, given]
  cases List.lookup name members with
  | none => rfl
  | some v => exact hread v

/-! ## Single changes -/

/-- A change that leaves the meaning of a table: the default of a missing key is written, or a key
is added that means nothing. -/
inductive Edited (fields : List String) (defaults : Members) : Members → Members → Prop
  | written {before after : Members} {name : String} {v : Value}
      (hmissing : List.lookup name (before ++ after) = none)
      (hdefault : List.lookup name defaults = some v) :
      Edited fields defaults (before ++ after) (before ++ (name, v) :: after)
  | added {before after : Members} {name : String} (v : Value) (hother : name ∉ fields) :
      Edited fields defaults (before ++ after) (before ++ (name, v) :: after)

/-- The value of a key is changed. -/
inductive KeyChanged (name : String) (R : Value → Value → Prop) : Members → Members → Prop
  | value {before after : Members} {v v' : Value} (h : R v v') :
      KeyChanged name R (before ++ (name, v) :: after) (before ++ (name, v') :: after)

/-- A table is changed. -/
inductive InTable (R : Members → Members → Prop) : Value → Value → Prop
  | members {members members' : Members} (h : R members members') :
      InTable R (.table members) (.table members')

/-- An item of an array is changed. -/
inductive InArray (R : Value → Value → Prop) : Value → Value → Prop
  | item {before after : List Value} {v v' : Value} (h : R v v') :
      InArray R (.array (before ++ v :: after)) (.array (before ++ v' :: after))

/-- The fields have the same values, or defaults, after such a change. -/
theorem Edited.given_eq {fields : List String} {defaults members members' : Members}
    (h : Edited fields defaults members members') {name : String} (hname : name ∈ fields) :
    given defaults name members' = given defaults name members := by
  cases h with
  | @written before after key v hmissing hdefault =>
      by_cases heq : name = key
      · have hbefore : List.lookup key before = none := by
          rw [List.lookup_append, Option.or_eq_none_iff] at hmissing
          exact hmissing.1
        rw [given, given, heq, lookup_insert_self hbefore, hmissing, hdefault]
        rfl
      · rw [given, given, lookup_insert_of_ne heq]
  | @added before after key v hother =>
      have hne : name ≠ key := by
        intro heq
        exact hother (heq ▸ hname)
      rw [given, given, lookup_insert_of_ne hne]

/-- Other keys keep their values. -/
theorem KeyChanged.given_eq {name : String} {R : Value → Value → Prop} {members members' : Members}
    (h : KeyChanged name R members members') {other : String} (hne : other ≠ name)
    (defaults : Members) : given defaults other members' = given defaults other members := by
  cases h with
  | value h => rw [given, given, lookup_insert_of_ne hne, lookup_insert_of_ne hne]

/-- Another value of a key makes no difference if it is read alike. -/
theorem KeyChanged.bind_given_eq {α : Type} {read : Value → Option α} {name : String}
    {R : Value → Value → Prop} (hread : ∀ v v', R v v' → read v' = read v)
    {members members' : Members} (h : KeyChanged name R members members') (defaults : Members) :
    (given defaults name members').bind read = (given defaults name members).bind read := by
  cases h with
  | @value before after v v' h =>
      rw [given, given, List.lookup_append, List.lookup_append, List.lookup_cons_self,
        List.lookup_cons_self]
      cases List.lookup name before with
      | none => exact hread v v' h
      | some _ => rfl

/-- Another item makes no difference if it is read alike. -/
theorem InArray.mapM_items?_eq {α : Type} {read : Value → Option α} {R : Value → Value → Prop}
    (hread : ∀ v v', R v v' → read v' = read v) {v v' : Value} (h : InArray R v v') :
    v'.items?.bind (·.mapM read) = v.items?.bind (·.mapM read) := by
  cases h with
  | item h =>
      simp only [Value.items?, Option.bind_some, List.mapM_append, List.mapM_cons, hread _ _ h]

/-! ## Readers -/

/-- A reader sees nothing of a table but the values, or defaults, of the fields. -/
def SeesOnly {α : Type} (fields : List String) (defaults : Members) (read : Members → Option α) :
    Prop :=
  ∀ members members', (∀ name ∈ fields,
    given defaults name members' = given defaults name members) → read members' = read members

namespace SeesOnly

variable {α : Type} {fields : List String} {defaults : Members}

/-- A table is read alike after a change that leaves its meaning. -/
theorem eq_of_edited {read : Members → Option α} (h : SeesOnly fields defaults read)
    {members members' : Members} (hedited : Edited fields defaults members members') :
    read members' = read members := by
  apply h
  intro name hname
  exact hedited.given_eq hname

/-- A value is read alike after a change that leaves the meaning of its table. -/
theorem eq_of_inTable {read : Value → Option α}
    (h : SeesOnly fields defaults fun members => read (.table members)) {v v' : Value}
    (hchanged : InTable (Edited fields defaults) v v') : read v' = read v := by
  cases hchanged with
  | members hedited => exact h.eq_of_edited hedited

/-- A value is read alike if the defaults of its table are written. -/
theorem eq_filledIn {read : Value → Option α}
    (h : SeesOnly fields defaults fun members => read (.table members)) (v : Value) :
    read (filledIn defaults v) = read v := by
  cases v with
  | table members =>
      apply h
      intro name _
      exact given_filled defaults members name
  | _ => rfl

end SeesOnly

/-! ## Reading values -/

namespace Value

/-- A value is a word: a string, or a table with the word as its only key and nothing in it. -/
inductive Writes (word : String) : Value → Prop
  | string : Writes word (.string word)
  | table {v : Value} (h : v.isHollow = true) : Writes word (.table [(word, v)])

/-- A value is one word only. -/
theorem Writes.eq {word word' : String} {v : Value} (h : v.Writes word) (h' : v.Writes word') :
    word = word' := by
  cases h with
  | string =>
      cases h' with
      | string => rfl
  | table _ =>
      cases h' with
      | table _ => rfl

/-- A word is looked up. -/
theorem Writes.choice?_eq {word : String} {v : Value} (h : v.Writes word) {α : Type}
    (find : String → Option α) : v.choice? find = find word := by
  cases h with
  | string => rfl
  | table h => rw [choice?, if_pos h]

/-- A word that is no label is no name. -/
theorem Writes.choice?_eq_none {α : Type} {find : String → Option α} {label : α → String}
    (hfind : ∀ name a, find name = some a ↔ name = label a) {word : String} {v : Value}
    (h : v.Writes word) (hunknown : ∀ a, word ≠ label a) : v.choice? find = none := by
  rw [h.choice?_eq]
  apply Option.eq_none_iff_forall_ne_some.mpr
  intro a ha
  exact hunknown a ((hfind word a).mp ha)

/-- A name is read from the values that are its label. -/
theorem choice?_eq_some_iff {α : Type} {find : String → Option α} {label : α → String}
    (hfind : ∀ name a, find name = some a ↔ name = label a) (v : Value) (a : α) :
    v.choice? find = some a ↔ v.Writes (label a) := by
  constructor
  · intro h
    unfold choice? at h
    split at h
    · rw [(hfind _ _).mp h]
      exact .string
    · obtain ⟨hhollow, hname⟩ := Option.ite_none_right_eq_some.mp h
      rw [(hfind _ _).mp hname]
      exact .table hhollow
    · contradiction
  · intro h
    rw [h.choice?_eq, hfind]

/-- A string is read from the value that it is. -/
theorem text?_eq_some_iff (v : Value) (s : String) : v.text? = some s ↔ v = .string s := by
  cases v with
  | string s' => simp [text?]
  | _ => simp [text?]

/-- A truth value is read from the value that it is. -/
theorem bool?_eq_some_iff (v : Value) (b : Bool) : v.bool? = some b ↔ v = .bool b := by
  cases v with
  | bool b' => simp [bool?]
  | _ => simp [bool?]

/-- Items are read from an array. -/
theorem items?_eq_some_iff (v : Value) (items : List Value) :
    v.items? = some items ↔ v = .array items := by
  cases v with
  | array items' => simp [items?]
  | _ => simp [items?]

/-- Strings are read from the array of them. -/
theorem texts?_eq_some_iff (v : Value) (ss : List String) :
    v.texts? = some ss ↔ v = .array (ss.map .string) := by
  have hitems : ∀ items : List Value,
      items.mapM text? = some ss ↔ items = ss.map .string := by
    intro items
    simp only [mapM_eq_some_iff_forall₂, text?_eq_some_iff]
    rw [← List.forall₂_map_right_iff, List.forall₂_eq_eq_eq]
  simp only [texts?, Option.bind_eq_some_iff, items?_eq_some_iff, hitems]
  constructor
  · rintro ⟨_, rfl, rfl⟩
    rfl
  · rintro rfl
    exact ⟨_, rfl, rfl⟩

end Value
end Toml
end ScriptReview
