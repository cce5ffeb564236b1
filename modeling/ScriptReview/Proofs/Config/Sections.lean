import ScriptReview.Config.Decode
import ScriptReview.Proofs.Toml.Defaults

/-!
# Sections of configurations

A section of a configuration is a table of settings, and so is a rule.  It is read as if all missing
settings but the catalog were written with their defaults.  What is written is kept as it is.

Main definitions:

* `RuleSettings.defaults`, `ReviewSettings.defaults`, `ExerciseSettings.defaults` and
  `Preferences.defaults` are the defaults as they are written.
* `ReviewSettings.Changed` and its like are changes that leave the meaning of a section, and
  `ReviewSettings.writtenOut` writes all defaults of reviews and their rules at once.
* `ReviewSettings.Says` and its like relate a table to the settings that it describes.
* `ReviewSettings.Faulty` and its like say that a rule lacks a part or that a word means nothing.

Main results:

* `RuleSettings.ofValue?_table`, `ReviewSettings.ofValue?_table` and the lemmas beside them read the
  missing settings like those that are there.
* `RuleSettings.ofValue?_table_eq_some_iff` and its like say what is read from a table.
* `RuleSettings.seesOnly` and its like say that nothing else of a table is seen.
-/

namespace ScriptReview

open Toml

/-! ## Rules -/

namespace RuleSettings

/-- The defaults of a rule. -/
def defaults : Members := [("kind", .string "warning"), ("severity", .string "medium")]

/-- A change that leaves the meaning of a rule. -/
abbrev Changed : Members → Members → Prop :=
  Edited fields defaults

/-- Writes all defaults of some rules. -/
def listWrittenOut : Value → Value
  | .array items => .array (items.map (filledIn defaults))
  | v => v

/-- A table describes a rule. -/
structure Says (members : Members) (r : RuleSettings) : Prop where
  id : List.lookup "id" members = some (.string r.id)
  pattern : List.lookup "pattern" members = some (.string r.pattern)
  kind : ∃ v, given defaults "kind" members = some v ∧ v.Writes r.kind.label
  severity : ∃ v, given defaults "severity" members = some v ∧ v.Writes r.severity.label
  message : List.lookup "message" members = some (.string r.message)

/-- A value is a table that describes a rule. -/
def SaysIn (v : Value) (r : RuleSettings) : Prop :=
  ∃ members, v = .table members ∧ Says members r

/-- A rule lacks its name, its pattern or its message, or has a kind or a severity that there is
not. -/
inductive Faulty (members : Members) : Prop
  | lacking {name : String} (hname : name ∈ ["id", "pattern", "message"])
      (h : List.lookup name members = none)
  | kind {v : Value} {word : String} (h : List.lookup "kind" members = some v)
      (hword : v.Writes word) (hunknown : ∀ k : IssueKind, word ≠ k.label)
  | severity {v : Value} {word : String} (h : List.lookup "severity" members = some v)
      (hword : v.Writes word) (hunknown : ∀ s : Severity, word ≠ s.label)

/-- A rule is read from the settings that are given or have defaults. -/
theorem ofValue?_table (members : Members) :
    ofValue? (.table members) = (do
      let id ← (List.lookup "id" members).bind Value.text?
      let pattern ← (List.lookup "pattern" members).bind Value.text?
      let kind ← (given defaults "kind" members).bind (·.choice? IssueKind.ofLabel?)
      let severity ← (given defaults "severity" members).bind (·.choice? Severity.ofLabel?)
      let message ← (List.lookup "message" members).bind Value.text?
      some { id, pattern, kind, severity, message }) := by
  have hkind : (List.lookup "kind" defaults).bind (·.choice? IssueKind.ofLabel?) =
      some defaultKind := rfl
  have hseverity : (List.lookup "severity" defaults).bind (·.choice? Severity.ofLabel?) =
      some defaultSeverity := rfl
  rw [← optional?_eq_bind_given hkind, ← optional?_eq_bind_given hseverity]
  simp only [ofValue?, Value.fields?, fields, List.map_cons, List.map_nil, Option.bind_eq_bind,
    Option.bind_some]
  cases List.lookup "id" members with
  | none => rfl
  | some id =>
      cases List.lookup "pattern" members with
      | none => simp
      | some pattern =>
          cases List.lookup "message" members with
          | none => simp
          | some message => rfl

/-- A rule is read from a table exactly if the table describes it. -/
theorem ofValue?_table_eq_some_iff (members : Members) (r : RuleSettings) :
    ofValue? (.table members) = some r ↔ Says members r := by
  simp only [ofValue?_table, Option.bind_eq_bind, Option.bind_eq_some_iff, Option.some.injEq,
    Value.text?_eq_some_iff, Value.choice?_eq_some_iff IssueKind.ofLabel?_eq_some_iff,
    Value.choice?_eq_some_iff Severity.ofLabel?_eq_some_iff]
  constructor
  · rintro ⟨_, ⟨_, hid, rfl⟩, _, ⟨_, hpattern, rfl⟩, _, hkind, _, hseverity, _,
      ⟨_, hmessage, rfl⟩, rfl⟩
    exact ⟨hid, hpattern, hkind, hseverity, hmessage⟩
  · intro h
    exact ⟨_, ⟨_, h.id, rfl⟩, _, ⟨_, h.pattern, rfl⟩, _, h.kind, _, h.severity, _,
      ⟨_, h.message, rfl⟩, rfl⟩

/-- Of the table of a rule nothing is seen but its settings. -/
theorem seesOnly : SeesOnly fields defaults fun members => ofValue? (.table members) := by
  intro members members' h
  have hrequired : ∀ name ∈ fields, List.lookup name defaults = none →
      List.lookup name members' = List.lookup name members := by
    intro name hname hnone
    rw [← given_eq_lookup hnone members', ← given_eq_lookup hnone members, h name hname]
  simp only [ofValue?_table]
  rw [hrequired "id" (by decide) rfl, hrequired "pattern" (by decide) rfl,
    hrequired "message" (by decide) rfl, h "kind" (by decide), h "severity" (by decide)]

/-- Rules are read alike if their defaults are written. -/
theorem listOfValue?_listWrittenOut (v : Value) :
    listOfValue? (listWrittenOut v) = listOfValue? v := by
  cases v with
  | array items =>
      have hread : ofValue? ∘ filledIn defaults = ofValue? := funext seesOnly.eq_filledIn
      simp only [listWrittenOut, listOfValue?, Value.items?, Option.bind_some, List.mapM_map, hread]
  | _ => rfl

/-- A spoiled rule is not read. -/
theorem Faulty.ofValue?_eq_none {members : Members} (h : Faulty members) :
    ofValue? (.table members) = none := by
  apply Option.eq_none_iff_forall_ne_some.mpr
  intro r hr
  have hread := (ofValue?_table_eq_some_iff members r).mp hr
  cases h with
  | @lacking name hname h =>
      simp only [List.mem_cons, List.not_mem_nil, or_false] at hname
      rcases hname with rfl | rfl | rfl
      · exact Option.some_ne_none _ (hread.id.symm.trans h)
      · exact Option.some_ne_none _ (hread.pattern.symm.trans h)
      · exact Option.some_ne_none _ (hread.message.symm.trans h)
  | @kind v word h hword hunknown =>
      obtain ⟨v', hgiven, hwrites⟩ := hread.kind
      obtain rfl : v = v' := Option.some.inj ((given_eq_some h defaults).symm.trans hgiven)
      exact hunknown r.kind (hword.eq hwrites)
  | @severity v word h hword hunknown =>
      obtain ⟨v', hgiven, hwrites⟩ := hread.severity
      obtain rfl : v = v' := Option.some.inj ((given_eq_some h defaults).symm.trans hgiven)
      exact hunknown r.severity (hword.eq hwrites)

/-- Rules are read in their order from an array of tables. -/
theorem listOfValue?_eq_some_iff {items : List Value}
    (htables : ∀ item ∈ items, ∃ members, item = .table members) (rules : List RuleSettings) :
    listOfValue? (.array items) = some rules ↔ List.Forall₂ SaysIn items rules := by
  rw [listOfValue?, Value.items?, Option.bind_some, mapM_eq_some_iff_forall₂]
  constructor
  · intro h
    apply ((List.forall₂_and_left _ _).mpr ⟨htables, h⟩).imp
    rintro item r ⟨⟨members, rfl⟩, hr⟩
    exact ⟨members, rfl, (ofValue?_table_eq_some_iff members r).mp hr⟩
  · intro h
    apply h.imp
    rintro item r ⟨members, rfl, hr⟩
    exact (ofValue?_table_eq_some_iff members r).mpr hr

end RuleSettings

/-! ## Reviews -/

namespace ReviewSettings

/-- The defaults of reviews. -/
def defaults : Members :=
  [("fail_on", .string "high"),
    ("extensions", .array [.string "js", .string "jsx", .string "ts", .string "tsx", .string "mjs",
      .string "cjs"]),
    ("custom_rules", .array [])]

/-- A change that leaves the meaning of the settings of reviews. -/
inductive Changed (members members' : Members) : Prop
  | setting (h : Edited fields defaults members members')
  | rule (h : KeyChanged "custom_rules" (InArray (InTable RuleSettings.Changed)) members members')

/-- Writes all defaults of reviews and their rules. -/
def writtenOut : Value → Value
  | .table members =>
    .table (atKey "custom_rules" RuleSettings.listWrittenOut (filled defaults members))
  | v => v

/-- A table describes the settings of reviews. -/
structure Says (members : Members) (s : ReviewSettings) : Prop where
  failOn : ∃ v, given defaults "fail_on" members = some v ∧ v.Writes s.failOn.label
  extensions : given defaults "extensions" members = some (.array (s.extensions.map .string))
  rules : ∃ items, given defaults "custom_rules" members = some (.array items) ∧
    List.Forall₂ RuleSettings.SaysIn items s.rules

/-- A rule is spoiled, or the severity is one that there is not. -/
inductive Faulty (members : Members) : Prop
  | failOn {v : Value} {word : String} (h : List.lookup "fail_on" members = some v)
      (hword : v.Writes word) (hunknown : ∀ s : Severity, word ≠ s.label)
  | rule {items : List Value} {rule : Members}
      (h : List.lookup "custom_rules" members = some (.array items)) (hmem : .table rule ∈ items)
      (hrule : RuleSettings.Faulty rule)

/-- The rules are tables. -/
def InTables (members : Members) : Prop :=
  ∀ items, List.lookup "custom_rules" members = some (.array items) →
    ∀ item ∈ items, ∃ rule, item = .table rule

/-- Settings of reviews are read from those that are given or have defaults. -/
theorem ofValue?_table (members : Members) :
    ofValue? (.table members) = (do
      let failOn ← (given defaults "fail_on" members).bind (·.choice? Severity.ofLabel?)
      let extensions ← (given defaults "extensions" members).bind Value.texts?
      let rules ← (given defaults "custom_rules" members).bind RuleSettings.listOfValue?
      some { failOn, extensions, rules }) := by
  have hfailOn : (List.lookup "fail_on" defaults).bind (·.choice? Severity.ofLabel?) =
      some standard.failOn := rfl
  have hextensions : (List.lookup "extensions" defaults).bind Value.texts? =
      some standard.extensions := rfl
  have hrules : (List.lookup "custom_rules" defaults).bind RuleSettings.listOfValue? =
      some standard.rules := rfl
  rw [← optional?_eq_bind_given hfailOn, ← optional?_eq_bind_given hextensions,
    ← optional?_eq_bind_given hrules]
  rfl

/-- Settings of reviews are read from a table whose rules are tables exactly if it describes
them. -/
theorem ofValue?_table_eq_some_iff {members : Members} (htables : InTables members)
    (s : ReviewSettings) : ofValue? (.table members) = some s ↔ Says members s := by
  simp only [ofValue?_table, Option.bind_eq_bind, Option.bind_eq_some_iff, Option.some.injEq,
    Value.texts?_eq_some_iff, Value.choice?_eq_some_iff Severity.ofLabel?_eq_some_iff]
  have hgiven : ∀ items, given defaults "custom_rules" members = some (.array items) →
      ∀ item ∈ items, ∃ rule, item = .table rule := by
    intro items hitems
    cases hlookup : List.lookup "custom_rules" members with
    | none =>
        have hdefault : given defaults "custom_rules" members = some (.array []) := by
          rw [given, hlookup]
          rfl
        obtain rfl := Value.array.inj (Option.some.inj (hdefault.symm.trans hitems))
        simp
    | some v =>
        rw [given_eq_some hlookup] at hitems
        exact htables items (hlookup.trans hitems)
  constructor
  · rintro ⟨_, hfailOn, _, ⟨_, hextensions, rfl⟩, _, ⟨v, hv, hrules⟩, rfl⟩
    obtain ⟨items, hitems, -⟩ := Option.bind_eq_some_iff.mp hrules
    obtain rfl := (Value.items?_eq_some_iff v items).mp hitems
    exact ⟨hfailOn, hextensions, items, hv,
      (RuleSettings.listOfValue?_eq_some_iff (hgiven items hv) _).mp hrules⟩
  · intro h
    obtain ⟨items, hitems, hrules⟩ := h.rules
    exact ⟨_, h.failOn, _, ⟨_, h.extensions, rfl⟩, _, ⟨_, hitems,
      (RuleSettings.listOfValue?_eq_some_iff (hgiven items hitems) _).mpr hrules⟩, rfl⟩

/-- Of the table of reviews nothing is seen but the settings. -/
theorem seesOnly : SeesOnly fields defaults fun members => ofValue? (.table members) := by
  intro members members' h
  simp only [ofValue?_table]
  rw [h "fail_on" (by decide), h "extensions" (by decide), h "custom_rules" (by decide)]

/-- Settings of reviews are read alike after a change that leaves their meaning. -/
theorem ofValue?_of_changed {v v' : Value} (h : InTable Changed v v') :
    ofValue? v' = ofValue? v := by
  cases h with
  | members h =>
      cases h with
      | setting h => exact seesOnly.eq_of_edited h
      | rule h =>
          have hrules : ∀ v v', InArray (InTable RuleSettings.Changed) v v' →
              RuleSettings.listOfValue? v' = RuleSettings.listOfValue? v := by
            intro v v' hv
            exact hv.mapM_items?_eq fun r r' hr => RuleSettings.seesOnly.eq_of_inTable hr
          rw [ofValue?_table, ofValue?_table, h.given_eq (by decide : "fail_on" ≠ "custom_rules"),
            h.given_eq (by decide : "extensions" ≠ "custom_rules"), h.bind_given_eq hrules]

/-- Settings of reviews are read alike if their defaults are written. -/
theorem ofValue?_writtenOut (v : Value) : ofValue? (writtenOut v) = ofValue? v := by
  cases v with
  | table members =>
      have hother : ∀ name, name ≠ "custom_rules" →
          given defaults name
            (atKey "custom_rules" RuleSettings.listWrittenOut (filled defaults members)) =
          given defaults name members := by
        intro name hname
        rw [given_atKey_of_ne hname, given_filled]
      rw [writtenOut, ofValue?_table, ofValue?_table, hother "fail_on" (by decide),
        hother "extensions" (by decide),
        bind_given_atKey RuleSettings.listOfValue?_listWrittenOut, given_filled]
  | _ => rfl

/-- Spoiled settings of reviews are not read. -/
theorem Faulty.ofValue?_eq_none {members : Members} (h : Faulty members) :
    ofValue? (.table members) = none := by
  rw [ofValue?_table]
  cases h with
  | failOn h hword hunknown =>
      rw [given_eq_some h, Option.bind_some,
        hword.choice?_eq_none Severity.ofLabel?_eq_some_iff hunknown]
      rfl
  | @rule items rule h hmem hrule =>
      have hrules : RuleSettings.listOfValue? (.array items) = none := by
        obtain ⟨before, after, rfl⟩ := List.append_of_mem hmem
        simp [RuleSettings.listOfValue?, Value.items?, List.mapM_append, List.mapM_cons,
          hrule.ofValue?_eq_none]
      rw [given_eq_some h, Option.bind_some, hrules]
      simp

end ReviewSettings

/-! ## Exercises -/

namespace ExerciseSettings

/-- The defaults of exercises. There is none for the catalog. -/
def defaults : Members := [("default_difficulty", .string "easy")]

/-- A change that leaves the meaning of the settings of exercises. -/
abbrev Changed : Members → Members → Prop :=
  Edited fields defaults

/-- A table describes the settings of exercises. -/
structure Says (members : Members) (s : ExerciseSettings) : Prop where
  difficulty : ∃ v, given defaults "default_difficulty" members = some v ∧
    v.Writes s.difficulty.label
  catalog : List.lookup "catalog" members = s.catalog.map .string

/-- The difficulty is one that there is not. -/
inductive Faulty (members : Members) : Prop
  | difficulty {v : Value} {word : String}
      (h : List.lookup "default_difficulty" members = some v) (hword : v.Writes word)
      (hunknown : ∀ d : Difficulty, word ≠ d.label)

/-- Reads the catalog, if there is one. -/
def catalog? (v : Option Value) : Option (Option String) :=
  optional? standard.catalog (fun v => v.text?.map some) v

/-- A catalog is read exactly if it is written, as a string. -/
theorem catalog?_eq_some_iff (v : Option Value) (catalog : Option String) :
    catalog? v = some catalog ↔ v = catalog.map .string := by
  cases v with
  | none =>
      rw [catalog?, optional?_none, Option.some.injEq, eq_comm (a := none),
        Option.map_eq_none_iff]
      exact eq_comm
  | some v =>
      cases catalog with
      | none => simp [catalog?]
      | some path => simp [catalog?, Value.text?_eq_some_iff]

/-- Settings of exercises are read from those that are given or have defaults. -/
theorem ofValue?_table (members : Members) :
    ofValue? (.table members) = (do
      let difficulty ←
        (given defaults "default_difficulty" members).bind (·.choice? Difficulty.ofLabel?)
      let catalog ← catalog? (List.lookup "catalog" members)
      some { difficulty, catalog }) := by
  have hdifficulty : (List.lookup "default_difficulty" defaults).bind
      (·.choice? Difficulty.ofLabel?) = some standard.difficulty := rfl
  rw [← optional?_eq_bind_given hdifficulty]
  rfl

/-- Settings of exercises are read from a table exactly if it describes them. -/
theorem ofValue?_table_eq_some_iff (members : Members) (s : ExerciseSettings) :
    ofValue? (.table members) = some s ↔ Says members s := by
  simp only [ofValue?_table, Option.bind_eq_bind, Option.bind_eq_some_iff, Option.some.injEq,
    Value.choice?_eq_some_iff Difficulty.ofLabel?_eq_some_iff, catalog?_eq_some_iff]
  constructor
  · rintro ⟨_, hdifficulty, _, hcatalog, rfl⟩
    exact ⟨hdifficulty, hcatalog⟩
  · intro h
    exact ⟨_, h.difficulty, _, h.catalog, rfl⟩

/-- Of the table of exercises nothing is seen but the settings. -/
theorem seesOnly : SeesOnly fields defaults fun members => ofValue? (.table members) := by
  intro members members' h
  have hcatalog : List.lookup "catalog" members' = List.lookup "catalog" members := by
    have hnone : List.lookup "catalog" defaults = none := rfl
    rw [← given_eq_lookup hnone members', ← given_eq_lookup hnone members,
      h "catalog" (by decide)]
  simp only [ofValue?_table]
  rw [h "default_difficulty" (by decide), hcatalog]

/-- Spoiled settings of exercises are not read. -/
theorem Faulty.ofValue?_eq_none {members : Members} (h : Faulty members) :
    ofValue? (.table members) = none := by
  rw [ofValue?_table]
  cases h with
  | difficulty h hword hunknown =>
      rw [given_eq_some h, Option.bind_some,
        hword.choice?_eq_none Difficulty.ofLabel?_eq_some_iff hunknown]
      rfl

end ExerciseSettings

/-! ## Preferences -/

namespace Preferences

/-- The defaults of preferences. -/
def defaults : Members := [("color", .bool true)]

/-- A change that leaves the meaning of preferences. -/
abbrev Changed : Members → Members → Prop :=
  Edited fields defaults

/-- A table describes preferences. -/
structure Says (members : Members) (p : Preferences) : Prop where
  color : given defaults "color" members = some (.bool p.color)

/-- Preferences are read from those that are given or have defaults. -/
theorem ofValue?_table (members : Members) :
    ofValue? (.table members) = (do
      let color ← (given defaults "color" members).bind Value.bool?
      some { color }) := by
  have hcolor : (List.lookup "color" defaults).bind Value.bool? = some standard.color := rfl
  rw [← optional?_eq_bind_given hcolor]
  rfl

/-- Preferences are read from a table exactly if it describes them. -/
theorem ofValue?_table_eq_some_iff (members : Members) (p : Preferences) :
    ofValue? (.table members) = some p ↔ Says members p := by
  simp only [ofValue?_table, Option.bind_eq_bind, Option.bind_eq_some_iff, Option.some.injEq,
    Value.bool?_eq_some_iff]
  constructor
  · rintro ⟨_, ⟨_, hcolor, rfl⟩, rfl⟩
    exact ⟨hcolor⟩
  · intro h
    exact ⟨_, ⟨_, h.color, rfl⟩, rfl⟩

/-- Of the table of preferences nothing is seen but the settings. -/
theorem seesOnly : SeesOnly fields defaults fun members => ofValue? (.table members) := by
  intro members members' h
  simp only [ofValue?_table]
  rw [h "color" (by decide)]

end Preferences

end ScriptReview
