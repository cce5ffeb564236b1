import Mathlib.Logic.Relation
import ScriptReview.Proofs.Config.Sections

/-!
# Settings and their defaults

A configuration is read as if every missing setting but the catalog was written with its default,
and every missing section was there.  What is written is kept as it is, keys that mean nothing are
not seen, and a rule that lacks a part or a word that means nothing is a fault of the whole text.

Main definitions:

* `Config.Changed` is a change that leaves the meaning of a configuration, and `Config.writtenOut`
  writes all defaults at once.
* `Config.Says` relates a table to the configuration that it describes.
* `Config.Faulty` says that a rule lacks a part or that a word means nothing.

Main results:

* `Config.ofTable?_eq` reads the missing sections like those that are there.
* `Config.ofTable?_eq_some_iff` says which configuration is read from a table.
* `Config.ofText_of_settings` relates texts to their configurations.
-/

namespace ScriptReview

open Toml

namespace Config

/-- The names of the sections. -/
def fields : List String := ["analysis", "exercise", "preferences"]

/-- A section that is missing is empty. -/
def defaults : Members :=
  [("analysis", .table []), ("exercise", .table []), ("preferences", .table [])]

/-- The sections with the defaults of their settings. -/
def sections : List (String × Members) :=
  [("analysis", ReviewSettings.defaults), ("exercise", ExerciseSettings.defaults),
    ("preferences", Preferences.defaults)]

/-- Writes all defaults of a configuration. -/
def writtenOut (members : Members) : Members :=
  atKey "analysis" ReviewSettings.writtenOut <|
    atKey "exercise" (filledIn ExerciseSettings.defaults) <|
      atKey "preferences" (filledIn Preferences.defaults) <| filled defaults members

/-- A change that leaves the meaning of a configuration: a missing section is there but empty, or
has all its defaults, a missing setting of a section or of a rule is written with its default, a key
is added that means nothing, or all defaults are written at once. -/
inductive Changed : Members → Members → Prop
  | missing {members members' : Members} (h : Edited fields defaults members members') :
      Changed members members'
  | sections {before after settings : Members} {name : String}
      (hsection : (name, settings) ∈ sections)
      (hmissing : List.lookup name (before ++ after) = none) :
      Changed (before ++ after) (before ++ (name, .table settings) :: after)
  | review {members members' : Members}
      (h : KeyChanged "analysis" (InTable ReviewSettings.Changed) members members') :
      Changed members members'
  | exercise {members members' : Members}
      (h : KeyChanged "exercise" (InTable ExerciseSettings.Changed) members members') :
      Changed members members'
  | preferences {members members' : Members}
      (h : KeyChanged "preferences" (InTable Preferences.Changed) members members') :
      Changed members members'
  | all (members : Members) : Changed members (writtenOut members)

/-- The sections and the rules are tables. -/
structure InTables (members : Members) : Prop where
  review : ∃ review, given defaults "analysis" members = some (.table review) ∧
    ReviewSettings.InTables review
  exercise : ∃ exercise, given defaults "exercise" members = some (.table exercise)
  preferences : ∃ preferences, given defaults "preferences" members = some (.table preferences)

/-- A table describes a configuration. No directory is said. -/
structure Says (members : Members) (c : Config) : Prop where
  review : ∃ review, given defaults "analysis" members = some (.table review) ∧
    ReviewSettings.Says review c.review
  exercise : ∃ exercise, given defaults "exercise" members = some (.table exercise) ∧
    ExerciseSettings.Says exercise c.exercise
  preferences : ∃ preferences, given defaults "preferences" members = some (.table preferences) ∧
    Preferences.Says preferences c.preferences
  directory : c.directory = none

/-- A rule is spoiled, or a word of a section is one that there is not. -/
inductive Faulty (members : Members) : Prop
  | review {review : Members} (h : List.lookup "analysis" members = some (.table review))
      (hreview : ReviewSettings.Faulty review)
  | exercise {exercise : Members} (h : List.lookup "exercise" members = some (.table exercise))
      (hexercise : ExerciseSettings.Faulty exercise)

/-- A configuration is read from the sections that are there or empty. -/
theorem ofTable?_eq (members : Members) :
    ofTable? members = (do
      let review ← (given defaults "analysis" members).bind ReviewSettings.ofValue?
      let exercise ← (given defaults "exercise" members).bind ExerciseSettings.ofValue?
      let preferences ← (given defaults "preferences" members).bind Preferences.ofValue?
      some { review, exercise, preferences, directory := none }) := by
  have hreview : (List.lookup "analysis" defaults).bind ReviewSettings.ofValue? =
      some .standard := rfl
  have hexercise : (List.lookup "exercise" defaults).bind ExerciseSettings.ofValue? =
      some .standard := rfl
  have hpreferences : (List.lookup "preferences" defaults).bind Preferences.ofValue? =
      some .standard := rfl
  rw [← optional?_eq_bind_given hreview, ← optional?_eq_bind_given hexercise,
    ← optional?_eq_bind_given hpreferences]
  rfl

/-- A configuration is read from a table whose sections and rules are tables exactly if it describes
them. -/
theorem ofTable?_eq_some_iff {members : Members} (htables : InTables members) (c : Config) :
    ofTable? members = some c ↔ Says members c := by
  obtain ⟨review, hreview, hrules⟩ := htables.review
  obtain ⟨exercise, hexercise⟩ := htables.exercise
  obtain ⟨preferences, hpreferences⟩ := htables.preferences
  simp only [ofTable?_eq, hreview, hexercise, hpreferences, Option.bind_eq_bind, Option.bind_some,
    Option.bind_eq_some_iff, Option.some.injEq, ReviewSettings.ofValue?_table_eq_some_iff hrules,
    ExerciseSettings.ofValue?_table_eq_some_iff, Preferences.ofValue?_table_eq_some_iff]
  constructor
  · rintro ⟨_, hr, _, he, _, hp, rfl⟩
    exact ⟨⟨review, hreview, hr⟩, ⟨exercise, hexercise, he⟩, ⟨preferences, hpreferences, hp⟩, rfl⟩
  · intro h
    obtain ⟨review', hreview', hr⟩ := h.review
    obtain rfl := Value.table.inj (Option.some.inj (hreview.symm.trans hreview'))
    obtain ⟨exercise', hexercise', he⟩ := h.exercise
    obtain rfl := Value.table.inj (Option.some.inj (hexercise.symm.trans hexercise'))
    obtain ⟨preferences', hpreferences', hp⟩ := h.preferences
    obtain rfl := Value.table.inj (Option.some.inj (hpreferences.symm.trans hpreferences'))
    refine ⟨c.review, hr, c.exercise, he, c.preferences, hp, ?_⟩
    rw [← h.directory]

/-- Of the table of a configuration nothing is seen but the sections. -/
theorem seesOnly : SeesOnly fields defaults ofTable? := by
  intro members members' h
  rw [ofTable?_eq, ofTable?_eq, h "analysis" (by decide), h "exercise" (by decide),
    h "preferences" (by decide)]

section Section

variable {R : Value → Value → Prop} {members members' : Members}

/-- Another section about reviews makes no difference if it is read alike. -/
theorem ofTable?_of_review
    (hread : ∀ v v', R v v' → ReviewSettings.ofValue? v' = ReviewSettings.ofValue? v)
    (h : KeyChanged "analysis" R members members') : ofTable? members' = ofTable? members := by
  rw [ofTable?_eq, ofTable?_eq, h.given_eq (by decide : "exercise" ≠ "analysis"),
    h.given_eq (by decide : "preferences" ≠ "analysis"), h.bind_given_eq hread]

/-- Another section about exercises makes no difference if it is read alike. -/
theorem ofTable?_of_exercise
    (hread : ∀ v v', R v v' → ExerciseSettings.ofValue? v' = ExerciseSettings.ofValue? v)
    (h : KeyChanged "exercise" R members members') : ofTable? members' = ofTable? members := by
  rw [ofTable?_eq, ofTable?_eq, h.given_eq (by decide : "analysis" ≠ "exercise"),
    h.given_eq (by decide : "preferences" ≠ "exercise"), h.bind_given_eq hread]

/-- Another section about preferences makes no difference if it is read alike. -/
theorem ofTable?_of_preferences
    (hread : ∀ v v', R v v' → Preferences.ofValue? v' = Preferences.ofValue? v)
    (h : KeyChanged "preferences" R members members') : ofTable? members' = ofTable? members := by
  rw [ofTable?_eq, ofTable?_eq, h.given_eq (by decide : "analysis" ≠ "preferences"),
    h.given_eq (by decide : "exercise" ≠ "preferences"), h.bind_given_eq hread]

end Section

/-- A section that is missing may have all its settings with their defaults. -/
theorem ofTable?_insert_section {name : String} {settings : Members}
    (hsection : (name, settings) ∈ sections) {before after : Members}
    (hmissing : List.lookup name (before ++ after) = none) :
    ofTable? (before ++ (name, .table settings) :: after) = ofTable? (before ++ after) := by
  simp only [sections, List.mem_cons, List.not_mem_nil, or_false, Prod.mk.injEq] at hsection
  -- The section is there but empty first, so that only its value has to be changed.
  have hempty : ofTable? (before ++ (name, .table []) :: after) = ofTable? (before ++ after) := by
    apply seesOnly.eq_of_edited
    refine .written hmissing ?_
    rcases hsection with ⟨rfl, -⟩ | ⟨rfl, -⟩ | ⟨rfl, -⟩ <;> rfl
  rw [← hempty]
  rcases hsection with ⟨rfl, rfl⟩ | ⟨rfl, rfl⟩ | ⟨rfl, rfl⟩
  · exact ofTable?_of_review (R := fun v v' => v = .table [] ∧ v' = .table ReviewSettings.defaults)
      (by rintro _ _ ⟨rfl, rfl⟩; rfl) (.value ⟨rfl, rfl⟩)
  · exact ofTable?_of_exercise
      (R := fun v v' => v = .table [] ∧ v' = .table ExerciseSettings.defaults)
      (by rintro _ _ ⟨rfl, rfl⟩; rfl) (.value ⟨rfl, rfl⟩)
  · exact ofTable?_of_preferences
      (R := fun v v' => v = .table [] ∧ v' = .table Preferences.defaults)
      (by rintro _ _ ⟨rfl, rfl⟩; rfl) (.value ⟨rfl, rfl⟩)

/-- A configuration is read alike if all defaults are written. -/
theorem ofTable?_writtenOut (members : Members) :
    ofTable? (writtenOut members) = ofTable? members := by
  rw [ofTable?_eq, ofTable?_eq, writtenOut, bind_given_atKey ReviewSettings.ofValue?_writtenOut,
    given_atKey_of_ne (by decide : "analysis" ≠ "exercise"),
    given_atKey_of_ne (by decide : "analysis" ≠ "preferences"),
    given_atKey_of_ne (by decide : "exercise" ≠ "analysis"),
    bind_given_atKey ExerciseSettings.seesOnly.eq_filledIn,
    given_atKey_of_ne (by decide : "exercise" ≠ "preferences"),
    given_atKey_of_ne (by decide : "preferences" ≠ "analysis"),
    given_atKey_of_ne (by decide : "preferences" ≠ "exercise"),
    bind_given_atKey Preferences.seesOnly.eq_filledIn]
  simp only [given_filled]

/-- A configuration is read alike after a change that leaves its meaning. -/
theorem Changed.ofTable?_eq {members members' : Members} (h : Changed members members') :
    ofTable? members' = ofTable? members := by
  cases h with
  | missing h => exact seesOnly.eq_of_edited h
  | sections hsection hmissing => exact ofTable?_insert_section hsection hmissing
  | review h => exact ofTable?_of_review (fun v v' => ReviewSettings.ofValue?_of_changed) h
  | exercise h => exact ofTable?_of_exercise (fun v v' => ExerciseSettings.seesOnly.eq_of_inTable) h
  | preferences h =>
      exact ofTable?_of_preferences (fun v v' => Preferences.seesOnly.eq_of_inTable) h
  | all members => exact ofTable?_writtenOut members

/-- A configuration is read alike after any number of changes. -/
theorem ofTable?_of_changes {members members' : Members}
    (h : Relation.EqvGen Changed members members') : ofTable? members' = ofTable? members := by
  have hstep : ∀ members members', Changed members members' →
      ofTable? members = ofTable? members' := by
    intro members members' hchange
    exact hchange.ofTable?_eq.symm
  exact congrArg (Quot.lift ofTable? hstep) (Quot.eqvGen_sound h).symm

/-- A spoiled configuration is not read. -/
theorem Faulty.ofTable?_eq_none {members : Members} (h : Faulty members) :
    ofTable? members = none := by
  rw [ofTable?_eq]
  cases h with
  | review h hreview =>
      rw [given_eq_some h, Option.bind_some, hreview.ofValue?_eq_none]
      rfl
  | exercise h hexercise =>
      rw [given_eq_some h, Option.bind_some, hexercise.ofValue?_eq_none]
      simp

/--
A text is read alike after its missing sections and settings are written with their defaults, some
of them or all at once, and after keys are added that mean nothing.  A text whose sections and rules
are tables gives the configuration that it describes, in which all that is written is kept and the
rules have their order, and no other one.  A rule that lacks a part and a word that means nothing
are a fault of the text as a whole.
-/
theorem ofText_of_settings :
    (∀ text text' : String, ∀ members members', Toml.read? text.toList = some members →
      Toml.read? text'.toList = some members' → Relation.EqvGen Changed members members' →
      ofText text' = ofText text) ∧
    (∀ text : String, ∀ members, Toml.read? text.toList = some members → InTables members →
      ∀ c, ofText text = .ok c ↔ Says members c) ∧
    ∀ text : String, ∀ members, Toml.read? text.toList = some members → Faulty members →
      ofText text = .error .config := by
  refine ⟨?_, ?_, ?_⟩
  · intro text text' members members' hmembers hmembers' h
    rw [ofText, ofText, hmembers, hmembers', Option.bind_some, Option.bind_some,
      ofTable?_of_changes h]
  · intro text members hmembers htables c
    rw [← ofTable?_eq_some_iff htables, ofText, hmembers, Option.bind_some]
    cases ofTable? members with
    | none => simp
    | some c' => simp
  · intro text members hmembers h
    rw [ofText, hmembers, Option.bind_some, h.ofTable?_eq_none]

/-- A text with a rule and nothing else. -/
def bare : String :=
  "[[analysis.custom_rules]]\nid = \"x\"\npattern = \"y\"\nmessage = \"z\"\n"

/-- The same text with all defaults and a key that means nothing. -/
def spelled : String :=
  "base_dir = \"d\"\nanalysis = \x7bcustom_rules = [\x7bid = \"x\", pattern = \"y\", " ++
    "message = \"z\", kind = \"warning\", severity = \"medium\"\x7d], fail_on = \"high\", " ++
    "extensions = [\"js\", \"jsx\", \"ts\", \"tsx\", \"mjs\", \"cjs\"]\x7d\n" ++
    "exercise = \x7bdefault_difficulty = \"easy\"\x7d\npreferences = \x7bcolor = true\x7d\n"

/-- A rule without a kind and a severity. -/
def bareRule : Members :=
  [("id", .string "x"), ("pattern", .string "y"), ("message", .string "z")]

/-- The rule that is described. -/
def bareSettings : RuleSettings :=
  { id := "x", pattern := "y", kind := .warning, severity := .medium, message := "z" }

set_option maxRecDepth 4000 in
/-- Both texts give the configuration with the rule, and a text whose word means nothing is
refused. -/
theorem ofText_of_settings_of_bare :
    ofText bare = .ok { standard with review.rules := [bareSettings] } ∧
      ofText spelled = ofText bare ∧
      ofText "[analysis]\nfail_on = \"critical\"\n" = .error .config := by
  have hbare : Toml.read? bare.toList =
      some [("analysis", .table [("custom_rules", .array [.table bareRule])])] := by decide +kernel
  have hspelled : Toml.read? spelled.toList = some (("base_dir", .string "d") ::
      writtenOut [("analysis", .table [("custom_rules", .array [.table bareRule])])]) := by decide +kernel
  have hcritical : Toml.read? "[analysis]\nfail_on = \"critical\"\n".toList =
      some [("analysis", .table [("fail_on", .string "critical")])] := by decide +kernel
  refine ⟨?_, ?_, ?_⟩
  · refine (ofText_of_settings.2.1 bare _ hbare ?_ _).mpr ?_
    · refine ⟨⟨_, rfl, ?_⟩, ⟨_, rfl⟩, ⟨_, rfl⟩⟩
      intro items hitems item hitem
      obtain rfl := Value.array.inj (Option.some.inj hitems)
      exact ⟨bareRule, List.mem_singleton.mp hitem⟩
    · have hrule : RuleSettings.Says bareRule bareSettings :=
        ⟨rfl, rfl, ⟨_, rfl, .string⟩, ⟨_, rfl, .string⟩, rfl⟩
      refine ⟨⟨_, rfl, ⟨_, rfl, .string⟩, rfl, _, rfl, ?_⟩, ⟨_, rfl, ⟨_, rfl, .string⟩, rfl⟩,
        ⟨_, rfl, ⟨rfl⟩⟩, rfl⟩
      exact .cons ⟨bareRule, rfl, hrule⟩ .nil
  · refine ofText_of_settings.1 bare spelled _ _ hbare hspelled ?_
    have hall := Changed.all [("analysis", .table [("custom_rules", .array [.table bareRule])])]
    refine .trans _ _ _ (.rel _ _ hall) (.rel _ _ (.missing ?_))
    exact @Edited.added _ _ [] _ "base_dir" (.string "d") (by decide)
  · refine ofText_of_settings.2.2 _ _ hcritical ?_
    have hunknown : ∀ s : Severity, "critical" ≠ s.label := by
      intro s
      cases s <;> decide
    exact .review rfl (.failOn rfl .string hunknown)

end Config
end ScriptReview
