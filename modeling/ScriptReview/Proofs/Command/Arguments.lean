import Mathlib.Data.List.Nodup
import ScriptReview.Command.Run
import ScriptReview.Proofs.Command.Choices
import ScriptReview.Proofs.Command.Soundness

/-!
# Arguments that are written out and read back

An invocation is written out as its options, the name of its command, and its paths after two
hyphens.  The options that every command has may stand before the name of the command or after it.

Main definitions:

* `commonChoices` and `Command.choices` are the options of an invocation.
* `Invocation.WellFormed` says which invocations there are arguments for.

Main results:

* `Values.toCommand_eq_ok` says that values that come from the options of a command stand for it.
* `Invocation.ofArguments_eq_ok` reads arguments back that are written out.
* `Invocation.wellFormed_of_ofArguments` says that no other invocations are read.
* `Invocation.ofArguments_exact` puts both together.
-/

namespace ScriptReview

/-! ## The options of a command -/

/-- The options of a review: where the text comes from, and how the reports are shown. -/
def Sources.choices (s : Sources) (json : Bool) : List Choice :=
  (if s.stdin then [.switch .stdin] else []) ++ if json then [.switch .json] else []

/-- A review has two options. -/
theorem Sources.eq_of_mem_choices {s : Sources} {json : Bool} {c : Choice}
    (h : c ∈ s.choices json) : c = .switch .stdin ∨ c = .switch .json := by
  simp only [choices, List.mem_append, List.mem_ite_nil_right, List.mem_singleton] at h
  exact h.imp And.right And.right

namespace Command

/-- The name of a command. -/
def verb : Command → Verb
  | .analyze _ _ => .analyze
  | .check _ _ => .check
  | .exercise _ _ _ => .exercise
  | .rules => .rules

/-- The paths that a command names. -/
def paths : Command → List RawText
  | .analyze sources _ => sources.paths
  | .check sources _ => sources.paths
  | _ => []

/-- A command that takes no paths has none. -/
theorem paths_eq_nil (command : Command) (h : ¬ command.verb.takesPaths = true) :
    command.paths = [] := by
  cases command with
  | analyze sources json => exact absurd rfl h
  | check sources json => exact absurd rfl h
  | exercise difficulty seed json => rfl
  | rules => rfl

/-- The options of a command that not every command has. -/
def choices : Command → List Choice
  | .analyze sources json => sources.choices json
  | .check sources json => sources.choices json
  | .exercise difficulty seed json =>
    difficulty.toList.map .difficulty ++ seed.toList.map .seed ++
      if json then [.switch .json] else []
  | .rules => []

/-- The arguments after the options: two hyphens and the paths, for a command that takes paths. -/
def pathArguments (command : Command) : List RawText :=
  if command.verb.takesPaths then "--" :: command.paths else []

/-- The options that not every command has are known after the name of a command with them. -/
theorem knownIn_and_not_isCommon {command : Command} {c : Choice} (h : c ∈ command.choices) :
    c.KnownIn (some command.verb) ∧ c.isCommon = false := by
  cases command with
  | analyze sources json =>
      rcases Sources.eq_of_mem_choices h with rfl | rfl <;> exact ⟨rfl, rfl⟩
  | check sources json =>
      rcases Sources.eq_of_mem_choices h with rfl | rfl <;> exact ⟨rfl, rfl⟩
  | exercise difficulty seed json =>
      simp only [choices, List.mem_append, List.mem_ite_nil_right, List.mem_singleton,
        List.mem_map] at h
      rcases h with (⟨d, -, rfl⟩ | ⟨n, -, rfl⟩) | ⟨-, rfl⟩ <;> exact ⟨rfl, rfl⟩
  | rules => simp [choices] at h

end Command

/-- The options that every command has. -/
def commonChoices (verbose : Bool) (config : Option RawText) : List Choice :=
  (if verbose then [.switch .verbose] else []) ++ config.toList.map .config

/-! ## Reading a command -/

namespace Progress

/-- The name of a command is read after any options. -/
theorem read_label (v : Values) (verb : Verb) (rest : List RawText) :
    read none ⟨v, .nothing⟩ (.ofString verb.label :: rest) =
      .ok (⟨v, .nothing⟩, some (verb, rest)) := by
  cases verb <;> rfl

/-- All arguments after two hyphens are paths of a command that takes paths. -/
theorem exists_afterHyphens_eq_ok {v : Values} {verb : Verb} {paths : List RawText}
    (hverb : verb.takesPaths = true) (hv : v.paths = []) (hpaths : .empty ∉ paths) :
    ∃ p, afterHyphens (some verb) ⟨v, .nothing⟩ paths = .ok p ∧
      p.settle = .ok { v with paths := paths } := by
  cases paths with
  | nil => exact ⟨⟨v, .nothing⟩, rfl, by simp [settle, ← hv]⟩
  | cons path paths =>
      refine ⟨⟨v, .paths (path :: paths)⟩, ?_, ?_⟩
      · simp only [afterHyphens, takesPaths, Option.any_some, hverb, if_true]
        rfl
      · simp [settle, Values.addPaths, hpaths, hv]

/-- The arguments after the options give a command its paths. -/
theorem exists_read_pathArguments_eq_ok {v : Values} {command : Command} (hv : v.paths = [])
    (hpaths : .empty ∉ command.paths) :
    ∃ p, read (some command.verb) ⟨v, .nothing⟩ command.pathArguments = .ok (p, none) ∧
      p.settle = .ok { v with paths := command.paths } := by
  by_cases hverb : command.verb.takesPaths = true
  · rcases exists_afterHyphens_eq_ok hverb hv hpaths with ⟨p, hp, hsettle⟩
    refine ⟨p, ?_, hsettle⟩
    rw [Command.pathArguments, if_pos hverb, read, hp]
    rfl
  · have hnone : command.paths = [] := command.paths_eq_nil hverb
    refine ⟨⟨v, .nothing⟩, ?_, ?_⟩
    · rw [Command.pathArguments, if_neg hverb, read]
    · simp [settle, hnone, ← hv]

end Progress

/-- Values that come from the options of a command and its paths stand for the command. -/
theorem Values.toCommand_eq_ok {v : Values} {command : Command}
    (hgives : ∀ c, c.isCommon = false → (v.Gives c ↔ c ∈ command.choices))
    (hpaths : v.paths = command.paths)
    (hstdin : command.readsInput = true → command.paths = []) :
    v.toCommand command.verb = .ok command := by
  have hjson : v.has .json = decide (.switch .json ∈ command.choices) :=
    Bool.eq_iff_iff.mpr (by simpa [Gives] using hgives (.switch .json) rfl)
  have hinput : v.has .stdin = decide (.switch .stdin ∈ command.choices) :=
    Bool.eq_iff_iff.mpr (by simpa [Gives] using hgives (.switch .stdin) rfl)
  have hdifficulty : ∀ d, v.difficulty = some d ↔ .difficulty d ∈ command.choices :=
    fun d => hgives (.difficulty d) rfl
  have hseed : ∀ n, v.seed = some n ↔ .seed n ∈ command.choices :=
    fun n => hgives (.seed n) rfl
  cases command with
  | analyze sources json =>
      simp only [Command.readsInput, Command.paths] at hstdin hpaths
      simpa [toCommand, Command.verb, Command.choices, Sources.choices, hjson, hinput, hpaths]
        using hstdin
  | check sources json =>
      simp only [Command.readsInput, Command.paths] at hstdin hpaths
      simpa [toCommand, Command.verb, Command.choices, Sources.choices, hjson, hinput, hpaths]
        using hstdin
  | exercise difficulty seed json =>
      have hdifficulty' : v.difficulty = difficulty :=
        Option.ext (by simpa [Command.choices] using hdifficulty)
      have hseed' : v.seed = seed := Option.ext (by simpa [Command.choices] using hseed)
      simp only [Command.paths] at hpaths
      simp [toCommand, Command.verb, Command.choices, hjson, hpaths, hdifficulty', hseed']
  | rules =>
      simp only [Command.paths] at hpaths
      simp [toCommand, Command.verb, hpaths]

/-! ## Reading an invocation -/

/-- The options of an invocation ask for different things. -/
theorem nodup_choices (verbose : Bool) (config : Option RawText) (command : Command) :
    ((commonChoices verbose config ++ command.choices).map Choice.meaning).Nodup := by
  have hcommon : List.Sublist ((commonChoices verbose config).map Choice.meaning)
      [.switch .verbose, .setting .config] := by
    cases verbose <;> cases config <;> simp [commonChoices, Choice.meaning]
  have hown : List.Sublist (command.choices.map Choice.meaning)
      [.switch .stdin, .setting .difficulty, .setting .seed, .switch .json] := by
    cases command with
    | analyze sources json =>
        rcases sources with ⟨_, _ | _⟩ <;> cases json <;>
          simp [Command.choices, Sources.choices, Choice.meaning]
    | check sources json =>
        rcases sources with ⟨_, _ | _⟩ <;> cases json <;>
          simp [Command.choices, Sources.choices, Choice.meaning]
    | exercise difficulty seed json =>
        cases difficulty <;> cases seed <;> cases json <;> simp [Command.choices, Choice.meaning]
    | rules => simp [Command.choices]
  rw [List.map_append]
  exact (hcommon.append hown).nodup (by decide)

/-- The common switch is among the common options when it is on. -/
theorem switch_mem_commonChoices (verbose : Bool) (config : Option RawText) :
    .switch .verbose ∈ commonChoices verbose config ↔ verbose = true := by
  simp [commonChoices]

/-- The path of a configuration is among the common options. -/
theorem config_mem_commonChoices (verbose : Bool) (config : Option RawText) (path : RawText) :
    .config path ∈ commonChoices verbose config ↔ config = some path := by
  simp [commonChoices]

/-- Every command has the common options. -/
theorem isCommon_of_mem_commonChoices {verbose : Bool} {config : Option RawText} {c : Choice}
    (h : c ∈ commonChoices verbose config) : c.isCommon = true := by
  simp only [commonChoices, List.mem_append, List.mem_ite_nil_right, List.mem_singleton,
    List.mem_map] at h
  rcases h with ⟨-, rfl⟩ | ⟨path, -, rfl⟩ <;> rfl

namespace Invocation

/-- An invocation without empty texts, whose command has no paths when it reads the standard
input. -/
structure WellFormed (i : Invocation) : Prop where
  config_ne : i.config ≠ some .empty
  paths_ne : ∀ command ∈ i.command, .empty ∉ command.paths
  input_alone : ∀ command ∈ i.command, command.readsInput = true → command.paths = []

variable {command : Command} {verbose : Bool} {config : Option RawText} {outer inner : List Choice}

/-- The options of a command stand after its name, and the common ones before it or after it. -/
theorem mem_iff_of_perm
    (hperm : (outer ++ inner).Perm (commonChoices verbose config ++ command.choices))
    (houter : ∀ c ∈ outer, c.isCommon = true) (c : Choice) :
    (c.isCommon = true → (c ∈ outer ∨ c ∈ inner ↔ c ∈ commonChoices verbose config)) ∧
      (c.isCommon = false → (c ∈ inner ↔ c ∈ command.choices)) := by
  have hmem : c ∈ outer ∨ c ∈ inner ↔ c ∈ commonChoices verbose config ∨ c ∈ command.choices := by
    rw [← List.mem_append, hperm.mem_iff, List.mem_append]
  constructor
  · intro hc
    have hown : c ∉ command.choices := by
      intro h
      simp [(Command.knownIn_and_not_isCommon h).2] at hc
    rw [hmem, or_iff_left hown]
  · intro hc
    have hcommon : c ∉ commonChoices verbose config := by
      intro h
      simp [isCommon_of_mem_commonChoices h] at hc
    have hbefore : c ∉ outer := by
      intro h
      simp [houter c h] at hc
    rwa [or_iff_right hcommon, or_iff_right hbefore] at hmem

/-- What is given before and after the name of a command makes up the common options. -/
theorem common_eq_of_gives {before after : Values} (hbefore : ∀ c, before.Gives c ↔ c ∈ outer)
    (hafter : ∀ c, after.Gives c ↔ c ∈ inner)
    (hmem : ∀ c, c.isCommon = true → (c ∈ outer ∨ c ∈ inner ↔ c ∈ commonChoices verbose config)) :
    (after.has .verbose || before.has .verbose) = verbose ∧
      after.config.or before.config = config := by
  have hgives : ∀ c, c.isCommon = true →
      (after.Gives c ∨ before.Gives c ↔ c ∈ commonChoices verbose config) := by
    intro c hc
    rw [hafter, hbefore, or_comm, hmem c hc]
  constructor
  · rw [Bool.eq_iff_iff, Bool.or_eq_true, ← switch_mem_commonChoices verbose config]
    exact hgives (.switch .verbose) rfl
  · have hpath : ∀ path, after.config = some path ∨ before.config = some path ↔
        config = some path := by
      intro path
      rw [← config_mem_commonChoices verbose config path]
      exact hgives (.config path) rfl
    cases hsome : after.config with
    | some path => exact ((hpath path).mp (.inl hsome)).symm
    | none =>
        rw [Option.none_or]
        exact Option.ext fun path => by rw [← hpath, hsome, or_iff_right (by simp)]

/-- The options after the name of a command and the paths give the command. -/
theorem exists_readVerb_eq_ok (hnodup : (inner.map Choice.meaning).Nodup)
    (hinner : ∀ c ∈ inner, c.IsWritable ∧ c.KnownIn (some command.verb))
    (hmem : ∀ c, c.isCommon = false → (c ∈ inner ↔ c ∈ command.choices))
    (hpaths : .empty ∉ command.paths) (hstdin : command.readsInput = true → command.paths = []) :
    ∃ v, (∀ c, v.Gives c ↔ c ∈ inner) ∧
      readVerb command.verb (inner.map Choice.argument ++ command.pathArguments) =
        .ok (v, command) := by
  rcases Progress.read_choices Values.holds_empty hnodup hinner with ⟨v, hv, hread⟩
  rcases Progress.exists_read_pathArguments_eq_ok hv.paths_eq hpaths with ⟨p, hp, hsettle⟩
  have hgives : ∀ c, Values.Gives { v with paths := command.paths } c ↔ c ∈ inner := by
    intro c
    rw [← List.nil_append inner, ← hv.gives_iff]
    cases c <;> rfl
  refine ⟨{ v with paths := command.paths }, hgives, bind_eq_ok_iff.mpr ⟨(p, none), ?_, ?_⟩⟩
  · exact (hread _).trans hp
  · refine bind_eq_ok_iff.mpr ⟨_, hsettle, bind_eq_ok_iff.mpr ⟨command, ?_, rfl⟩⟩
    exact Values.toCommand_eq_ok (fun c hc => (hgives c).trans (hmem c hc)) rfl hstdin

/-- Options before and after the name of a command are read back. -/
theorem ofArguments_eq_ok (h : WellFormed ⟨some command, verbose, config⟩)
    (hperm : (outer ++ inner).Perm (commonChoices verbose config ++ command.choices))
    (houter : ∀ c ∈ outer, c.isCommon = true) :
    ofArguments (outer.map Choice.argument ++ .ofString command.verb.label ::
        (inner.map Choice.argument ++ command.pathArguments)) =
      .ok ⟨some command, verbose, config⟩ := by
  have hmem := mem_iff_of_perm hperm houter
  have hnodup : (outer.map Choice.meaning ++ inner.map Choice.meaning).Nodup := by
    rw [← List.map_append, (hperm.map Choice.meaning).nodup_iff]
    exact nodup_choices verbose config command
  have hwritable : ∀ c, c ∈ outer ∨ c ∈ inner → c.IsWritable := by
    rintro c hc rfl
    rw [(hmem _).1 rfl, config_mem_commonChoices] at hc
    exact h.config_ne hc
  have hknown : ∀ c ∈ inner, c.KnownIn (some command.verb) := by
    intro c hc
    by_cases hcommon : c.isCommon = true
    · exact Choice.knownIn_of_isCommon hcommon _
    · rw [(hmem c).2 (by simpa using hcommon)] at hc
      exact (Command.knownIn_and_not_isCommon hc).1
  rcases Progress.read_choices Values.holds_empty hnodup.of_append_left
    (fun c hc => ⟨hwritable c (.inl hc), Choice.knownIn_of_isCommon (houter c hc) none⟩)
    with ⟨before, hbefore, hread⟩
  rcases exists_readVerb_eq_ok hnodup.of_append_right
    (fun c hc => ⟨hwritable c (.inr hc), hknown c hc⟩) (fun c => (hmem c).2)
    (h.paths_ne command rfl) (h.input_alone command rfl) with ⟨after, hafter, hverb⟩
  rcases common_eq_of_gives hbefore.gives_iff hafter (fun c => (hmem c).1) with ⟨rfl, rfl⟩
  refine bind_eq_ok_iff.mpr ⟨_, (hread _).trans (Progress.read_label before command.verb _), ?_⟩
  exact bind_eq_ok_iff.mpr ⟨_, hverb, rfl⟩

end Invocation

/-! ## Arguments that are read -/

/-- A command has no empty path, and no paths when it reads the standard input. -/
theorem Values.Sound.toCommand {v : Values} {verb : Verb} {command : Command} (h : v.Sound)
    (hv : v.toCommand verb = .ok command) :
    .empty ∉ command.paths ∧ (command.readsInput = true → command.paths = []) := by
  unfold Values.toCommand at hv
  split at hv
  · contradiction
  · rename_i hconflict
    have hstdin : v.has .stdin = true → v.paths = [] := by simpa using hconflict
    cases hv
    cases verb with
    | analyze => exact ⟨h.paths_ne, hstdin⟩
    | check => exact ⟨h.paths_ne, hstdin⟩
    | exercise => simp [Command.paths]
    | rules => simp [Command.paths]

namespace Invocation

/-- The arguments after the name of a command bring no empty path, and no paths beside the standard
input. -/
theorem readVerb_sound {verb : Verb} {arguments : List RawText} {v : Values} {command : Command}
    (h : readVerb verb arguments = .ok (v, command)) :
    v.Sound ∧ .empty ∉ command.paths ∧ (command.readsInput = true → command.paths = []) := by
  rcases bind_eq_ok_iff.mp h with ⟨⟨p, next⟩, hread, h⟩
  rcases bind_eq_ok_iff.mp h with ⟨v', hsettle, h⟩
  rcases bind_eq_ok_iff.mp h with ⟨command', hcommand, h⟩
  cases h
  have hv : v.Sound := Progress.settle_sound (Progress.read_sound Values.sound_empty hread) hsettle
  exact ⟨hv, hv.toCommand hcommand⟩

/-- Arguments that are read stand for a well-formed invocation. -/
theorem wellFormed_of_ofArguments {arguments : List RawText} {i : Invocation}
    (h : ofArguments arguments = .ok i) : i.WellFormed := by
  rcases bind_eq_ok_iff.mp h with ⟨⟨p, next⟩, hread, hnext⟩
  have hp : p.values.Sound := Progress.read_sound Values.sound_empty hread
  cases next with
  | none =>
      rcases bind_eq_ok_iff.mp hnext with ⟨outer, houter, hi⟩
      cases hi
      exact ⟨(Progress.settle_sound hp houter).config_ne, by simp, by simp⟩
  | some next =>
      rcases bind_eq_ok_iff.mp hnext with ⟨⟨inner, command⟩, hverb, hnext⟩
      rcases bind_eq_ok_iff.mp hnext with ⟨outer, houter, hi⟩
      cases hi
      rcases readVerb_sound hverb with ⟨hinner, hpaths, hstdin⟩
      refine ⟨?_, by simpa using hpaths, by simpa using hstdin⟩
      -- The value after the name of the command comes first.
      cases hconfig : inner.config with
      | none => simpa using (Progress.settle_sound hp houter).config_ne
      | some path => simpa [hconfig] using hinner.config_ne

/--
An invocation of a command is well-formed when the path of its configuration and the paths of the
command are not empty, and when the command has no paths beside the standard input.  Arguments for
it are the options that it has, in any order and in their long form with the values after equals
signs, those that every command has before or after the name of the command and the others after it,
and then two hyphens and the paths where the command takes paths.  Whatever the paths and the values
look like, reading these arguments gives the invocation back.  All arguments that are read stand
for a well-formed invocation.
-/
theorem ofArguments_exact :
    (∀ (command : Command) (verbose : Bool) (config : Option RawText) (outer inner : List Choice),
      WellFormed ⟨some command, verbose, config⟩ →
      (outer ++ inner).Perm (commonChoices verbose config ++ command.choices) →
      (∀ c ∈ outer, c.isCommon = true) →
      ofArguments (outer.map Choice.argument ++ .ofString command.verb.label ::
          (inner.map Choice.argument ++ command.pathArguments)) =
        .ok ⟨some command, verbose, config⟩) ∧
    ∀ arguments i, ofArguments arguments = .ok i → i.WellFormed :=
  ⟨fun _ _ _ _ _ h hperm houter => ofArguments_eq_ok h hperm houter,
    fun _ _ h => wellFormed_of_ofArguments h⟩

-- The standard input excludes every path, also one after two hyphens.
example : ofArguments ["check", "--stdin", "--", "a.js"] = .error .conflict := by
  decide +kernel

/-- Paths that look like options and commands are read back, and a value that looks like an option,
with one common option before the name of the command and one after it. -/
theorem ofArguments_exact_of_hyphens :
    ofArguments ["--config=--config=rules", "analyze", "--json", "--verbose", "--", "--stdin",
        "check", "--"] =
      .ok ⟨some (.analyze ⟨["--stdin", "check", "--"], false⟩ true), true,
        some "--config=rules"⟩ ∧
    WellFormed ⟨some (.analyze ⟨["--stdin", "check", "--"], false⟩ true), true,
      some "--config=rules"⟩ := by
  have h := ofArguments_exact.1 (.analyze ⟨["--stdin", "check", "--"], false⟩ true) true
    (some "--config=rules") [.config "--config=rules"] [.switch .json, .switch .verbose]
    ⟨by decide, by rintro _ ⟨⟩; decide, by simp [Command.readsInput]⟩ (by decide) (by decide)
  exact ⟨h, ofArguments_exact.2 _ _ h⟩

end Invocation
end ScriptReview
