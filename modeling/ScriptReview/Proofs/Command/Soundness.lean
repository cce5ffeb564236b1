import ScriptReview.Command.Reading
import ScriptReview.Proofs.Traversal

/-!
# What no arguments can say

No step of reading arguments puts an empty path into what has been read, so none is there when the
arguments end.

Main definitions:

* `Values.Sound` says that values hold no empty path.

Main results:

* `Progress.settle_sound` is about taking over what waits, and `Progress.argument_sound` about
  reading one argument.
* `Progress.read_sound` is about reading all arguments.
-/

namespace ScriptReview

/-! ## Values -/

namespace Values

/-- Values without an empty path, neither of a configuration nor among what is reviewed. -/
structure Sound (v : Values) : Prop where
  config_ne : v.config ≠ some .empty
  paths_ne : .empty ∉ v.paths

variable {v v' : Values}

/-- Nothing is set, so no path is empty. -/
theorem sound_empty : empty.Sound where
  config_ne := by simp [empty]
  paths_ne := by simp [empty]

/-- Turning a switch on sets no path. -/
theorem Sound.turnOn {s : Switch} (h : v.Sound) (hv : v.turnOn s = .ok v') : v'.Sound := by
  unfold Values.turnOn at hv
  split at hv
  · contradiction
  · cases hv
    exact ⟨h.config_ne, h.paths_ne⟩

/-- No setting is given an empty path. -/
theorem Sound.give {s : Setting} {value : RawText} (h : v.Sound) (hv : v.give s value = .ok v') :
    v'.Sound := by
  cases s with
  | config =>
      simp only [Values.give] at hv
      split at hv
      · contradiction
      · split at hv
        · contradiction
        · rename_i hvalue
          cases hv
          exact ⟨by simpa using hvalue, h.paths_ne⟩
  | difficulty =>
      simp only [Values.give] at hv
      split at hv
      · contradiction
      · rcases bind_eq_ok_iff.mp hv with ⟨d, -, hv'⟩
        cases hv'
        exact ⟨h.config_ne, h.paths_ne⟩
  | seed =>
      simp only [Values.give] at hv
      split at hv
      · contradiction
      · rcases bind_eq_ok_iff.mp hv with ⟨n, -, hv'⟩
        cases hv'
        exact ⟨h.config_ne, h.paths_ne⟩

/-- No empty path is added to others. -/
theorem Sound.addPaths {paths : List RawText} (h : v.Sound) (hv : v.addPaths paths = .ok v') :
    v'.Sound := by
  unfold Values.addPaths at hv
  split at hv
  · contradiction
  · rename_i hpaths
    cases hv
    exact ⟨h.config_ne, by simpa [h.paths_ne] using hpaths⟩

end Values

/-! ## Arguments -/

namespace Progress

variable {scope : Option Verb} {p p' : Progress}

/-- What waits is refused where it holds an empty path. -/
theorem settle_sound {v : Values} (h : p.values.Sound) (hv : p.settle = .ok v) : v.Sound := by
  unfold settle at hv
  split at hv
  · cases hv
    exact h
  · contradiction
  · exact h.give hv
  · exact h.addPaths hv

/-- An option whose value is not attached brings no empty path. -/
theorem accept_sound {m : Meaning} (h : p.values.Sound) (hp : p.accept m = .ok p') :
    p'.values.Sound := by
  rcases bind_eq_ok_iff.mp hp with ⟨v, hv, hnext⟩
  have hsound := settle_sound h hv
  cases m with
  | switch s =>
      rcases bind_eq_ok_iff.mp hnext with ⟨v', hv', hp'⟩
      cases hp'
      exact hsound.turnOn hv'
  | setting s =>
      cases hnext
      exact hsound
  | refuse r => contradiction

/-- A setting whose value is attached brings no empty path. -/
theorem acceptWith_sound {s : Setting} {value : List UInt8} (h : p.values.Sound)
    (hp : p.acceptWith s value = .ok p') : p'.values.Sound := by
  rcases bind_eq_ok_iff.mp hp with ⟨v, hv, hnext⟩
  rcases bind_eq_ok_iff.mp hnext with ⟨v', hv', hp'⟩
  cases hp'
  exact (settle_sound h hv).give hv'

/-- An option in its long form brings no empty path. -/
theorem option_sound {bytes : List UInt8} (h : p.values.Sound)
    (hp : p.option scope bytes = .ok p') : p'.values.Sound := by
  simp only [option] at hp
  split at hp
  · contradiction
  · split at hp
    · exact accept_sound h hp
    · split at hp
      · exact acceptWith_sound h hp
      · contradiction

/-- Options that are letters bring no empty path, one after the other. -/
theorem letters_sound {bytes : List UInt8} (h : p.values.Sound)
    (hp : p.letters scope bytes = .ok p') : p'.values.Sound := by
  induction bytes generalizing p with
  | nil =>
      cases hp
      exact h
  | cons letter rest ih =>
      unfold letters at hp
      split at hp
      · contradiction
      · split at hp
        · exact accept_sound h hp
        · exact acceptWith_sound h hp
      · rcases bind_eq_ok_iff.mp hp with ⟨p'', hp'', hrest⟩
        exact ih (accept_sound h hp'') hrest

/-- An argument that is no option waits to be taken over, so it brings no empty path itself. -/
theorem other_sound {text : RawText} (h : p.values.Sound) (hp : p.other scope text = .ok p') :
    p'.values.Sound := by
  unfold other at hp
  split at hp
  · cases hp
    exact h
  · cases hp
    exact h
  · split at hp
    · rcases bind_eq_ok_iff.mp hp with ⟨v, hv, hp'⟩
      cases hp'
      exact settle_sound h hv
    · contradiction

/-- The arguments after two hyphens wait to be taken over together. -/
theorem afterHyphens_sound {arguments : List RawText} (h : p.values.Sound)
    (hp : p.afterHyphens scope arguments = .ok p') : p'.values.Sound := by
  unfold afterHyphens at hp
  split at hp
  · cases hp
    exact h
  · split at hp
    · split at hp
      · cases hp
        exact h
      · rcases bind_eq_ok_iff.mp hp with ⟨v, hv, hp'⟩
        cases hp'
        exact settle_sound h hv
    · split at hp <;> contradiction

/-- One argument brings no empty path. -/
theorem argument_sound {text : RawText} (h : p.values.Sound)
    (hp : p.argument scope text = .ok p') : p'.values.Sound := by
  unfold argument at hp
  split at hp
  · split at hp
    · exact other_sound h hp
    · split at hp
      · exact option_sound h hp
      · exact letters_sound h hp
  · exact other_sound h hp

/-- Arguments bring no empty path.  Each one is read from values that are sound. -/
theorem read_sound {arguments : List RawText} {next : Option (Verb × List RawText)}
    (h : p.values.Sound) (hp : p.read scope arguments = .ok (p', next)) : p'.values.Sound := by
  induction arguments generalizing p with
  | nil =>
      cases hp
      exact h
  | cons text rest ih =>
      unfold read at hp
      split at hp
      · contradiction
      · split at hp
        · cases hp
          exact h
        · split at hp
          · rcases map_eq_ok_iff.mp hp with ⟨p'', hp'', heq⟩
            cases heq
            exact afterHyphens_sound h hp''
          · split at hp
            · rename_i p'' hp''
              exact ih (argument_sound h hp'') hp
            · contradiction

end Progress

end ScriptReview
