import Mathlib.Data.List.Forall2

/-!
# Steps and traversals that can fail

Steps that can fail follow each other until one of them does.  A list is traversed element by
element, and the first fault ends the traversal.

Main results:

* `bind_eq_ok_iff` and `bind_eq_error_iff` say what two steps give, `map_eq_ok_iff` and
  `map_eq_error_iff` what a step gives whose result is changed, `mapError_eq_ok_iff` and
  `mapError_eq_error_iff` what a step gives whose fault is changed.
* `mapM_eq_ok_iff` and `mapM_eq_ok_iff_forall₂` say what a traversal gives when every step succeeds,
  and `exists_mapM_eq_ok_iff` that it succeeds only then.
* `mapM_eq_error_iff` says that the fault of a traversal is the fault of its first step that fails.
* `exists_forall₂_of_forall₂_exists` and the lemmas beside it are about lists whose elements are
  related one by one.
-/

namespace ScriptReview

variable {α β ε : Type}

/-! ## Steps -/

/-- Two steps give a result exactly when the first one does and the second one goes on from it. -/
theorem bind_eq_ok_iff {step : Except ε α} {next : α → Except ε β} {result : β} :
    (step >>= next) = .ok result ↔ ∃ a, step = .ok a ∧ next a = .ok result := by
  cases step with
  | error fault =>
      constructor
      · intro h
        contradiction
      · rintro ⟨_, h, _⟩
        contradiction
  | ok a =>
      constructor
      · intro h
        exact ⟨a, rfl, h⟩
      · rintro ⟨a', ha, h⟩
        obtain rfl := Except.ok.inj ha
        exact h

/-- Two steps fail exactly when the first one fails or the second one fails after it. -/
theorem bind_eq_error_iff {step : Except ε α} {next : α → Except ε β} {fault : ε} :
    (step >>= next) = .error fault ↔
      step = .error fault ∨ ∃ a, step = .ok a ∧ next a = .error fault := by
  cases step with
  | error fault' =>
      constructor
      · intro h
        exact .inl (congrArg _ (Except.error.inj h))
      · rintro (h | ⟨_, h, _⟩)
        · exact congrArg _ (Except.error.inj h)
        · contradiction
  | ok a =>
      constructor
      · intro h
        exact .inr ⟨a, rfl, h⟩
      · rintro (h | ⟨a', ha, h⟩)
        · contradiction
        · obtain rfl := Except.ok.inj ha
          exact h

/-- A step whose result is changed gives a result exactly when the step does. -/
theorem map_eq_ok_iff {step : Except ε α} {f : α → β} {result : β} :
    step.map f = .ok result ↔ ∃ a, step = .ok a ∧ f a = result := by
  cases step with
  | error fault => simp [Except.map]
  | ok a => simp [Except.map]

/-- A step whose result is changed fails exactly when the step does. -/
theorem map_eq_error_iff {step : Except ε α} {f : α → β} {fault : ε} :
    step.map f = .error fault ↔ step = .error fault := by
  cases step with
  | error fault' => simp [Except.map]
  | ok a => simp [Except.map]

/-- The first step of a traversal comes before the others. -/
theorem mapM_cons_eq (f : α → Except ε β) (input : α) (inputs : List α) :
    (input :: inputs).mapM f =
      match f input, inputs.mapM f with
      | .error fault, _ => .error fault
      | .ok _, .error fault => .error fault
      | .ok output, .ok outputs => .ok (output :: outputs) := by
  rw [List.mapM_cons]
  cases f input with
  | error fault => rfl
  | ok output =>
      cases inputs.mapM f with
      | error fault => rfl
      | ok outputs => rfl

/-- A traversal gives a list exactly when its steps give the elements of that list. -/
theorem mapM_eq_ok_iff {f : α → Except ε β} {inputs : List α} {outputs : List β} :
    inputs.mapM f = .ok outputs ↔ inputs.map f = outputs.map .ok := by
  induction inputs generalizing outputs with
  | nil =>
      rw [List.mapM_nil, List.map_nil]
      constructor
      · intro h
        obtain rfl := Except.ok.inj h
        rfl
      · intro h
        rw [List.map_eq_nil_iff.mp h.symm]
        rfl
  | cons input inputs ih =>
      rw [mapM_cons_eq, List.map_cons]
      constructor
      · intro h
        split at h
        · contradiction
        · contradiction
        · rename_i output rest hfirst hrest
          obtain rfl := Except.ok.inj h
          rw [List.map_cons, hfirst, ih.mp hrest]
      · intro h
        obtain ⟨output, rest, rfl, hfirst, hrest⟩ := List.map_eq_cons_iff.mp h.symm
        rw [← hfirst, ih.mpr hrest.symm]

/-- A traversal gives a list exactly when its steps give the elements of that list one by one. -/
theorem mapM_eq_ok_iff_forall₂ {f : α → Except ε β} {inputs : List α} {outputs : List β} :
    inputs.mapM f = .ok outputs ↔
      List.Forall₂ (fun input output => f input = .ok output) inputs outputs := by
  rw [mapM_eq_ok_iff, ← List.forall₂_eq_eq_eq, List.forall₂_map_left_iff,
    List.forall₂_map_right_iff]

/-- A traversal succeeds exactly when every step does. -/
theorem exists_mapM_eq_ok_iff {f : α → Except ε β} {inputs : List α} :
    (∃ outputs, inputs.mapM f = .ok outputs) ↔
      ∀ input ∈ inputs, ∃ output, f input = .ok output := by
  simp only [mapM_eq_ok_iff]
  induction inputs with
  | nil =>
      constructor
      · simp
      · intro _
        exact ⟨[], rfl⟩
  | cons input inputs ih =>
      rw [List.forall_mem_cons, ← ih]
      constructor
      · rintro ⟨outputs, houtputs⟩
        obtain ⟨output, rest, rfl, hfirst, hrest⟩ := List.map_eq_cons_iff.mp houtputs.symm
        exact ⟨⟨output, hfirst.symm⟩, rest, hrest.symm⟩
      · rintro ⟨⟨output, hfirst⟩, rest, hrest⟩
        refine ⟨output :: rest, ?_⟩
        rw [List.map_cons, List.map_cons, hfirst, hrest]

/-- A traversal fails exactly with the fault of the first step that fails. -/
theorem mapM_eq_error_iff {f : α → Except ε β} {inputs : List α} {fault : ε} :
    inputs.mapM f = .error fault ↔
      ∃ before input after, inputs = before ++ input :: after ∧
        (∃ outputs, before.mapM f = .ok outputs) ∧ f input = .error fault := by
  induction inputs with
  | nil =>
      constructor
      · intro h
        contradiction
      · rintro ⟨before, input, after, hinputs, -⟩
        cases before <;> contradiction
  | cons first inputs ih =>
      rw [mapM_cons_eq]
      constructor
      · intro h
        split at h
        · rename_i hfirst
          exact ⟨[], first, inputs, rfl, ⟨[], rfl⟩, hfirst.trans (congrArg _ (Except.error.inj h))⟩
        · rename_i output fault' hfirst hrest
          obtain rfl := Except.error.inj h
          obtain ⟨before, input, after, rfl, ⟨outputs, hbefore⟩, hinput⟩ := ih.mp hrest
          refine ⟨first :: before, input, after, rfl, ⟨output :: outputs, ?_⟩, hinput⟩
          rw [mapM_cons_eq, hfirst, hbefore]
        · contradiction
      · rintro ⟨before, input, after, hinputs, ⟨outputs, hbefore⟩, hinput⟩
        cases before with
        | nil =>
            obtain ⟨rfl, rfl⟩ := List.cons.inj hinputs
            rw [hinput]
        | cons first' before =>
            obtain ⟨rfl, rfl⟩ := List.cons.inj hinputs
            rw [mapM_cons_eq] at hbefore
            split at hbefore
            · contradiction
            · contradiction
            · rename_i output rest hfirst hrest
              rw [hfirst, ih.mpr ⟨before, input, after, rfl, ⟨rest, hrest⟩, hinput⟩]

/-! ## Lists that are related element by element -/

/-- A traversal that may give nothing gives a list exactly when its steps give the elements of that
list one by one. -/
theorem mapM_eq_some_iff_forall₂ {f : α → Option β} {as : List α} {bs : List β} :
    as.mapM f = some bs ↔ List.Forall₂ (fun a b => f a = some b) as bs := by
  induction as generalizing bs with
  | nil => simp [eq_comm]
  | cons a as ih =>
      simp only [List.mapM_cons, Option.bind_eq_bind, Option.bind_eq_some_iff, ih,
        List.forall₂_cons_left_iff]
      constructor
      · rintro ⟨b, hb, bs, hbs, h⟩
        exact ⟨b, bs, hb, hbs, (Option.some.inj h).symm⟩
      · rintro ⟨b, bs, hb, hbs, rfl⟩
        exact ⟨b, hb, bs, hbs, rfl⟩

/-- Related elements of two lists may be told to belong to the second one. -/
theorem forall₂_and_right {R : α → β → Prop} {P : β → Prop} {as : List α}
    {bs : List β} (h : List.Forall₂ R as bs) (hP : ∀ b ∈ bs, P b) :
    List.Forall₂ (fun a b => P b ∧ R a b) as bs := by
  have hflip : List.Forall₂ (fun b a => P b ∧ R a b) bs as :=
    (List.forall₂_and_left _ _).mpr ⟨hP, h.flip⟩
  exact hflip.flip

/-- An element of the second of two related lists is related to one of the first. -/
theorem exists_related_of_mem {R : α → β → Prop} {as : List α} {bs : List β}
    (h : List.Forall₂ R as bs) {b : β} (hb : b ∈ bs) : ∃ a ∈ as, R a b := by
  induction h with
  | nil => contradiction
  | @cons a b' as bs hR _ ih =>
      rcases List.mem_cons.mp hb with rfl | hb
      · exact ⟨a, List.mem_cons_self, hR⟩
      · rcases ih hb with ⟨a', ha', hR'⟩
        exact ⟨a', List.mem_cons_of_mem a ha', hR'⟩

/-- Lists are related through elements in between exactly one by one. -/
theorem exists_forall₂_of_forall₂_exists {γ : Type} {R : α → β → Prop} {S : β → γ → Prop}
    {as : List α} {cs : List γ} (h : List.Forall₂ (fun a c => ∃ b, R a b ∧ S b c) as cs) :
    ∃ bs, List.Forall₂ R as bs ∧ List.Forall₂ S bs cs := by
  induction h with
  | nil => exact ⟨[], .nil, .nil⟩
  | cons h _ ih =>
      rcases h with ⟨b, hR, hS⟩
      rcases ih with ⟨bs, hRs, hSs⟩
      exact ⟨b :: bs, .cons hR hRs, .cons hS hSs⟩

/-- Lists that are related element by element have a list of pairs that is related to the first. -/
theorem forall₂_zip_right {R : α → β → Prop} {inputs : List α} {outputs : List β}
    (h : List.Forall₂ R inputs outputs) :
    List.Forall₂ (fun input pair => pair.1 = input ∧ R input pair.2) inputs
      (inputs.zip outputs) := by
  induction h with
  | nil => exact .nil
  | cons h _ ih => exact .cons ⟨rfl, h⟩ ih

/-- Pairs that begin with the elements of a list have these first components. -/
theorem map_fst_eq_of_forall₂ {inputs : List α} {pairs : List (α × β)}
    (h : List.Forall₂ (fun input pair => pair.1 = input) inputs pairs) :
    pairs.map Prod.fst = inputs := by
  induction h with
  | nil => rfl
  | cons h _ ih => rw [List.map_cons, h, ih]

end ScriptReview
