import ScriptReview.Command.Reading
import ScriptReview.Proofs.Text.Raw
import ScriptReview.Proofs.Traversal

/-!
# Options that are written out and read back

An option is written in its long form, its value after an equals sign.  Such options are read one
after the other, whatever their values look like, as long as no two of them ask for the same thing.

Main definitions:

* `Choice` is an option with its value, and `Choice.argument` its long form.
* `Choice.KnownIn` says where an option may stand.
* `Values.Holds` says which options values come from.

Main results:

* `Progress.argument_choice` says what the long form of an option sets.
* `Values.Holds.exists_choose_eq_ok` says that an option can be added to others.
* `Progress.read_choices` reads options one after the other.
-/

namespace ScriptReview

/-! ## Options with their values -/

/-- An option with its value. -/
inductive Choice where
  | switch (s : Switch)
  | config (path : RawText)
  | difficulty (d : Difficulty)
  | seed (n : UInt64)
  deriving DecidableEq, Repr, Inhabited

namespace Choice

/-- What an option asks for. -/
def meaning : Choice → Meaning
  | .switch s => .switch s
  | .config _ => .setting .config
  | .difficulty _ => .setting .difficulty
  | .seed _ => .setting .seed

/-- The long name of an option. -/
def name : Choice → String
  | .switch .verbose => "verbose"
  | .switch .json => "json"
  | .switch .stdin => "stdin"
  | .config _ => "config"
  | .difficulty _ => "difficulty"
  | .seed _ => "seed"

/-- The value of an option. A seed is written in decimal digits. -/
def value? : Choice → Option RawText
  | .switch _ => none
  | .config path => some path
  | .difficulty d => some (.ofString d.label)
  | .seed n => some (.ofString (toString n.toNat))

/-- An option in its long form, its value after an equals sign. -/
def argument (c : Choice) : RawText :=
  match c.value? with
  | none => .ofString ("--" ++ c.name)
  | some value => ⟨(RawText.ofString ("--" ++ c.name ++ "=")).bytes ++ value.bytes⟩

/-- The bytes of the name of an option. -/
def nameBytes (c : Choice) : List UInt8 :=
  (RawText.ofString c.name).bytes

/-- Whether every command has an option. -/
def isCommon : Choice → Bool
  | .switch .verbose => true
  | .config _ => true
  | _ => false

/-- A path of a configuration can be given when it is not empty, and any other value always. -/
def IsWritable (c : Choice) : Prop :=
  c ≠ .config .empty

/-- The name of an option is known with its meaning. -/
def KnownIn (scope : Option Verb) (c : Choice) : Prop :=
  meaningOfName? scope (.ofString c.name) = some c.meaning

/-- The bytes of an option are two hyphens, the name, and the value after an equals sign. -/
theorem bytes_argument (c : Choice) :
    c.argument.bytes = hyphen :: hyphen ::
      (c.nameBytes ++ c.value?.elim [] fun value => equalsSign :: value.bytes) := by
  have hhyphens : (RawText.ofString "--").bytes = [hyphen, hyphen] := by decide
  have hequals : (RawText.ofString "=").bytes = [equalsSign] := by decide
  unfold argument nameBytes
  cases c.value? with
  | none => simp [RawText.bytes_ofString_append, hhyphens]
  | some value => simp [RawText.bytes_ofString_append, hhyphens, hequals]

/-- A name has no equals sign. -/
theorem equalsSign_not_mem_nameBytes (c : Choice) : equalsSign ∉ c.nameBytes := by
  unfold nameBytes
  rcases c with (_ | _ | _) | _ | _ | _ <;> simp only [name] <;> decide

/-- A name is not empty. -/
theorem nameBytes_ne_nil (c : Choice) : c.nameBytes ≠ [] := by
  unfold nameBytes
  rcases c with (_ | _ | _) | _ | _ | _ <;> simp only [name] <;> decide

/-- Options that every command has are known before and after the name of any command. -/
theorem knownIn_of_isCommon {c : Choice} (h : c.isCommon = true) (scope : Option Verb) :
    c.KnownIn scope := by
  rcases c with (_ | _ | _) | _ | _ | _
  · rcases scope with _ | (_ | _ | _ | _) <;> rfl
  · contradiction
  · contradiction
  · rcases scope with _ | (_ | _ | _ | _) <;> rfl
  · contradiction
  · contradiction

end Choice

/-! ## Reading one option -/

/-- The digits of a number stand for the number. -/
theorem Decimal.digitsValue_toDigits (n : Nat) : digitsValue (Nat.toDigits 10 n) = n :=
  Nat.ofDigitChars_ten_toDigits

/-- The decimal digits of a seed stand for the seed. -/
theorem seedOfText?_toString (n : UInt64) : seedOfText? (toString n.toNat) = some n := by
  have hdigits : (toString n.toNat).toList = Nat.toDigits 10 n.toNat := by
    rw [Nat.toString_eq_repr, Nat.toList_repr]
  have hall : ∀ c ∈ Nat.toDigits 10 n.toNat, c.isDigit = true :=
    fun c hc => Nat.isDigit_of_mem_toDigits (by omega) (by omega) hc
  have hlt : n.toNat < powerOfTwo 64 := n.toNat_lt
  unfold seedOfText?
  simp only [hdigits]
  split
  · -- A plus is no digit.
    rename_i rest hplus
    have := hall '+' (by simp [hplus])
    contradiction
  · simp [Nat.toDigits_ne_nil, List.all_eq_true.mpr hall, Decimal.digitsValue_toDigits, hlt]

namespace Values

/-- A value that is a text is read as such. -/
theorem readValue_ofString {α : Type} {read? : String → Option α} {refusal : Refusal}
    {text : String} {a : α} (h : read? text = some a) :
    readValue read? refusal (.ofString text) = .ok a := by
  simp only [readValue, RawText.text?_ofString, h]

/-- Sets what an option says. -/
def choose (v : Values) : Choice → Except Refusal Values
  | .switch s => v.turnOn s
  | .config path => v.give .config path
  | .difficulty d => v.give .difficulty (.ofString d.label)
  | .seed n => v.give .seed (.ofString (toString n.toNat))

end Values

/-- The name of a command does not begin with a hyphen. -/
theorem Verb.head?_label_ne (verb : Verb) :
    (RawText.ofString verb.label).bytes.head? ≠ some hyphen := by
  cases verb <;> decide

/-- Nothing that begins with a hyphen is the name of a command. -/
theorem Verb.ofArgument?_eq_none {argument : RawText} {rest : List UInt8}
    (h : argument.bytes = hyphen :: rest) : ofArgument? argument = none := by
  cases htext : argument.text? with
  | none => rw [ofArgument?, htext, Option.bind_none]
  | some text =>
      rw [ofArgument?, htext, Option.bind_some, ofLabel?, List.find?_eq_none]
      intro verb _ hlabel
      rw [(RawText.text?_eq_some_iff _ _).mp htext, ← eq_of_beq hlabel] at h
      exact verb.head?_label_ne (congrArg List.head? h)

namespace Progress

variable {scope : Option Verb} {v : Values} {c : Choice}

/-- The name ends at the first equals sign, of which the value may have more. -/
theorem takeWhile_nameBytes (c : Choice) (value : Option RawText) :
    (c.nameBytes ++ value.elim [] fun value => equalsSign :: value.bytes).takeWhile
      (· != equalsSign) = c.nameBytes := by
  rw [List.takeWhile_append_of_pos]
  · cases value <;> simp
  · intro byte hbyte
    rw [bne_iff_ne]
    rintro rfl
    exact c.equalsSign_not_mem_nameBytes hbyte

/-- A switch is turned on at once when nothing waits. -/
theorem accept_switch (s : Switch) :
    accept ⟨v, .nothing⟩ (.switch s) = (v.turnOn s).map (⟨·, .nothing⟩) := by
  change (v.turnOn s >>= _) = _
  cases v.turnOn s <;> rfl

/-- A setting is given its value at once when nothing waits. -/
theorem acceptWith_bytes (s : Setting) (value : RawText) :
    acceptWith ⟨v, .nothing⟩ s value.bytes = (v.give s value).map (⟨·, .nothing⟩) := by
  change (v.give s value >>= _) = _
  cases v.give s value <;> rfl

/-- An option in its long form sets what it says. -/
theorem argument_choice (h : c.KnownIn scope) :
    argument scope ⟨v, .nothing⟩ c.argument = (v.choose c).map (⟨·, .nothing⟩) := by
  have hknown : meaningOfName? scope ⟨c.nameBytes⟩ = some c.meaning := h
  unfold argument
  rw [c.bytes_argument]
  simp only [ne_eq, not_true_eq_false, if_false, if_true, option, takeWhile_nameBytes,
    List.drop_left, hknown]
  cases c with
  | switch s => exact accept_switch s
  | config path => exact acceptWith_bytes .config path
  | difficulty d => exact acceptWith_bytes .difficulty (.ofString d.label)
  | seed n => exact acceptWith_bytes .seed (.ofString (toString n.toNat))

/-- An option in its long form is read before the other arguments. -/
theorem read_choice {v' : Values} {rest : List RawText} (h : c.KnownIn scope)
    (hv : v.choose c = .ok v') :
    read scope ⟨v, .nothing⟩ (c.argument :: rest) = read scope ⟨v', .nothing⟩ rest := by
  have hbytes := c.bytes_argument
  have hhelp : c.argument ≠ helpWord := by
    intro heq
    have hfirst : helpWord.bytes.head? = some hyphen := by rw [← heq, hbytes, List.head?_cons]
    exact absurd hfirst (by decide)
  have hhyphens : c.argument ≠ twoHyphens := by
    intro heq
    simp [heq, twoHyphens, c.nameBytes_ne_nil] at hbytes
  rw [read, argument_choice h, hv, Verb.ofArgument?_eq_none hbytes]
  simp [hhelp, hhyphens, Except.map]

end Progress

/-! ## Reading options one after the other -/

namespace Values

/-- Whether values say what an option says. -/
def Gives (v : Values) : Choice → Prop
  | .switch s => v.has s = true
  | .config path => v.config = some path
  | .difficulty d => v.difficulty = some d
  | .seed n => v.seed = some n

/-- Values that say what some options say, and name no paths. -/
structure Holds (v : Values) (chosen : List Choice) : Prop where
  gives_iff : ∀ c, v.Gives c ↔ c ∈ chosen
  paths_eq : v.paths = []

/-- Nothing is said by no options. -/
theorem holds_empty : empty.Holds [] where
  gives_iff c := by cases c <;> simp [Gives, has, empty]
  paths_eq := rfl

/-- An option is added to what is said when nothing that asks for the same is said yet. -/
theorem exists_choose_eq_ok {v : Values} {c : Choice}
    (hnew : ∀ other, v.Gives other → other.meaning ≠ c.meaning) (hc : c.IsWritable) :
    ∃ v', v.choose c = .ok v' ∧ (∀ other, v'.Gives other ↔ v.Gives other ∨ other = c) ∧
      v'.paths = v.paths := by
  cases c with
  | switch s =>
      have hoff : ¬ v.has s = true := fun hs => hnew (.switch s) hs rfl
      refine ⟨{ v with switches := s :: v.switches }, if_neg hoff, fun other => ?_, rfl⟩
      cases other <;> simp [Gives, has, or_comm]
  | config path =>
      have hnone : v.config = none :=
        Option.eq_none_iff_forall_ne_some.mpr fun path' h => hnew (.config path') h rfl
      have hpath : path ≠ .empty := fun h => hc (congrArg _ h)
      refine ⟨{ v with config := some path }, by simp [choose, give, hnone, hpath],
        fun other => ?_, rfl⟩
      cases other <;> simp [Gives, has, hnone, eq_comm]
  | difficulty d =>
      have hnone : v.difficulty = none :=
        Option.eq_none_iff_forall_ne_some.mpr fun d' h => hnew (.difficulty d') h rfl
      have hread : readValue Difficulty.ofLabel? .invalidValue (.ofString d.label) = .ok d :=
        readValue_ofString d.ofLabel?_label
      refine ⟨{ v with difficulty := some d }, by simp only [choose, give, hnone, hread]; rfl,
        fun other => ?_, rfl⟩
      cases other <;> simp [Gives, has, hnone, eq_comm]
  | seed n =>
      have hnone : v.seed = none :=
        Option.eq_none_iff_forall_ne_some.mpr fun n' h => hnew (.seed n') h rfl
      have hread : readValue seedOfText? .malformedValue (.ofString (toString n.toNat)) = .ok n :=
        readValue_ofString (seedOfText?_toString n)
      refine ⟨{ v with seed := some n }, by simp only [choose, give, hnone, hread]; rfl,
        fun other => ?_, rfl⟩
      cases other <;> simp [Gives, has, hnone, eq_comm]

/-- An option that asks for something else than those before it is added to them. -/
theorem Holds.exists_choose_eq_ok {v : Values} {chosen : List Choice} {c : Choice}
    (h : v.Holds chosen) (hnew : c.meaning ∉ chosen.map Choice.meaning) (hc : c.IsWritable) :
    ∃ v', v.choose c = .ok v' ∧ v'.Holds (chosen ++ [c]) := by
  have hother : ∀ other, v.Gives other → other.meaning ≠ c.meaning := by
    intro other hother heq
    exact hnew (List.mem_map.mpr ⟨other, (h.gives_iff other).mp hother, heq⟩)
  rcases Values.exists_choose_eq_ok hother hc with ⟨v', hv', hgives, hpaths⟩
  refine ⟨v', hv', fun other => ?_, hpaths.trans h.paths_eq⟩
  rw [hgives, h.gives_iff, List.mem_append, List.mem_singleton]

end Values

/-- Options that ask for different things are read one after the other. -/
theorem Progress.read_choices {scope : Option Verb} {cs chosen : List Choice} {v : Values}
    (h : v.Holds chosen) (hnodup : ((chosen ++ cs).map Choice.meaning).Nodup)
    (hcs : ∀ c ∈ cs, c.IsWritable ∧ c.KnownIn scope) :
    ∃ v', v'.Holds (chosen ++ cs) ∧ ∀ rest,
      read scope ⟨v, .nothing⟩ (cs.map Choice.argument ++ rest) =
        read scope ⟨v', .nothing⟩ rest := by
  -- Every step leaves values that hold the options read so far, and nothing waits after it.
  induction cs generalizing chosen v with
  | nil => exact ⟨v, by rwa [List.append_nil], fun _ => rfl⟩
  | cons c cs ih =>
      rcases List.forall_mem_cons.mp hcs with ⟨⟨hwritable, hknown⟩, hcs⟩
      have hnew : c.meaning ∉ chosen.map Choice.meaning := by
        intro hmem
        rw [List.map_append, List.map_cons, List.nodup_append] at hnodup
        exact hnodup.2.2 _ hmem _ (by simp) rfl
      rcases h.exists_choose_eq_ok hnew hwritable with ⟨v', hv', hholds⟩
      rw [List.append_cons] at hnodup ⊢
      rcases ih hholds hnodup hcs with ⟨v'', hholds', hread⟩
      refine ⟨v'', hholds', fun rest => ?_⟩
      rw [List.map_cons, List.cons_append, read_choice hknown hv', hread]

end ScriptReview
