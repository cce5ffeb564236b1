import ScriptReview.Command.Run
import ScriptReview.Proofs.Exercise.Draws
import ScriptReview.Proofs.Json.Spelling

/-!
# Printed exercises make up a catalog

Exercises that are printed as JSON may be put together to the text of a catalog, each of them in the
bucket that it declares.  The catalog that is read from the text has these exercises again.

Main definitions:

* `Catalog.assemble` puts the printed texts of exercises into the buckets of an object.
* `Exercise.Portable` says that the values of an exercise are kept, and are not nested too deeply.

Main results:

* `TestCase.ofDocument?_of_strict?` and `Exercise.ofDocument?_of_strict?` say that test cases and
  exercises are read from what they are written as.
* `Catalog.ofText_assemble` says that the catalog of the text has the exercises.
-/

namespace ScriptReview

open Json (Value Document)

/-! ## Test cases -/

namespace TestCase

/-- The values of a test case are kept. -/
structure Portable (c : TestCase) : Prop where
  input : ∀ v ∈ c.input, v.Portable (· < ·)
  expected : c.expected.Portable (· < ·)

/-- A test case is kept as JSON if its values are. -/
theorem portable_toJson {c : TestCase} (h : c.Portable) : c.toJson.Portable (· ≠ ·) := by
  have hne : ∀ m n : String, m < n → m ≠ n := fun m n => ne_of_lt
  refine .object (by simp) ?_
  simp only [List.forall_mem_cons]
  exact ⟨.array fun v hv => (h.input v hv).imp hne, h.expected.imp hne, .string _, by simp⟩

/-- A test case is read from a document that stands for it and is not nested too deeply. -/
theorem ofDocument?_of_strict? {c : TestCase} (hc : c.Portable) {d : Document}
    (h : d.strict? = some c.toJson) {depth : Nat} (hdepth : c.toJson.nesting ≤ depth) :
    ofDocument? depth d = some c := by
  rcases Document.exists_record?_eq_of_strict? h with ⟨ds, hrecord, hds⟩
  simp only [List.forall₂_cons_right_iff, List.forall₂_nil_right_iff] at hds
  rcases hds with ⟨input, _, hinput, ⟨expected, _, hexpected, ⟨description, _, hdescription,
    rfl, rfl⟩, rfl⟩, rfl⟩
  have harray : (Value.array c.input).nesting < c.toJson.nesting :=
    Value.nesting_lt_of_mem_members (m := ("input", .array c.input)) (by simp)
  have hresult : c.expected.nesting < c.toJson.nesting :=
    Value.nesting_lt_of_mem_members (m := ("expected", c.expected)) (by simp)
  have hitems : ∀ v ∈ c.input, v.Portable (· < ·) ∧ v.nesting ≤ depth - 2 := by
    intro v hv
    have hlt := Value.nesting_lt_of_mem_items hv
    exact ⟨hc.input v hv, by omega⟩
  rcases Document.exists_values?_eq_of_strict? hinput hitems with ⟨items, hds, hvalues⟩
  have hvalue : expected.value? (depth - 1) = some c.expected :=
    Document.value?_of_strict? hc.expected hexpected (by omega)
  have hrecord' : d.record? fields = some [some input, some expected, some description] := hrecord
  rw [ofDocument?, hrecord']
  simp [hds, hvalues, hvalue, Document.text?_of_strict? hdescription]

end TestCase

/-! ## Exercises -/

namespace Exercise

/-- The values of an exercise are kept, and no more arrays and objects are open at one place of the
exercise than may be, together with an array and an object around it. -/
structure Portable (e : Exercise) : Prop where
  testCases : ∀ c ∈ e.testCases, c.Portable
  nesting : 2 + e.toJson.nesting ≤ Document.depthLimit

/-- An exercise is kept as JSON if its values are. -/
theorem portable_toJson {e : Exercise} (h : ∀ c ∈ e.testCases, c.Portable) :
    e.toJson.Portable (· ≠ ·) := by
  refine .object (by simp) ?_
  simp only [List.forall_mem_cons]
  exact ⟨.string _, .string _, .string _, .string _,
    Value.portable_map fun c hc => TestCase.portable_toJson (h c hc),
    Value.portable_map fun s _ => .string s, by simp⟩

/-- An exercise is read from a document that stands for it and is not nested too deeply. -/
theorem ofDocument?_of_strict? {e : Exercise} (he : ∀ c ∈ e.testCases, c.Portable) {d : Document}
    (h : d.strict? = some e.toJson) {depth : Nat} (hdepth : e.toJson.nesting ≤ depth) :
    ofDocument? depth d = some e := by
  rcases Document.exists_record?_eq_of_strict? h with ⟨ds, hrecord, hds⟩
  simp only [List.forall₂_cons_right_iff, List.forall₂_nil_right_iff] at hds
  rcases hds with ⟨title, _, htitle, ⟨description, _, hdescription, ⟨difficulty, _, hdifficulty,
    ⟨stub, _, hstub, ⟨testCases, _, htestCases, ⟨hints, _, hhints, rfl, rfl⟩, rfl⟩, rfl⟩, rfl⟩,
    rfl⟩, rfl⟩
  have harray : (Value.array (e.testCases.map TestCase.toJson)).nesting < e.toJson.nesting :=
    Value.nesting_lt_of_mem_members
      (m := ("testCases", .array (e.testCases.map TestCase.toJson))) (by simp)
  have hcases : testCases.items?.bind (·.mapM (TestCase.ofDocument? (depth - 2))) =
      some e.testCases := by
    refine Document.mapM_items?_of_strict? htestCases fun c hc d hd => ?_
    have hlt := Value.nesting_lt_of_mem_items (List.mem_map_of_mem (f := TestCase.toJson) hc)
    exact TestCase.ofDocument?_of_strict? (he c hc) hd (by omega)
  rcases Option.bind_eq_some_iff.mp hcases with ⟨items, hitems, hmapM⟩
  have hrecord' : d.record? fields = some [some title, some description, some difficulty,
      some stub, some testCases, some hints] := hrecord
  rw [ofDocument?, hrecord']
  simp [hitems, hmapM, Document.text?_of_strict? htitle, Document.text?_of_strict? hdescription,
    Document.choice?_of_strict? hdifficulty, Document.text?_of_strict? hstub,
    Document.texts?_of_strict? hhints]

/-- Exercises are read from an array that stands for them and is not nested too deeply. -/
theorem listOfDocument?_of_strict? {es : List Exercise}
    (hes : ∀ e ∈ es, ∀ c ∈ e.testCases, c.Portable) {d : Document}
    (h : d.strict? = some (.array (es.map toJson))) {depth : Nat}
    (hdepth : ∀ e ∈ es, e.toJson.nesting < depth) : listOfDocument? depth d = some es := by
  refine Document.mapM_items?_of_strict? h fun e he d hd => ?_
  have hlt := hdepth e he
  exact ofDocument?_of_strict? (hes e he) hd (by omega)

end Exercise

/-! ## Catalogs -/

namespace Catalog

open Json.Value (quote)
open Text (joinWith)

/-- The exercises of a list that declare a difficulty. -/
def declaring (es : List Exercise) (d : Difficulty) : List Exercise :=
  es.filter (·.difficulty = d)

/-- The text of a bucket: its name and an array of the printed texts of exercises. -/
def bucketText (colors : Bool) (es : List Exercise) (d : Difficulty) : List Char :=
  quote d.label ++ ':' :: '[' ::
    (joinWith ',' ((declaring es d).map fun e => ((e.printed true).toText colors).toList) ++ [']'])

/-- The text of an object whose members are buckets. Every exercise is in the one that it
declares. -/
def assemble (colors : Bool) (es : List Exercise) : String :=
  String.ofList ('\x7b' :: (joinWith ',' (Difficulty.all.map (bucketText colors es)) ++ ['\x7d']))

/-- The buckets of some exercises as JSON. -/
def bucketsJson (es : List Exercise) : Value :=
  .object (Difficulty.all.map fun d => (d.label, .array ((declaring es d).map Exercise.toJson)))

/-- The text of buckets spells the buckets. -/
theorem spelled_assemble {es : List Exercise} (hes : ∀ e ∈ es, ∀ c ∈ e.testCases, c.Portable)
    (colors : Bool) : Value.Spelled (assemble colors es).toList (bucketsJson es) := by
  have hnone : Document.Blank [] := by simp [Document.Blank]
  rw [assemble, String.toList_ofList]
  refine Value.spelled_object ?_ (by simp [Difficulty.all, Difficulty.label]) hnone
  rw [List.forall₂_map_left_iff, List.forall₂_map_right_iff, List.forall₂_same]
  intro d _
  refine Value.spelledMember_intro hnone d.label (Value.spelled_array ?_ hnone)
  rw [List.forall₂_map_left_iff, List.forall₂_map_right_iff, List.forall₂_same]
  intro e he
  exact Value.spelled_printed (Exercise.portable_toJson (hes e (List.mem_of_mem_filter he))) colors

/-- A bucket is read from a document that stands for the exercises that belong there. -/
theorem bucketOfDocument?_of_strict? {es : List Exercise} (hes : ∀ e ∈ es, e.Portable)
    {difficulty : Difficulty} {d : Document}
    (h : d.strict? = some (.array ((declaring es difficulty).map Exercise.toJson))) :
    bucketOfDocument? (some d) = some ((ofExercises es).bucket difficulty) := by
  have hlimit : Document.depthLimit = 127 := rfl
  rw [bucket_ofExercises]
  refine Exercise.listOfDocument?_of_strict? (fun e he => ?_) h fun e he => ?_
  · exact (hes e (List.mem_of_mem_filter he)).testCases
  · have hnesting := (hes e (List.mem_of_mem_filter he)).nesting
    omega

/-- A catalog is read from a document that stands for its buckets. -/
theorem ofDocument?_of_strict? {es : List Exercise} (hes : ∀ e ∈ es, e.Portable) {d : Document}
    (h : d.strict? = some (bucketsJson es)) : ofDocument? d = some (ofExercises es) := by
  rcases Document.exists_record?_eq_of_strict? h with ⟨ds, hrecord, hds⟩
  simp only [Difficulty.all, List.map_cons, List.map_nil, List.forall₂_cons_right_iff,
    List.forall₂_nil_right_iff] at hds
  rcases hds with ⟨easy, _, heasy, ⟨medium, _, hmedium, ⟨hard, _, hhard, rfl, rfl⟩, rfl⟩, rfl⟩
  have hrecord' : d.record? (Difficulty.all.map Difficulty.label) =
      some [some easy, some medium, some hard] := hrecord
  rw [ofDocument?, hrecord']
  simp only [Option.bind_eq_bind, Option.bind_some, bucketOfDocument?_of_strict? hes heasy,
    bucketOfDocument?_of_strict? hes hmedium, bucketOfDocument?_of_strict? hes hhard]
  rfl

/--
Exercises are printed as JSON one by one, and the texts are put into the buckets of an object.  The
text is accepted as a catalog, and the catalog has the exercises, sorted into buckets.
-/
theorem ofText_assemble {es : List Exercise} (hes : ∀ e ∈ es, e.Portable) (colors : Bool) :
    ofText (assemble colors es) = .ok (ofExercises es) := by
  rcases spelled_assemble (fun e he => (hes e he).testCases) colors with ⟨d, hread, hd⟩
  rw [ofText, Document.read?_of_reads hread, Option.bind_some, ofDocument?_of_strict? hes hd]
  have hfiled : (ofExercises es).misfiled? = none :=
    (misfiled?_eq_none_iff _).mpr (Obtained.exercises es).filed
  simp only [validate, hfiled]

/-- An exercise with escapes in its texts, and with the smallest and the largest integer, empty
brackets and an object among its values. -/
def escapedExercise : Exercise where
  title := "a\"\\\u0001\uD7FF\uE000"
  description := "a\tb"
  difficulty := .hard
  stub := "function f() \x7b\x7d\n"
  testCases := [{
    input := [.int (-powerOfTwo 63), .int (powerOfTwo 64 - 1), .array [], .object []]
    expected := .object [("", .array [.null]), ("a", .bool true), ("b", .string "\r")]
    description := "" }]
  hints := ["", "/"]

/-- An exercise without test cases and hints. -/
def emptyExercise : Exercise where
  title := ""
  description := ""
  difficulty := .easy
  stub := ""
  testCases := []
  hints := []

/-- Two exercises of different difficulties are sorted into their buckets and found there again. -/
theorem ofText_assemble_escaped :
    (∀ e ∈ [escapedExercise, emptyExercise], e.Portable) ∧
      ofText (assemble true [escapedExercise, emptyExercise]) =
        .ok ⟨[emptyExercise], [], [escapedExercise]⟩ := by
  have hinput : ∀ v ∈ [Value.int (-powerOfTwo 63), .int (powerOfTwo 64 - 1), .array [], .object []],
      v.Portable (· < ·) := by
    simp only [List.forall_mem_cons]
    exact ⟨.int (by decide) (by decide), .int (by decide) (by decide), .array (by simp),
      .object (by simp) (by simp), by simp⟩
  have hexpected : (Value.object [("", .array [.null]), ("a", .bool true),
      ("b", .string "\r")]).Portable (· < ·) := by
    refine .object (by decide) ?_
    simp only [List.forall_mem_cons]
    exact ⟨.array (by simp [Value.Portable.null]), .bool true, .string _, by simp⟩
  have hescaped : escapedExercise.Portable := by
    refine ⟨?_, by decide⟩
    simp only [escapedExercise, List.forall_mem_cons]
    exact ⟨⟨hinput, hexpected⟩, by simp⟩
  have hempty : emptyExercise.Portable := ⟨by simp [emptyExercise], by decide⟩
  have hes : ∀ e ∈ [escapedExercise, emptyExercise], e.Portable := by
    simp only [List.forall_mem_cons]
    exact ⟨hescaped, hempty, by simp⟩
  exact ⟨hes, ofText_assemble hes true⟩

end Catalog
end ScriptReview
