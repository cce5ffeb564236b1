import Mathlib.Logic.Relation
import ScriptReview.Exercise.Catalog
import ScriptReview.Proofs.Json.Records

/-!
# The members of catalogs

A catalog is read alike however the members of its objects are arranged, those of the catalog
itself, of its exercises and of their test cases.  Members that are no fields make no difference,
nor does an empty bucket where there was none.  A record that lacks a field, or has one twice,
spoils the whole catalog, wherever the record stands.

Main definitions:

* `TestCase.Changed`, `Exercise.Changed` and `Catalog.Changed` are single changes of such a kind.
* `TestCase.Defective`, `Exercise.Defective` and `Catalog.Defective` say that a record is spoiled or
  has a spoiled one in it.

Main results:

* `Catalog.Changed.ofDocument?_eq` says that a change leaves what is read.
* `Catalog.Defective.ofDocument?_eq_none` says that nothing is read from a spoiled catalog.
* `Catalog.ofText_of_members` says both of the texts of catalogs.
-/

namespace ScriptReview

open Json (Document)
open Json.Document

/-! ## Test cases -/

namespace TestCase

/-- A change to the members of a test case. -/
abbrev Changed : Document → Document → Prop :=
  MembersChanged fields

/-- A test case lacks a field or has one twice. -/
inductive Defective (d : Document) : Prop
  | lacking (h : Lacking fields d)
  | repeated (h : Repeated fields d)

/-- A test case that is read has all its fields. -/
theorem exists_record?_eq {depth : Nat} {d : Document} {c : TestCase}
    (h : ofDocument? depth d = some c) : ∃ fs, d.record? fields = some fs ∧ none ∉ fs := by
  simp only [ofDocument?, Option.bind_eq_bind, Option.bind_eq_some_iff] at h
  obtain ⟨fs, hfs, h⟩ := h
  split at h
  · exact ⟨_, hfs, by simp⟩
  · contradiction

/-- A change to the members leaves what is read. -/
theorem Changed.ofDocument?_eq {depth : Nat} {d d' : Document} (h : Changed d d') :
    ofDocument? depth d' = ofDocument? depth d := by
  rw [ofDocument?, ofDocument?, h.record?_eq]

/-- Nothing is read from a spoiled test case. -/
theorem Defective.ofDocument?_eq_none {depth : Nat} {d : Document} (h : Defective d) :
    ofDocument? depth d = none := by
  apply Option.eq_none_iff_forall_ne_some.mpr
  intro c hc
  obtain ⟨fs, hfs, hall⟩ := exists_record?_eq hc
  cases h with
  | lacking h => exact hall (h.none_mem hfs)
  | repeated h =>
      rw [h.record?_eq_none] at hfs
      contradiction

end TestCase

/-! ## Exercises -/

namespace Exercise

/-- A change to the members of an exercise or of one of its test cases. -/
inductive Changed (d d' : Document) : Prop
  | members (h : MembersChanged fields d d')
  | testCase (h : FieldChanged fields "testCases" (ItemChanged TestCase.Changed) d d')

/-- An exercise lacks a field or has one twice, or one of its test cases does. -/
inductive Defective (d : Document) : Prop
  | lacking (h : Lacking fields d)
  | repeated (h : Repeated fields d)
  | testCase (h : FieldHolds fields "testCases" (ItemHolds TestCase.Defective) d)

/-- Reads the test cases of an exercise in which at most `depth` arrays and objects may be open. -/
def testCases? (depth : Nat) (d : Document) : Option (List TestCase) :=
  d.items?.bind (·.mapM (TestCase.ofDocument? (depth - 2)))

/-- An exercise is read field by field. -/
theorem ofDocument?_eq_some_iff (depth : Nat) (d : Document) (e : Exercise) :
    ofDocument? depth d = some e ↔
      ∃ title description difficulty stub cases hints,
        d.record? fields = some [some title, some description, some difficulty, some stub,
          some cases, some hints] ∧
        title.text? = some e.title ∧ description.text? = some e.description ∧
        difficulty.choice? Difficulty.ofLabel? = some e.difficulty ∧ stub.text? = some e.stub ∧
        testCases? depth cases = some e.testCases ∧ hints.texts? = some e.hints := by
  simp only [ofDocument?, Option.bind_eq_bind, Option.bind_eq_some_iff]
  constructor
  · intro h
    obtain ⟨fs, hfs, h⟩ := h
    split at h
    · rename_i title description difficulty stub cases hints
      simp only [Option.bind_eq_some_iff] at h
      obtain ⟨_, htitle, _, hdescription, _, hdifficulty, _, hstub, items, hitems, _, hcases, _,
        hhints, he⟩ := h
      obtain rfl := Option.some.inj he
      refine ⟨title, description, difficulty, stub, cases, hints, hfs, htitle, hdescription,
        hdifficulty, hstub, ?_, hhints⟩
      rw [testCases?, hitems, Option.bind_some, hcases]
    · contradiction
  · intro h
    obtain ⟨title, description, difficulty, stub, cases, hints, hfs, htitle, hdescription,
      hdifficulty, hstub, hcases, hhints⟩ := h
    obtain ⟨items, hitems, hcases⟩ := Option.bind_eq_some_iff.mp hcases
    refine ⟨_, hfs, ?_⟩
    simp only [htitle, hdescription, hdifficulty, hstub, hitems, hcases, hhints,
      Option.bind_some]

/-- The fields of an exercise are different. -/
theorem nodup_fields : fields.Nodup := by decide

/-- Another list of test cases makes no difference if it is read alike. -/
theorem ofDocument?_of_fieldChanged {depth : Nat} {R : Document → Document → Prop}
    (hR : ∀ v v', R v v' → testCases? depth v' = testCases? depth v) {d d' : Document}
    (h : FieldChanged fields "testCases" R d d') {e : Exercise}
    (he : ofDocument? depth d = some e) : ofDocument? depth d' = some e := by
  rw [ofDocument?_eq_some_iff] at he ⊢
  obtain ⟨title, description, difficulty, stub, cases, hints, hfs, htitle, hdescription,
    hdifficulty, hstub, hcases, hhints⟩ := he
  obtain ⟨v, v', hchange, hplace, hfs'⟩ := h.exists_record?_eq nodup_fields (i := 4) rfl hfs
  obtain rfl : cases = v := Option.some.inj (Option.some.inj hplace)
  refine ⟨title, description, difficulty, stub, v', hints, hfs', htitle, hdescription,
    hdifficulty, hstub, ?_, hhints⟩
  rw [hR _ _ hchange, hcases]

/-- A change to the members leaves what is read. -/
theorem Changed.ofDocument?_eq {depth : Nat} {d d' : Document} (h : Changed d d') :
    ofDocument? depth d' = ofDocument? depth d := by
  cases h with
  | members h => rw [ofDocument?, ofDocument?, h.record?_eq]
  | testCase h =>
      have hread : ∀ v v', ItemChanged TestCase.Changed v v' →
          testCases? depth v' = testCases? depth v := by
        intro v v' hv
        exact hv.mapM_items?_eq fun c c' hc => TestCase.Changed.ofDocument?_eq hc
      -- The change may be taken back, so that one direction is enough.
      apply Option.ext
      intro e
      constructor
      · exact ofDocument?_of_fieldChanged (fun v v' hv => (hread v' v hv).symm) h.symm
      · exact ofDocument?_of_fieldChanged hread h

/-- Nothing is read from a spoiled exercise. -/
theorem Defective.ofDocument?_eq_none {depth : Nat} {d : Document} (h : Defective d) :
    ofDocument? depth d = none := by
  apply Option.eq_none_iff_forall_ne_some.mpr
  intro e he
  obtain ⟨title, description, difficulty, stub, cases, hints, hfs, -, -, -, -, hcases, -⟩ :=
    (ofDocument?_eq_some_iff depth d e).mp he
  cases h with
  | lacking h => simpa using h.none_mem hfs
  | repeated h =>
      rw [h.record?_eq_none] at hfs
      contradiction
  | testCase h =>
      obtain ⟨v, hv, hplace⟩ := h.exists_getElem?_eq nodup_fields (i := 4) rfl hfs
      obtain rfl : cases = v := Option.some.inj (Option.some.inj hplace)
      have hnone : testCases? depth cases = none :=
        hv.mapM_items?_eq_none fun c hc => hc.ofDocument?_eq_none
      rw [hnone] at hcases
      contradiction

end Exercise

/-! ## Catalogs -/

namespace Catalog

/-- The names of the buckets. -/
abbrev fields : List String :=
  Difficulty.all.map Difficulty.label

/-- A change to the members of a catalog, of one of its exercises or of one of their test cases, or
an empty bucket where there was none. -/
inductive Changed (d d' : Document) : Prop
  | members (h : MembersChanged fields d d')
  | bucketAdded (difficulty : Difficulty) (h : FieldAdded difficulty.label (.array []) d d')
  | exercise (difficulty : Difficulty)
      (h : FieldChanged fields difficulty.label (ItemChanged Exercise.Changed) d d')

/-- A catalog has a bucket twice, or one of its exercises is spoiled. -/
inductive Defective (d : Document) : Prop
  | repeated (h : Repeated fields d)
  | exercise (difficulty : Difficulty)
      (h : FieldHolds fields difficulty.label (ItemHolds Exercise.Defective) d)

/-- The place of a bucket. -/
def place : Difficulty → Nat
  | .easy => 0
  | .medium => 1
  | .hard => 2

/-- The name of a bucket stands in its place. -/
theorem getElem?_fields (difficulty : Difficulty) :
    fields[place difficulty]? = some difficulty.label := by
  cases difficulty <;> rfl

/-- The buckets have different names. -/
theorem nodup_fields : fields.Nodup := by decide

/-- A catalog is read bucket by bucket. -/
theorem ofDocument?_eq_some_iff (d : Document) (c : Catalog) :
    ofDocument? d = some c ↔
      ∃ fs, d.record? fields = some fs ∧
        ∀ difficulty, ∃ f, fs[place difficulty]? = some f ∧
          bucketOfDocument? f = some (c.bucket difficulty) := by
  simp only [ofDocument?, Option.bind_eq_bind, Option.bind_eq_some_iff]
  constructor
  · intro h
    obtain ⟨fs, hfs, h⟩ := h
    refine ⟨fs, hfs, ?_⟩
    split at h
    · simp only [Option.bind_eq_some_iff] at h
      obtain ⟨_, heasy, _, hmedium, _, hhard, hc⟩ := h
      obtain rfl := Option.some.inj hc
      intro difficulty
      cases difficulty with
      | easy => exact ⟨_, rfl, heasy⟩
      | medium => exact ⟨_, rfl, hmedium⟩
      | hard => exact ⟨_, rfl, hhard⟩
    · contradiction
  · intro h
    obtain ⟨fs, hfs, hbuckets⟩ := h
    refine ⟨fs, hfs, ?_⟩
    obtain ⟨easy, medium, hard, rfl⟩ := List.length_eq_three.mp (length_record? hfs)
    obtain ⟨f, hf, heasy⟩ := hbuckets .easy
    obtain rfl : easy = f := Option.some.inj hf
    obtain ⟨f, hf, hmedium⟩ := hbuckets .medium
    obtain rfl : medium = f := Option.some.inj hf
    obtain ⟨f, hf, hhard⟩ := hbuckets .hard
    obtain rfl : hard = f := Option.some.inj hf
    simp only [heasy, hmedium, hhard, Option.bind_some, bucket]

/-- Another bucket makes no difference if it is read alike. -/
theorem ofDocument?_of_set {d d' : Document} {fs : List (Option Document)}
    (hfs : d.record? fields = some fs) {i : Nat} {f f' : Option Document} (hf : fs[i]? = some f)
    (hfs' : d'.record? fields = some (fs.set i f'))
    (hread : bucketOfDocument? f' = bucketOfDocument? f) {c : Catalog}
    (hc : ofDocument? d = some c) : ofDocument? d' = some c := by
  rw [ofDocument?_eq_some_iff] at hc ⊢
  obtain ⟨_, hrecord, hbuckets⟩ := hc
  obtain rfl := Option.some.inj (hfs.symm.trans hrecord)
  refine ⟨_, hfs', ?_⟩
  intro difficulty
  obtain ⟨g, hg, hbucket⟩ := hbuckets difficulty
  rw [List.getElem?_set]
  by_cases hi : i = place difficulty
  · have hlt : i < fs.length := (List.getElem?_eq_some_iff.mp hf).1
    obtain rfl : f = g := Option.some.inj (by rw [← hf, hi, hg])
    refine ⟨f', by rw [if_pos hi, if_pos hlt], ?_⟩
    rw [hread, hbucket]
  · exact ⟨g, by rw [if_neg hi, hg], hbucket⟩

/-- A bucket that is missing is read as an empty one. -/
theorem bucketOfDocument?_empty : bucketOfDocument? (some (.array [])) = bucketOfDocument? none :=
  rfl

/-- A bucket with other exercises makes no difference if it is read alike. -/
theorem ofDocument?_of_fieldChanged {R : Document → Document → Prop}
    (hR : ∀ v v', R v v' → bucketOfDocument? (some v') = bucketOfDocument? (some v))
    {difficulty : Difficulty} {d d' : Document} (h : FieldChanged fields difficulty.label R d d')
    {c : Catalog} (hc : ofDocument? d = some c) : ofDocument? d' = some c := by
  obtain ⟨fs, hfs, -⟩ := (ofDocument?_eq_some_iff d c).mp hc
  obtain ⟨v, v', hchange, hplace, hfs'⟩ :=
    h.exists_record?_eq nodup_fields (getElem?_fields difficulty) hfs
  exact ofDocument?_of_set hfs hplace hfs' (hR v v' hchange) hc

/-- A change to the members leaves what is read. -/
theorem Changed.ofDocument?_eq {d d' : Document} (h : Changed d d') :
    ofDocument? d' = ofDocument? d := by
  cases h with
  | members h => rw [ofDocument?, ofDocument?, h.record?_eq]
  | bucketAdded difficulty h =>
      obtain ⟨hadd, hdrop⟩ := h.record?_eq nodup_fields (getElem?_fields difficulty)
      apply Option.ext
      intro c
      constructor
      · intro hc
        obtain ⟨fs, hfs, -⟩ := (ofDocument?_eq_some_iff d' c).mp hc
        obtain ⟨hplace, hfs'⟩ := hdrop fs hfs
        exact ofDocument?_of_set hfs hplace hfs' bucketOfDocument?_empty.symm hc
      · intro hc
        obtain ⟨fs, hfs, -⟩ := (ofDocument?_eq_some_iff d c).mp hc
        obtain ⟨hplace, hfs'⟩ := hadd fs hfs
        exact ofDocument?_of_set hfs hplace hfs' bucketOfDocument?_empty hc
  | exercise difficulty h =>
      have hread : ∀ v v', ItemChanged Exercise.Changed v v' →
          bucketOfDocument? (some v') = bucketOfDocument? (some v) := by
        intro v v' hv
        exact hv.mapM_items?_eq fun e e' he => he.ofDocument?_eq
      apply Option.ext
      intro c
      constructor
      · exact ofDocument?_of_fieldChanged (fun v v' hv => (hread v' v hv).symm) h.symm
      · exact ofDocument?_of_fieldChanged hread h

/-- Any number of changes leaves what is read. -/
theorem ofDocument?_of_changes {d d' : Document} (h : Relation.EqvGen Changed d d') :
    ofDocument? d' = ofDocument? d := by
  have hstep : ∀ d d', Changed d d' → ofDocument? d = ofDocument? d' := by
    intro d d' hchange
    exact hchange.ofDocument?_eq.symm
  exact congrArg (Quot.lift ofDocument? hstep) (Quot.eqvGen_sound h).symm

/-- Nothing is read from a spoiled catalog. -/
theorem Defective.ofDocument?_eq_none {d : Document} (h : Defective d) : ofDocument? d = none := by
  apply Option.eq_none_iff_forall_ne_some.mpr
  intro c hc
  obtain ⟨fs, hfs, hbuckets⟩ := (ofDocument?_eq_some_iff d c).mp hc
  cases h with
  | repeated h =>
      rw [h.record?_eq_none] at hfs
      contradiction
  | exercise difficulty h =>
      obtain ⟨v, hv, hplace⟩ :=
        h.exists_getElem?_eq nodup_fields (getElem?_fields difficulty) hfs
      have hnone : bucketOfDocument? (some v) = none :=
        hv.mapM_items?_eq_none fun e he => he.ofDocument?_eq_none
      obtain ⟨f, hf, hbucket⟩ := hbuckets difficulty
      obtain rfl : some v = f := Option.some.inj (by rw [← hplace, hf])
      rw [hnone] at hbucket
      contradiction

/--
Changes to the order of the members of a catalog, its exercises and their test cases, members that
are no fields and empty buckets leave the outcome of reading a text: the same catalog or the same
fault.  A field that is missing from an exercise or a test case, or one that comes twice in a
record, is a fault of the text as a whole.
-/
theorem ofText_of_members :
    (∀ text text' : String, ∀ d d', Document.read? text.toList = some d →
      Document.read? text'.toList = some d' → Relation.EqvGen Changed d d' →
      ofText text' = ofText text) ∧
    ∀ text : String, ∀ d, Document.read? text.toList = some d → Defective d →
      ofText text = .error .catalog := by
  constructor
  · intro text text' d d' hd hd' h
    rw [ofText, ofText, hd, hd', Option.bind_some, Option.bind_some, ofDocument?_of_changes h]
  · intro text d hd h
    rw [ofText, hd, Option.bind_some, h.ofDocument?_eq_none]

/-- The text of a catalog with one exercise, which lies in the easy bucket and declares to be hard.
-/
def sample (bucket note testCase : String) : String :=
  "\x7b" ++ bucket ++ "\"easy\":[\x7b" ++ note ++ "\"title\":\"a\",\"description\":\"\"," ++
    "\"difficulty\":\"hard\",\"functionStub\":\"\",\"testCases\":[\x7b" ++ testCase ++
    "\x7d],\"hints\":[]\x7d]\x7d"

/-- A name without escapes. -/
def symbols (name : String) : List Json.Symbol :=
  name.toList.map .plain

/-- The document of such a text. -/
def sampleDocument (bucket note testCase : Members) : Document :=
  .object (bucket ++ [(symbols "easy", .array [.object (note ++ [
    (symbols "title", .string (symbols "a")), (symbols "description", .string []),
    (symbols "difficulty", .string (symbols "hard")), (symbols "functionStub", .string []),
    (symbols "testCases", .array [.object testCase]), (symbols "hints", .array [])])])])

/-- The arguments, the result and the description of a test case. -/
def input : List Json.Symbol × Document := (symbols "input", .array [])

@[inherit_doc input]
def expected : List Json.Symbol × Document := (symbols "expected", .null)

@[inherit_doc input]
def description : List Json.Symbol × Document := (symbols "description", .string [])

/-- A member that is no field of an exercise. -/
def note : List Json.Symbol × Document := (symbols "note", .number ⟨false, ['0'], [], none⟩)

set_option maxRecDepth 4000 in
/-- A catalog whose exercise is out of place is refused with the same fault after its test case is
arranged in another way, its exercise has a note and the hard bucket is written. It is refused as a
whole if the test case lacks its result. -/
theorem ofText_of_members_of_sample :
    ofText (sample "\"hard\":[]," "\"note\":0,"
        "\"expected\":null,\"description\":\"\",\"input\":[]") =
      .error (.misfiled "a" .easy .hard) ∧
    ofText (sample "" "" "\"input\":[],\"description\":\"\"") = .error .catalog := by
  have hread : Document.read? (sample "" ""
      "\"input\":[],\"expected\":null,\"description\":\"\"").toList =
      some (sampleDocument [] [] [input, expected, description]) := by decide +kernel
  have hread' : Document.read? (sample "\"hard\":[]," "\"note\":0,"
      "\"expected\":null,\"description\":\"\",\"input\":[]").toList =
      some (sampleDocument [(symbols "hard", .array [])] [note]
        [expected, description, input]) := by decide +kernel
  have hlacking : Document.read? (sample "" "" "\"input\":[],\"description\":\"\"").toList =
      some (sampleDocument [] [] [input, description]) := by decide +kernel
  have htestCase : Changed (sampleDocument [] [] [input, expected, description])
      (sampleDocument [] [] [expected, description, input]) := by
    have hperm : [input, expected, description].Perm [expected, description, input] :=
      @List.perm_append_comm _ [input] [expected, description]
    refine .exercise .easy (@FieldChanged.member _ _ _ [] [] (symbols "easy") _ _ rfl
      (@ItemChanged.item _ [] [] _ _ (.testCase ?_)))
    exact @FieldChanged.member _ _ _
      [(symbols "title", .string (symbols "a")), (symbols "description", .string []),
        (symbols "difficulty", .string (symbols "hard")), (symbols "functionStub", .string [])]
      [(symbols "hints", .array [])] (symbols "testCases") _ _ rfl
      (@ItemChanged.item _ [] [] _ _ (.permuted hperm))
  have hnote : Changed (sampleDocument [] [] [expected, description, input])
      (sampleDocument [] [note] [expected, description, input]) := by
    refine .exercise .easy (@FieldChanged.member _ _ _ [] [] (symbols "easy") _ _ rfl
      (@ItemChanged.item _ [] [] _ _ (.members ?_)))
    exact @MembersChanged.added _ [] _ (symbols "note") "note" _ rfl (by decide)
  have hbucket : Changed (sampleDocument [] [note] [expected, description, input])
      (sampleDocument [(symbols "hard", .array [])] [note] [expected, description, input]) := by
    refine .bucketAdded .hard (@FieldAdded.member _ _ [] _ (symbols "hard") ?_ rfl)
    have hne : textOf? (symbols "easy") ≠ some Difficulty.hard.label := by decide
    simpa using hne
  have hdefective : Defective (sampleDocument [] [] [input, description]) := by
    have hmissing : ∀ m ∈ [input, description], textOf? m.1 ≠ some "expected" := by
      have hinput : textOf? input.1 ≠ some "expected" := by decide
      have hdescription : textOf? description.1 ≠ some "expected" := by decide
      simp only [List.forall_mem_cons]
      exact ⟨hinput, hdescription, by simp⟩
    have hcase : TestCase.Defective (.object [input, description]) :=
      .lacking (.member (n := "expected") (by decide) hmissing)
    refine .exercise .easy (.member (List.mem_singleton_self _) rfl
      (.item (List.mem_singleton_self _) (.testCase ?_)))
    refine @FieldHolds.member _ _ _ _ (symbols "testCases") _ ?_ rfl
      (.item (List.mem_singleton_self _) hcase)
    simp
  constructor
  · rw [ofText_of_members.1 _ _ _ _ hread hread'
      (.trans _ _ _ (.rel _ _ htestCase) (.trans _ _ _ (.rel _ _ hnote) (.rel _ _ hbucket)))]
    rw [ofText, hread]
    rfl
  · exact ofText_of_members.2 _ _ hlacking hdefective

end Catalog
end ScriptReview
