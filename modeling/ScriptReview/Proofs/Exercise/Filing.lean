import ScriptReview.Proofs.Exercise.Draws

/-!
# Filing exercises

A catalog that is read has its exercises in the buckets of the text.  It is accepted exactly if
sorting all of them again gives the same three buckets; otherwise the fault names the first exercise
that is out of place, where the buckets are searched one after the other.

Main definitions:

* `Catalog.exercises` lists the exercises of all buckets, `Catalog.entries` each with its bucket.
* `Catalog.FirstMisfiled` says which entry is the first one that declares another bucket.

Main results:

* `Catalog.exercises_ofExercises_perm` says that sorting loses and doubles no exercise.
* `Catalog.ofExercises_exercises_eq_iff` says when sorting the exercises of a catalog gives the
  catalog again.
* `Catalog.misfiled?_eq_some_iff` says which fault the search finds.
* `Catalog.grouping_agrees` relates the acceptance of a text to sorting.
-/

namespace ScriptReview
namespace Catalog

/-! ## Exercises and their buckets -/

/-- The exercises of all buckets. -/
def exercises (c : Catalog) : List Exercise :=
  c.easy ++ c.medium ++ c.hard

/-- The exercises of all buckets, each with its bucket. -/
def entries (c : Catalog) : List (Difficulty × Exercise) :=
  c.easy.map (Difficulty.easy, ·) ++ c.medium.map (Difficulty.medium, ·) ++
    c.hard.map (Difficulty.hard, ·)

/-- An exercise is the first entry of a catalog that declares another bucket than it lies in. -/
def FirstMisfiled (c : Catalog) (d : Difficulty) (e : Exercise) : Prop :=
  ∃ before after, c.entries = before ++ (d, e) :: after ∧ e.difficulty ≠ d ∧
    ∀ entry ∈ before, entry.2.difficulty = entry.1

/-- Catalogs with the same buckets are equal. -/
theorem ext_bucket {c c' : Catalog} (h : ∀ d, c.bucket d = c'.bucket d) : c = c' := by
  rcases c with ⟨easy, medium, hard⟩
  rcases c' with ⟨easy', medium', hard'⟩
  have heasy : easy = easy' := h .easy
  have hmedium : medium = medium' := h .medium
  have hhard : hard = hard' := h .hard
  rw [heasy, hmedium, hhard]

/-- The size of a catalog counts its exercises. -/
theorem length_exercises (c : Catalog) : c.exercises.length = c.size := by
  simp [exercises, size, Nat.add_assoc]

/-! ## Sorting -/

/-- An exercise that is added comes on top of those that are there. -/
theorem exercises_put_perm (c : Catalog) (e : Exercise) :
    (c.put e).exercises.Perm (c.exercises ++ [e]) := by
  unfold put
  cases e.difficulty with
  | easy =>
      simp only [exercises, List.append_assoc]
      apply List.Perm.append_left
      apply List.perm_append_comm.trans
      simp
  | medium =>
      simp only [exercises, List.append_assoc]
      apply List.Perm.append_left
      apply List.Perm.append_left
      exact List.perm_append_comm
  | hard => simp [exercises]

/-- Exercises that are added one by one come on top of those that are there. -/
theorem exercises_foldl_put_perm (c : Catalog) (es : List Exercise) :
    (es.foldl put c).exercises.Perm (c.exercises ++ es) := by
  induction es generalizing c with
  | nil => simp
  | cons e es ih =>
      have hput : ((c.put e).exercises ++ es).Perm (c.exercises ++ [e] ++ es) :=
        (c.exercises_put_perm e).append_right es
      simpa using (ih (c.put e)).trans hput

/-- Sorting exercises loses none of them and doubles none. -/
theorem exercises_ofExercises_perm (es : List Exercise) : (ofExercises es).exercises.Perm es :=
  empty.exercises_foldl_put_perm es

/-- Of the exercises of a filed catalog, those that declare a difficulty are those of its bucket. -/
theorem Filed.filter_exercises {c : Catalog} (h : c.Filed) (d : Difficulty) :
    c.exercises.filter (·.difficulty = d) = c.bucket d := by
  have hsame : ∀ d', d' = d →
      (c.bucket d').filter (fun e => decide (e.difficulty = d)) = c.bucket d' := by
    intro d' hd'
    apply List.filter_eq_self.mpr
    intro e he
    simpa [hd'] using h d' e he
  have hother : ∀ d', d' ≠ d →
      (c.bucket d').filter (fun e => decide (e.difficulty = d)) = [] := by
    intro d' hd'
    apply List.filter_eq_nil_iff.mpr
    intro e he
    simpa [h d' e he] using hd'
  have hsplit : c.exercises.filter (fun e => decide (e.difficulty = d)) =
      (c.bucket .easy).filter (fun e => decide (e.difficulty = d)) ++
        (c.bucket .medium).filter (fun e => decide (e.difficulty = d)) ++
        (c.bucket .hard).filter (fun e => decide (e.difficulty = d)) := by
    simp [exercises, bucket]
  rw [hsplit]
  cases d with
  | easy => simp [hsame .easy, hother .medium, hother .hard]
  | medium => simp [hsame .medium, hother .easy, hother .hard]
  | hard => simp [hsame .hard, hother .easy, hother .medium]

/-- Sorting the exercises of a catalog gives the catalog again exactly if it is filed. -/
theorem ofExercises_exercises_eq_iff (c : Catalog) : ofExercises c.exercises = c ↔ c.Filed := by
  constructor
  · intro h
    rw [← h]
    exact (Obtained.exercises c.exercises).filed
  · intro h
    apply ext_bucket
    intro d
    rw [bucket_ofExercises, h.filter_exercises]

/-! ## Searching -/

/-- The fault of an entry that is out of place. -/
def misfiledEntry (entry : Difficulty × Exercise) : Fault :=
  .misfiled entry.2.title entry.1 entry.2.difficulty

/-- A bucket is searched from its first entry on. -/
theorem misfiledIn?_eq (c : Catalog) (d : Difficulty) :
    c.misfiledIn? d =
      (((c.bucket d).map (d, ·)).find? fun entry => entry.2.difficulty ≠ entry.1).map
        misfiledEntry := by
  rw [misfiledIn?, List.find?_map, Option.map_map]
  rfl

/-- The buckets are searched one after the other. -/
theorem misfiled?_eq (c : Catalog) :
    c.misfiled? =
      (c.entries.find? fun entry => entry.2.difficulty ≠ entry.1).map misfiledEntry := by
  simp only [misfiled?, Difficulty.all, List.findSome?_cons, List.findSome?_nil, misfiledIn?_eq,
    entries, List.find?_append, bucket]
  cases (c.easy.map (Difficulty.easy, ·)).find? fun entry => entry.2.difficulty ≠ entry.1 with
  | some entry => rfl
  | none =>
      cases (c.medium.map (Difficulty.medium, ·)).find? fun entry =>
          entry.2.difficulty ≠ entry.1 with
      | some entry => rfl
      | none =>
          cases (c.hard.map (Difficulty.hard, ·)).find? fun entry =>
              entry.2.difficulty ≠ entry.1 with
          | some entry => rfl
          | none => rfl

/-- The search finds the fault of the first entry that is out of place. -/
theorem misfiled?_eq_some_iff (c : Catalog) (fault : Fault) :
    c.misfiled? = some fault ↔
      ∃ d e, c.FirstMisfiled d e ∧ fault = .misfiled e.title d e.difficulty := by
  rw [misfiled?_eq, Option.map_eq_some_iff]
  constructor
  · intro h
    obtain ⟨⟨d, e⟩, hfind, hfault⟩ := h
    obtain ⟨hwrong, before, after, hentries, hbefore⟩ := List.find?_eq_some_iff_append.mp hfind
    refine ⟨d, e, ⟨before, after, hentries, by simpa using hwrong, ?_⟩, hfault.symm⟩
    intro entry hentry
    simpa using hbefore entry hentry
  · intro h
    obtain ⟨d, e, ⟨before, after, hentries, hwrong, hbefore⟩, hfault⟩ := h
    refine ⟨(d, e), List.find?_eq_some_iff_append.mpr ⟨by simpa using hwrong, before, after,
      hentries, ?_⟩, hfault.symm⟩
    intro entry hentry
    simpa using hbefore entry hentry

/-- A filed catalog is accepted as it is. -/
theorem Filed.validate_eq {c : Catalog} (h : c.Filed) : c.validate = .ok c := by
  simp only [validate, (misfiled?_eq_none_iff c).mpr h]

/-- A catalog that is not filed is refused with the fault of its first entry that is out of
place. -/
theorem exists_validate_eq_error {c : Catalog} (h : ¬ c.Filed) :
    ∃ d e, c.FirstMisfiled d e ∧ c.validate = .error (.misfiled e.title d e.difficulty) := by
  cases hfault : c.misfiled? with
  | none => exact absurd ((misfiled?_eq_none_iff c).mp hfault) h
  | some fault =>
      obtain ⟨d, e, hfirst, rfl⟩ := (c.misfiled?_eq_some_iff fault).mp hfault
      refine ⟨d, e, hfirst, ?_⟩
      simp only [validate, hfault]

/-- A text whose buckets can be read is accepted or refused by what its exercises declare. -/
theorem ofText_eq_validate {text : String} {c : Catalog}
    (h : (Json.Document.read? text.toList).bind ofDocument? = some c) :
    ofText text = c.validate := by
  rw [ofText, h]

/--
Sorting puts into each bucket the exercises that declare it, in their order, and loses and doubles
none.  A text whose buckets can be read is accepted exactly if sorting all its exercises gives these
buckets, and it gives them then.  Otherwise the fault has the title, the bucket and the declared
difficulty of the first exercise that is out of place.
-/
theorem grouping_agrees :
    (∀ es d, (ofExercises es).bucket d = es.filter (·.difficulty = d)) ∧
    (∀ es, (ofExercises es).exercises.Perm es ∧ (ofExercises es).size = es.length) ∧
    ∀ text c, (Json.Document.read? text.toList).bind ofDocument? = some c →
      ((∃ accepted, ofText text = .ok accepted) ↔
        ofExercises (c.easy ++ c.medium ++ c.hard) = c) ∧
      (ofExercises (c.easy ++ c.medium ++ c.hard) = c → ofText text = .ok c) ∧
      (ofExercises (c.easy ++ c.medium ++ c.hard) ≠ c → ∃ d e, c.FirstMisfiled d e ∧
        ofText text = .error (.misfiled e.title d e.difficulty)) := by
  refine ⟨bucket_ofExercises, ?_, ?_⟩
  · intro es
    have hperm := exercises_ofExercises_perm es
    refine ⟨hperm, ?_⟩
    rw [← length_exercises, hperm.length_eq]
  · intro text c hread
    have hfiled : ofExercises (c.easy ++ c.medium ++ c.hard) = c ↔ c.Filed :=
      c.ofExercises_exercises_eq_iff
    rw [ofText_eq_validate hread, hfiled, Ne, hfiled]
    refine ⟨?_, Filed.validate_eq, exists_validate_eq_error⟩
    constructor
    · intro haccepted
      obtain ⟨accepted, hvalid⟩ := haccepted
      by_contra hnot
      obtain ⟨d, e, -, herror⟩ := exists_validate_eq_error hnot
      rw [herror] at hvalid
      contradiction
    · intro h
      exact ⟨c, h.validate_eq⟩

/-- An exercise of which nothing matters but its title and the difficulty that it declares. -/
def titled (title : String) (declared : Difficulty) : Exercise :=
  ⟨title, "", declared, "", [], []⟩

/-- A text whose buckets stand in another order. Two of them have an exercise that is out of place.
-/
def muddled : String :=
  "\x7b\"hard\":[[\"c\",\"\",\"easy\",\"\",[],[]]],\"easy\":[[\"a\",\"\",\"easy\",\"\",[],[]]," ++
    "[\"b\",\"\",\"hard\",\"\",[],[]]]\x7d"

/-- A string without escapes. -/
def verbatim (text : String) : Json.Document :=
  .string (text.toList.map .plain)

/-- The document of such an exercise, in the order of its fields. -/
def titledDocument (title : String) (declared : Difficulty) : Json.Document :=
  .array [verbatim title, verbatim "", verbatim declared.label, verbatim "", .array [], .array []]

/-- The document of that text. -/
def muddledDocument : Json.Document :=
  .object [("hard".toList.map .plain, .array [titledDocument "c" .easy]),
    ("easy".toList.map .plain, .array [titledDocument "a" .easy, titledDocument "b" .hard])]

/-- The first exercise that is out of place lies in the easy bucket, although the text has the hard
one before. -/
theorem grouping_agrees_of_muddled :
    (Json.Document.read? muddled.toList).bind ofDocument? =
        some ⟨[titled "a" .easy, titled "b" .hard], [], [titled "c" .easy]⟩ ∧
      ofText muddled = .error (.misfiled "b" .easy .hard) := by
  have hread : (Json.Document.read? muddled.toList).bind ofDocument? =
      some ⟨[titled "a" .easy, titled "b" .hard], [], [titled "c" .easy]⟩ := by
    have hdocument : Json.Document.read? muddled.toList = some muddledDocument := by
      decide +kernel
    rw [hdocument]
    rfl
  obtain ⟨-, hfault⟩ := (grouping_agrees.2.2 muddled _ hread).2
  refine ⟨hread, ?_⟩
  have hnot : ofExercises ([titled "a" .easy, titled "b" .hard] ++ [] ++ [titled "c" .easy]) ≠
      ⟨[titled "a" .easy, titled "b" .hard], [], [titled "c" .easy]⟩ := by
    intro h
    have htitles := congrArg (fun c => c.easy.map Exercise.title) h
    simp [ofExercises, put, titled, empty] at htitles
  obtain ⟨d, e, hfirst, htext⟩ := hfault hnot
  have hfound := (misfiled?_eq_some_iff _ _).mpr ⟨d, e, hfirst, rfl⟩
  have hsearch : misfiled? ⟨[titled "a" .easy, titled "b" .hard], [], [titled "c" .easy]⟩ =
      some (.misfiled "b" .easy .hard) := rfl
  rw [hsearch] at hfound
  rw [htext, Option.some.inj hfound]

end Catalog
end ScriptReview
