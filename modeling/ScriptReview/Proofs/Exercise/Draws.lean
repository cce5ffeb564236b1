import Mathlib.Data.List.Forall2
import ScriptReview.Config.Load
import ScriptReview.Exercise.Draw
import ScriptReview.Random.KeyStream
import ScriptReview.Proofs.Traversal

/-!
# Drawing one exercise after another

However a catalog comes about, its exercises lie in the buckets that they declare.  A source of
random words is passed on from draw to draw, whatever it is.  What is drawn is a place in a bucket,
and the place depends on nothing but the source and the number of exercises in the bucket.

Main definitions:

* `Catalog.Filed` says that every exercise lies in its bucket, `Catalog.Obtained` how a catalog
  comes about.
* `WordSource.places` gives the places that are drawn from buckets of known sizes.
* `Catalog.Picked` says which exercise a place stands for.

Main results:

* `WordSource.below_lt` says that a number drawn below a bound is below it.
* `Catalog.Obtained.filed` says that every catalog is filed.
* `Catalog.drawAll_picked` relates the draws of a whole run to their places.
* `Catalog.picks_filter` says that draws from empty buckets make no difference to the others.
* `Catalog.draws_exact` states what is known of the draws from any catalog.
-/

namespace ScriptReview

variable {G : Type} [WordSource G]

/-! ## Numbers below a bound -/

/-- A drawn word is one of the words of its width. -/
theorem WordSource.next_lt (g : G) (width : Width) : (next g width).1 < width.count := by
  cases width with
  | narrow => exact (next32 g).1.toNat_lt
  | wide => exact (next64 g).1.toNat_lt

/-- The quotient of a word that is stretched over `n` numbers is below `n`, even with a carry from
a remainder that is too close to the next number. -/
theorem stretched_lt {word n width : Nat} (hword : word < width) (hn : 0 < n) :
    word * n / width < n ∧
      (width - n < word * n % width → word * n / width + 1 < n) := by
  have hsplit : width * (word * n / width) + word * n % width = word * n :=
    Nat.div_add_mod (word * n) width
  have hstretched : word * n + n ≤ width * n :=
    calc word * n + n = (word + 1) * n := (Nat.succ_mul word n).symm
      _ ≤ width * n := Nat.mul_le_mul_right n hword
  have hquotient : word * n / width < n :=
    Nat.div_lt_of_lt_mul (by omega)
  refine ⟨hquotient, ?_⟩
  intro hclose
  by_contra hcarry
  -- The last quotient leaves a remainder of at most `width - n`.
  have hlast : width * n = width * (word * n / width) + width := by
    have hn' : n = word * n / width + 1 := by omega
    calc width * n = width * (word * n / width + 1) := by rw [← hn']
      _ = width * (word * n / width) + width := Nat.mul_succ _ _
  omega

/-- A number that is drawn below a bound is below it. -/
theorem WordSource.below_lt (g : G) {n : Nat} (hn : 0 < n) : (below g n).1 < n := by
  rcases hnext : next g (widthFor n) with ⟨word, later⟩
  have hword : word < (widthFor n).count := by simpa [hnext] using next_lt g (widthFor n)
  obtain ⟨hquotient, hcarry⟩ := stretched_lt hword hn
  rw [below, hnext]
  dsimp only
  split
  · rename_i hclose
    split
    · exact hcarry hclose
    · exact hquotient
  · exact hquotient

/-- Draws a place from a bucket of some size. An empty bucket has no place and draws nothing. -/
def WordSource.place? (g : G) (size : Nat) : Option Nat × G :=
  if size = 0 then (none, g) else (some (below g size).1, (below g size).2)

/-- The places that are drawn one after the other from buckets of given sizes. -/
def WordSource.places (sizes : Difficulty → Nat) : List Difficulty → G → List (Option Nat)
  | [], _ => []
  | d :: ds, g => (place? g (sizes d)).1 :: places sizes ds (place? g (sizes d)).2

namespace Catalog

open WordSource (below below_lt place? places)

/-! ## Filed catalogs -/

/-- Every exercise lies in the bucket that it declares. -/
def Filed (c : Catalog) : Prop :=
  ∀ d, ∀ e ∈ c.bucket d, e.difficulty = d

/-- A catalog comes about in one of these ways. -/
inductive Obtained : Catalog → Prop
  | builtin : Obtained .builtin
  | text {text : String} {c : Catalog} (h : ofText text = .ok c) : Obtained c
  | file {fs : FileSystem} {path : RawText} {c : Catalog} (h : loadFrom fs path = .ok c) :
      Obtained c
  | exercises (es : List Exercise) : Obtained (ofExercises es)
  | configured {config : Config} {fs : FileSystem} {c : Catalog}
      (h : config.loadCatalog fs = .ok c) : Obtained c

/-- A bucket is in order exactly if no exercise of it is misfiled. -/
theorem misfiledIn?_eq_none_iff (c : Catalog) (d : Difficulty) :
    c.misfiledIn? d = none ↔ ∀ e ∈ c.bucket d, e.difficulty = d := by
  simp [misfiledIn?]

/-- A catalog is filed exactly if no exercise of it is misfiled. -/
theorem misfiled?_eq_none_iff (c : Catalog) : c.misfiled? = none ↔ c.Filed := by
  have hall : ∀ d, d ∈ Difficulty.all := by
    intro d
    cases d <;> decide
  simp only [misfiled?, List.findSome?_eq_none_iff, misfiledIn?_eq_none_iff]
  exact ⟨fun h d => h d (hall d), fun h d _ => h d⟩

/-- An accepted catalog is filed. -/
theorem filed_of_validate {c c' : Catalog} (h : c.validate = .ok c') : c'.Filed := by
  unfold validate at h
  split at h
  · contradiction
  · rename_i hnone
    obtain rfl := Except.ok.inj h
    exact (misfiled?_eq_none_iff c).mp hnone

/-- A catalog that is read from a text is filed. -/
theorem filed_of_ofText {text : String} {c : Catalog} (h : ofText text = .ok c) : c.Filed := by
  unfold ofText at h
  split at h
  · contradiction
  · exact filed_of_validate h

/-- A catalog that is read from a file is filed. -/
theorem filed_of_loadFrom {fs : FileSystem} {path : RawText} {c : Catalog}
    (h : loadFrom fs path = .ok c) : c.Filed := by
  obtain ⟨text, -, htext⟩ := bind_eq_ok_iff.mp h
  exact filed_of_ofText htext

/-- The built-in catalog is filed. -/
theorem filed_builtin : Catalog.builtin.Filed := by
  intro d e he
  cases d
  all_goals
    obtain rfl | rfl := List.mem_pair.mp he
    · rfl
    · rfl

/-- Exercises that are added one by one stand behind those that their bucket has already. -/
theorem bucket_foldl_put (c : Catalog) (es : List Exercise) (d : Difficulty) :
    (es.foldl put c).bucket d = c.bucket d ++ es.filter (·.difficulty = d) := by
  induction es generalizing c with
  | nil => simp
  | cons e es ih =>
      rw [List.foldl_cons, ih, bucket_put]
      by_cases he : e.difficulty = d
      · rw [if_pos he, List.filter_cons_of_pos (by simpa using he), List.append_assoc,
          List.singleton_append]
      · rw [if_neg he, List.filter_cons_of_neg (by simpa using he)]

/-- Sorted exercises lie in the buckets that they declare, in their order. -/
theorem bucket_ofExercises (es : List Exercise) (d : Difficulty) :
    (ofExercises es).bucket d = es.filter (·.difficulty = d) := by
  have hempty : empty.bucket d = [] := by
    cases d <;> rfl
  rw [ofExercises, bucket_foldl_put, hempty, List.nil_append]

/-- However a catalog comes about, it is filed. -/
theorem Obtained.filed {c : Catalog} (h : c.Obtained) : c.Filed := by
  cases h with
  | builtin => exact filed_builtin
  | text h => exact filed_of_ofText h
  | file h => exact filed_of_loadFrom h
  | exercises es =>
      intro d e he
      rw [bucket_ofExercises, List.mem_filter] at he
      simpa using he.2
  | configured h =>
      unfold Config.loadCatalog at h
      split at h
      · exact filed_of_loadFrom h
      · obtain rfl := Except.ok.inj h
        exact filed_builtin

/-! ## One draw -/

/-- What is drawn from a bucket: from an empty one a fault and no place, from another one the
exercise at a place, which declares the difficulty that is asked for. -/
inductive Picked (c : Catalog) (d : Difficulty) : Option Nat → Except Fault Exercise → Prop
  | nothing (h : c.bucket d = []) : Picked c d none (.error (.emptyBucket d))
  | exercise {i : Nat} (h : i < (c.bucket d).length) (hdeclared : (c.bucket d)[i].difficulty = d) :
      Picked c d (some i) (.ok (c.bucket d)[i])

/-- The number of exercises of each difficulty. -/
def sizes (c : Catalog) (d : Difficulty) : Nat :=
  (c.bucket d).length

/-- Nothing is drawn from an empty bucket. -/
theorem draw_of_empty {c : Catalog} {d : Difficulty} (h : c.bucket d = []) (g : G) :
    c.draw d g = (.error (.emptyBucket d), g) := by
  simp [draw, h]

/-- A bucket that is not empty gives the exercise at the place that is drawn. -/
theorem draw_of_ne_nil {c : Catalog} {d : Difficulty} (h : c.bucket d ≠ []) (g : G) :
    ∃ hi : (below g (c.bucket d).length).1 < (c.bucket d).length,
      c.draw d g = (.ok (c.bucket d)[(below g (c.bucket d).length).1],
        (below g (c.bucket d).length).2) := by
  have hi := below_lt g (List.length_pos_iff.mpr h)
  refine ⟨hi, ?_⟩
  simp [draw, h, hi]

/-- A draw is told by the place that is drawn, and leaves the source as the place does. -/
theorem draw_picked {c : Catalog} (hc : c.Filed) (d : Difficulty) (g : G) :
    c.Picked d (place? g (c.sizes d)).1 (c.draw d g).1 ∧
      (c.draw d g).2 = (place? g (c.sizes d)).2 := by
  by_cases hd : c.bucket d = []
  · have hplace : place? g (c.sizes d) = (none, g) := by
      simp [place?, sizes, hd]
    rw [hplace, draw_of_empty hd]
    exact ⟨.nothing hd, rfl⟩
  · obtain ⟨hi, hdraw⟩ := draw_of_ne_nil hd g
    have hplace : place? g (c.sizes d) =
        (some (below g (c.bucket d).length).1, (below g (c.bucket d).length).2) := by
      simp [place?, sizes, hd]
    rw [hplace, hdraw]
    exact ⟨.exercise hi (hc d _ (List.getElem_mem hi)), rfl⟩

/-- A draw fails exactly if the bucket is empty. -/
theorem draw_eq_error_iff (c : Catalog) (d : Difficulty) (g : G) (fault : Fault) :
    (c.draw d g).1 = .error fault ↔ c.bucket d = [] ∧ fault = .emptyBucket d := by
  by_cases hd : c.bucket d = []
  · simp [draw_of_empty hd, hd, eq_comm]
  · obtain ⟨hi, hdraw⟩ := draw_of_ne_nil hd g
    simp [hdraw, hd]

/-! ## Runs -/

/-- The source after draws of several difficulties. -/
def after (c : Catalog) : List Difficulty → G → G
  | [], g => g
  | d :: ds, g => c.after ds (c.draw d g).2

/-- The difficulties that are asked for, each with what is drawn for it. -/
def picks (c : Catalog) (ds : List Difficulty) (g : G) :
    List (Difficulty × Except Fault Exercise) :=
  ds.zip (c.drawAll ds g)

/-- Whether there are exercises of a difficulty. -/
def stocks (c : Catalog) (d : Difficulty) : Bool :=
  !(c.bucket d).isEmpty

/-- The first of several draws leaves its source to the others. -/
theorem picks_cons (c : Catalog) (d : Difficulty) (ds : List Difficulty) (g : G) :
    c.picks (d :: ds) g = (d, (c.draw d g).1) :: c.picks ds (c.draw d g).2 :=
  rfl

/-- Later draws go on with the source that earlier ones leave. -/
theorem drawAll_append (c : Catalog) (ds es : List Difficulty) (g : G) :
    c.drawAll (ds ++ es) g = c.drawAll ds g ++ c.drawAll es (c.after ds g) := by
  induction ds generalizing g with
  | nil => rfl
  | cons d ds ih => exact congrArg (_ :: ·) (ih _)

/-- The draws of a run are told by the places that are drawn. -/
theorem drawAll_picked {c : Catalog} (hc : c.Filed) (ds : List Difficulty) (g : G) :
    List.Forall₂ (fun pick result => c.Picked pick.1 pick.2 result)
      (ds.zip (places c.sizes ds g)) (c.drawAll ds g) := by
  induction ds generalizing g with
  | nil => exact .nil
  | cons d ds ih =>
      obtain ⟨hpicked, hafter⟩ := draw_picked hc d g
      refine .cons hpicked ?_
      rw [hafter]
      exact ih _

/-- The draws from buckets with exercises are those of the run without the other draws, and they
leave the same source. -/
theorem picks_filter (c : Catalog) (ds : List Difficulty) (g : G) :
    (c.picks ds g).filter (fun pick => c.stocks pick.1) = c.picks (ds.filter c.stocks) g ∧
      c.after ds g = c.after (ds.filter c.stocks) g := by
  induction ds generalizing g with
  | nil => exact ⟨rfl, rfl⟩
  | cons d ds ih =>
      rw [picks_cons, List.filter_cons, List.filter_cons, after]
      by_cases hd : c.bucket d = []
      · have hstocks : ¬ c.stocks d = true := by simp [stocks, hd]
        rw [if_neg hstocks, if_neg hstocks, draw_of_empty hd]
        exact ih g
      · have hstocks : c.stocks d = true := by simp [stocks, hd]
        rw [if_pos hstocks, if_pos hstocks, picks_cons, after, (ih _).1]
        exact ⟨rfl, (ih _).2⟩

/--
Every exercise of a catalog lies in the bucket that it declares.  With any source of words, a draw
fails exactly if its bucket is empty, and leaves the source alone then; any other draw gives an
exercise at a place of its bucket.  In a run, each draw goes on from the source that those before
it leave, draws from empty buckets make no difference to the others, and catalogs with buckets of
the same sizes give the exercises at the same places.
-/
theorem draws_exact {c : Catalog} (h : c.Obtained) :
    (∀ d, ∀ e ∈ c.bucket d, e.difficulty = d) ∧
    (∀ d (g : G), ((c.draw d g).1 = .error (.emptyBucket d) ↔ c.bucket d = []) ∧
      (c.bucket d = [] → (c.draw d g).2 = g) ∧
      (c.bucket d ≠ [] → ∃ (i : Nat) (hi : i < (c.bucket d).length),
        (c.draw d g).1 = .ok (c.bucket d)[i] ∧ (c.bucket d)[i].difficulty = d)) ∧
    (∀ before d later (g : G), c.drawAll (before ++ d :: later) g =
      c.drawAll before g ++ (c.draw d (c.after before g)).1 ::
        c.drawAll later (c.draw d (c.after before g)).2) ∧
    (∀ ds ds' (g : G), ds.filter c.stocks = ds'.filter c.stocks →
      (c.picks ds g).filter (fun pick => c.stocks pick.1) =
        (c.picks ds' g).filter (fun pick => c.stocks pick.1) ∧
      c.after ds g = c.after ds' g) ∧
    ∀ c' : Catalog, c'.Obtained → c'.sizes = c.sizes → ∀ ds (g : G),
      List.Forall₂ (fun pick result => c.Picked pick.1 pick.2 result)
        (ds.zip (places c.sizes ds g)) (c.drawAll ds g) ∧
      List.Forall₂ (fun pick result => c'.Picked pick.1 pick.2 result)
        (ds.zip (places c.sizes ds g)) (c'.drawAll ds g) := by
  refine ⟨h.filed, ?_, ?_, ?_, ?_⟩
  · intro d g
    refine ⟨?_, ?_, ?_⟩
    · simp [draw_eq_error_iff]
    · intro hd
      rw [draw_of_empty hd]
    · intro hd
      obtain ⟨hi, hdraw⟩ := draw_of_ne_nil hd g
      exact ⟨_, hi, congrArg Prod.fst hdraw, h.filed d _ (List.getElem_mem hi)⟩
  · intro before d later g
    exact c.drawAll_append before (d :: later) g
  · intro ds ds' g hds
    obtain ⟨hpicks, hafter⟩ := c.picks_filter ds g
    obtain ⟨hpicks', hafter'⟩ := c.picks_filter ds' g
    rw [hpicks, hpicks', hafter, hafter', hds]
    exact ⟨rfl, rfl⟩
  · intro c' h' hsizes ds g
    exact ⟨drawAll_picked h.filed ds g, hsizes ▸ drawAll_picked h'.filed ds g⟩

/-- A catalog without easy and hard exercises. -/
def scarce : Catalog :=
  ofExercises [Builtin.fizzBuzz]

/-- Nothing is drawn from the empty buckets of a scarce catalog, and the draws from them make no
difference. -/
theorem draws_scarce :
    scarce.Obtained ∧ (scarce.draw .hard (Generator.ofSeed 7)).1 = .error (.emptyBucket .hard) ∧
      (scarce.picks [.hard, .medium, .easy] (Generator.ofSeed 7)).filter
          (fun pick => scarce.stocks pick.1) =
        (scarce.picks [.medium] (Generator.ofSeed 7)).filter
          (fun pick => scarce.stocks pick.1) := by
  have hscarce : scarce.Obtained := .exercises [Builtin.fizzBuzz]
  obtain ⟨-, hdraw, -, hpicks, -⟩ := draws_exact (G := Generator) hscarce
  exact ⟨hscarce, (hdraw .hard _).1.mpr rfl, (hpicks _ _ _ rfl).1⟩

end Catalog
end ScriptReview
