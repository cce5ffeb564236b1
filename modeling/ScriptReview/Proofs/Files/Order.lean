import ScriptReview.Proofs.Files.Discovery

/-!
# The order of what is found

A search sorts the entries of each directory by the bytes of their names, and puts all that it finds
below one entry before what it finds below the next.  All ways together then come in the
lexicographic order of their names, which is not the order of their paths as texts: the way `a`,
`x.js` comes before `a-b.js`.

Main definition: `ComesEarlier` is the lexicographic order of ways.

Main results:

* `Node.filesBelow_pairwise` says that a search finds ways in strictly increasing order.
* `Node.inOrder_eq_of_perm` says that the order in which directories are listed is of no account.
* `FileSystem.wantedWays_pairwise` and `FileSystem.nodup_wantedBelow` say the same of wanted files,
  none of which is found twice.
-/

namespace ScriptReview

open ScriptReview.Path (IsName join ofParts)

/-- A way comes before another in the lexicographic order of their names, which are compared byte by
byte. -/
def ComesEarlier (way way' : List RawText) : Prop :=
  way.map RawText.bytes < way'.map RawText.bytes

/-- One name comes before another exactly if its bytes do. -/
theorem comesBefore_iff (a b : RawText) : comesBefore a b = true ↔ a.bytes ≤ b.bytes :=
  decide_eq_true_iff

/-- The order of names is transitive. -/
theorem comesBefore_trans {a b c : RawText} (hab : comesBefore a b = true)
    (hbc : comesBefore b c = true) : comesBefore a c = true :=
  (comesBefore_iff a c).mpr
    (List.le_trans ((comesBefore_iff a b).mp hab) ((comesBefore_iff b c).mp hbc))

/-- Of two names one comes before the other. -/
theorem comesBefore_total (a b : RawText) : (comesBefore a b || comesBefore b a) = true := by
  rw [Bool.or_eq_true, comesBefore_iff, comesBefore_iff]
  exact List.le_total _ _

/-- Of two different names the one that comes before the other has smaller bytes. -/
theorem bytes_lt_of_comesBefore {a b : RawText} (h : comesBefore a b = true) (hne : a ≠ b) :
    a.bytes < b.bytes := by
  rcases List.le_iff_lt_or_eq.mp ((comesBefore_iff a b).mp h) with hlt | heq
  · exact hlt
  · exact absurd (RawText.ext heq) hne

/-! ## Ways -/

/-- A smaller first name puts a way earlier. -/
theorem ComesEarlier.of_head {a b : RawText} (h : a.bytes < b.bytes)
    (way way' : List RawText) : ComesEarlier (a :: way) (b :: way') :=
  List.cons_lt_cons_iff.mpr (.inl h)

/-- After the same first name the rest of the ways decides. -/
theorem ComesEarlier.cons (name : RawText) {way way' : List RawText} (h : ComesEarlier way way') :
    ComesEarlier (name :: way) (name :: way') :=
  List.cons_lt_cons_iff.mpr (.inr ⟨rfl, h⟩)

/-- No way comes before itself. -/
theorem ComesEarlier.irrefl (way : List RawText) : ¬ ComesEarlier way way :=
  List.lt_irrefl _

namespace Node

/-! ## Sorted directories -/

/-- Sorted directories come in the order of their names. -/
theorem mergeSort_pairwise (named : List (RawText × List (List RawText))) :
    (named.mergeSort fun a b => comesBefore a.1 b.1).Pairwise fun a b =>
      comesBefore a.1 b.1 = true := by
  apply List.pairwise_mergeSort
  · intro a b c
    exact comesBefore_trans
  · intro a b
    exact comesBefore_total a.1 b.1

/-- Sorted directories with different names come in strictly increasing order. -/
theorem mergeSort_pairwise_lt {named : List (RawText × List (List RawText))}
    (hnodup : (named.map Prod.fst).Nodup) :
    (named.mergeSort fun a b => comesBefore a.1 b.1).Pairwise fun a b =>
      a.1.bytes < b.1.bytes := by
  have hperm := List.mergeSort_perm named fun a b => comesBefore a.1 b.1
  have hdifferent : (named.mergeSort fun a b => comesBefore a.1 b.1).Pairwise fun a b =>
      a.1 ≠ b.1 :=
    List.pairwise_map.mp ((hperm.map Prod.fst).nodup_iff.mpr hnodup)
  exact (List.Pairwise.and (mergeSort_pairwise named) hdifferent).imp fun h =>
    bytes_lt_of_comesBefore h.1 h.2

/-- Directories with different names are sorted alike, whatever order they are given in. -/
theorem inOrder_eq_of_perm {named named' : List (RawText × List (List RawText))}
    (hnodup : (named.map Prod.fst).Nodup) (hperm : named.Perm named') :
    inOrder named = inOrder named' := by
  have hnodup' : (named'.map Prod.fst).Nodup := (hperm.map Prod.fst).nodup_iff.mp hnodup
  have hsorted : (named.mergeSort fun a b => comesBefore a.1 b.1) =
      named'.mergeSort fun a b => comesBefore a.1 b.1 := by
    refine List.Perm.eq_of_pairwise ?_ (mergeSort_pairwise_lt hnodup)
      (mergeSort_pairwise_lt hnodup') ?_
    · intro a b _ _ hab hba
      exact absurd (List.lt_trans hab hba) (List.lt_irrefl _)
    · exact (List.mergeSort_perm _ _).trans (hperm.trans (List.mergeSort_perm _ _).symm)
  rw [inOrder, hsorted, inOrder]

/-- The ways through directories with different names come in strictly increasing order if those
below each of them do. -/
theorem inOrder_pairwise {named : List (RawText × List (List RawText))}
    (hnodup : (named.map Prod.fst).Nodup)
    (hways : ∀ entry ∈ named, entry.2.Pairwise ComesEarlier) :
    (inOrder named).Pairwise ComesEarlier := by
  rw [inOrder, List.pairwise_flatMap]
  constructor
  · rintro ⟨name, ways⟩ hmem
    have hinner : ways.Pairwise ComesEarlier :=
      hways (name, ways) ((List.mergeSort_perm _ _).mem_iff.mp hmem)
    exact hinner.map _ fun _ _ hlt => hlt.cons name
  · refine (mergeSort_pairwise_lt hnodup).imp ?_
    rintro ⟨name, ways⟩ ⟨name', ways'⟩ hlt way hway way' hway'
    obtain ⟨rest, -, rfl⟩ := List.mem_map.mp hway
    obtain ⟨rest', -, rfl⟩ := List.mem_map.mp hway'
    exact .of_head hlt rest rest'

/-- The entries that are not passed over have different names if all entries do. -/
theorem nodup_filesOf {entries : List (RawText × Node)} (h : (entries.map Prod.fst).Nodup) :
    ((filesOf entries).map Prod.fst).Nodup := by
  have hnames : (filesOf entries).map Prod.fst =
      (entries.filter fun entry => !isPruned entry.1).map Prod.fst := by
    rw [filesOf_eq, List.map_map]
    rfl
  rw [hnames]
  exact h.sublist (List.filter_sublist.map Prod.fst)

/-- A search finds ways in strictly increasing order. -/
theorem filesBelow_pairwise {node : Node} (h : node.WellNamed) :
    node.filesBelow.Pairwise ComesEarlier := by
  induction h with
  | file content => exact List.pairwise_singleton _ _
  | unreadable reason => exact List.pairwise_singleton _ _
  | link target => exact .nil
  | directory hnodup _ _ ih =>
      refine inOrder_pairwise (nodup_filesOf hnodup) ?_
      rintro ⟨name, ways⟩ hmem
      obtain ⟨-, child, hchild, rfl⟩ := (mem_filesOf_iff _ _ _).mp hmem
      exact ih _ hchild

end Node

namespace FileSystem

/-! ## Wanted files -/

/-- The ways to the wanted files come in strictly increasing order. -/
theorem wantedWays_pairwise (c : Config) (directory : RawText) {entries : Entries}
    (hentries : (Node.directory entries).WellNamed) :
    (wantedWays c directory entries).Pairwise ComesEarlier :=
  (Node.filesBelow_pairwise hentries).filter _

/-- No wanted file is found twice. -/
theorem nodup_wantedBelow (c : Config) {directory : RawText} {entries : Entries}
    (hdirectory : directory ≠ .empty) (hentries : (Node.directory entries).WellNamed) :
    (wantedBelow c directory entries).Nodup := by
  rw [wantedBelow_eq_map c hdirectory hentries]
  refine List.pairwise_map.mpr ((wantedWays_pairwise c directory hentries).imp_of_mem ?_)
  intro way way' hway hway' hlt hjoin
  have heq : way = way' :=
    Path.join_ofParts_inj hdirectory
      (ne_nil_of_mem_wantedWays hway) (isName_of_mem_wantedWays hentries hway)
      (ne_nil_of_mem_wantedWays hway') (isName_of_mem_wantedWays hentries hway') hjoin
  exact ComesEarlier.irrefl way (heq ▸ hlt)

end FileSystem
end ScriptReview
