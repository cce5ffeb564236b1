import Mathlib.Data.List.Forall2
import ScriptReview.Proofs.Files.Order

/-!
# Directories listed in another order

The entries of a directory come in any order.  Two trees that differ in this order only, at any
level, look the same to everyone who follows paths or searches for files.

Main definitions:

* `Node.Relisted` and `Entries.Relisted` relate trees and listings that differ only in the order of
  entries.

Main results:

* `Node.Relisted.filesBelow_eq` says that a search does not see the order of entries.
* `FileSystem.Relisted.find_sameOutcome` says that paths lead to the same, up to the order of
  entries.
* `FileSystem.discover_reproducible` says that the result of a discovery is complete, ordered, and
  independent of the order of entries.
-/

namespace ScriptReview

open ScriptReview.Path (IsName join ofParts)

mutual

/-- Two trees differ only in the order of the entries of their directories. -/
inductive Node.Relisted : Node → Node → Prop
  | refl (node : Node) : Node.Relisted node node
  | directory {entries entries' : List (RawText × Node)}
      (h : Entries.Relisted entries entries') :
      Node.Relisted (.directory entries) (.directory entries')

/-- Two listings differ only in their order, at any level. -/
inductive Entries.Relisted : List (RawText × Node) → List (RawText × Node) → Prop
  | nil : Entries.Relisted [] []
  | cons (name : RawText) {node node' : Node} {rest rest' : List (RawText × Node)}
      (hnode : Node.Relisted node node') (hrest : Entries.Relisted rest rest') :
      Entries.Relisted ((name, node) :: rest) ((name, node') :: rest')
  | swap (first second : RawText × Node) (rest : List (RawText × Node)) :
      Entries.Relisted (first :: second :: rest) (second :: first :: rest)
  | trans {entries entries' entries'' : List (RawText × Node)}
      (h : Entries.Relisted entries entries') (h' : Entries.Relisted entries' entries'') :
      Entries.Relisted entries entries''

end

/-- Trees that differ only in the order of entries from one in between do so from each other. -/
theorem Node.Relisted.trans {node node' node'' : Node} (h : node.Relisted node')
    (h' : node'.Relisted node'') : node.Relisted node'' := by
  cases h with
  | refl => exact h'
  | directory h =>
      cases h' with
      | refl => exact .directory h
      | directory h' => exact .directory (h.trans h')

/-- A listing differs from itself only in its order. -/
theorem Entries.Relisted.refl (entries : List (RawText × Node)) :
    Entries.Relisted entries entries := by
  induction entries with
  | nil => exact .nil
  | cons entry rest ih => exact .cons entry.1 (.refl entry.2) ih

/-- A directory in another order is a directory. -/
theorem Node.Relisted.exists_directory {entries : List (RawText × Node)} {node' : Node}
    (h : (Node.directory entries).Relisted node') :
    ∃ entries', node' = .directory entries' ∧ Entries.Relisted entries entries' := by
  cases h with
  | refl => exact ⟨entries, rfl, .refl entries⟩
  | directory h => exact ⟨_, rfl, h⟩

/-! ## Names -/

/-- A listing in another order has the same names. -/
theorem Entries.Relisted.names_perm {entries entries' : List (RawText × Node)} :
    Entries.Relisted entries entries' →
      (entries.map Prod.fst).Perm (entries'.map Prod.fst)
  | .nil => .refl _
  | .cons name _ hrest => hrest.names_perm.cons name
  | .swap first second rest => .swap second.1 first.1 _
  | .trans h h' => h.names_perm.trans h'.names_perm

/-- The names of a listing in another order are names. -/
theorem Entries.Relisted.isName {entries entries' : List (RawText × Node)}
    (h : Entries.Relisted entries entries') (hname : ∀ entry ∈ entries, IsName entry.1) :
    ∀ entry ∈ entries', IsName entry.1 := by
  intro entry hmem
  have hlisted : entry.1 ∈ entries.map Prod.fst :=
    h.names_perm.mem_iff.mpr (List.mem_map_of_mem hmem)
  obtain ⟨old, hold, heq⟩ := List.mem_map.mp hlisted
  exact heq ▸ hname old hold

mutual

/-- A tree in another order is well named. -/
theorem Node.Relisted.wellNamed {node node' : Node} :
    node.Relisted node' → node.WellNamed → node'.WellNamed
  | .refl _, hnamed => hnamed
  | .directory h, .directory hnodup hname hnode =>
      .directory (h.names_perm.nodup_iff.mp hnodup) (h.isName hname) (h.wellNamed hnode)

/-- What the names of a listing in another order stand for is well named. -/
theorem Entries.Relisted.wellNamed {entries entries' : List (RawText × Node)} :
    Entries.Relisted entries entries' → (∀ entry ∈ entries, entry.2.WellNamed) →
      ∀ entry ∈ entries', entry.2.WellNamed
  | .nil, hnamed => hnamed
  | .cons name hnode hrest, hnamed => by
      obtain ⟨hfirst, htail⟩ := List.forall_mem_cons.mp hnamed
      exact List.forall_mem_cons.mpr ⟨hnode.wellNamed hfirst, hrest.wellNamed htail⟩
  | .swap first second rest, hnamed => by
      intro entry hmem
      exact hnamed entry ((List.Perm.swap second first rest).mem_iff.mpr hmem)
  | .trans h h', hnamed => h'.wellNamed (h.wellNamed hnamed)

end

/-! ## Searches -/

mutual

/-- A search does not see the order of entries. -/
theorem Node.Relisted.filesBelow_eq {node node' : Node} :
    node.Relisted node' → node.WellNamed → node.filesBelow = node'.filesBelow
  | .refl _, _ => rfl
  | .directory h, .directory hnodup _ hnode =>
      Node.inOrder_eq_of_perm (Node.nodup_filesOf hnodup) (h.filesOf_perm hnode)

/-- A listing in another order gives the same directories with the same files below them. -/
theorem Entries.Relisted.filesOf_perm {entries entries' : List (RawText × Node)} :
    Entries.Relisted entries entries' → (∀ entry ∈ entries, entry.2.WellNamed) →
      (Node.filesOf entries).Perm (Node.filesOf entries')
  | .nil, _ => .refl _
  | .cons name hnode hrest, hnamed => by
      obtain ⟨hfirst, htail⟩ := List.forall_mem_cons.mp hnamed
      have hperm := hrest.filesOf_perm htail
      unfold Node.filesOf
      rw [hnode.filesBelow_eq hfirst]
      split
      · exact hperm
      · exact hperm.cons _
  | .swap first second rest, _ => by
      rw [Node.filesOf_eq, Node.filesOf_eq]
      exact ((List.Perm.swap second first rest).filter _).map _
  | .trans h h', hnamed => (h.filesOf_perm hnamed).trans (h'.filesOf_perm (h.wellNamed hnamed))

end

/-! ## Paths -/

/-- A name that is not the first one of a listing is looked for in the rest. -/
theorem Entries.lookup_cons_of_ne {name : RawText} {entry : RawText × Node} (h : name ≠ entry.1)
    (rest : List (RawText × Node)) : List.lookup name (entry :: rest) = List.lookup name rest := by
  obtain ⟨name', node⟩ := entry
  rw [List.lookup_cons, beq_false_of_ne h]

/-- What a name stands for differs from itself only in the order of entries. -/
theorem Entries.rel_lookup_self (name : RawText) (entries : List (RawText × Node)) :
    Option.Rel Node.Relisted (List.lookup name entries) (List.lookup name entries) := by
  cases List.lookup name entries with
  | none => exact .none
  | some node => exact .some (.refl node)

/-- What names stand for may be compared through one in between. -/
theorem Node.Relisted.rel_trans {found found' found'' : Option Node}
    (h : Option.Rel Node.Relisted found found') (h' : Option.Rel Node.Relisted found' found'') :
    Option.Rel Node.Relisted found found'' := by
  cases h with
  | none => exact h'
  | some hnode =>
      cases h' with
      | some hnode' => exact .some (hnode.trans hnode')

/-- A name stands for the same in a listing in another order, up to the order of entries. -/
theorem Entries.Relisted.lookup {entries entries' : List (RawText × Node)} (name : RawText) :
    Entries.Relisted entries entries' → (entries.map Prod.fst).Nodup →
      Option.Rel Node.Relisted (List.lookup name entries) (List.lookup name entries')
  | .nil, _ => .none
  | .cons name' hnode hrest, hnodup => by
      by_cases hname : name = name'
      · subst hname
        rw [List.lookup_cons_self, List.lookup_cons_self]
        exact .some hnode
      · rw [lookup_cons_of_ne hname, lookup_cons_of_ne hname]
        exact hrest.lookup name (List.nodup_cons.mp hnodup).2
  | .swap (a, x) (b, y) rest, hnodup => by
      have hne : a ≠ b := by
        intro hab
        exact (List.nodup_cons.mp hnodup).1 (by simp [hab])
      by_cases ha : name = a
      · subst ha
        rw [List.lookup_cons_self, lookup_cons_of_ne hne, List.lookup_cons_self]
        exact .some (.refl x)
      · by_cases hb : name = b
        · subst hb
          rw [lookup_cons_of_ne ha, List.lookup_cons_self, List.lookup_cons_self]
          exact .some (.refl y)
        · rw [lookup_cons_of_ne ha, lookup_cons_of_ne hb, lookup_cons_of_ne hb,
            lookup_cons_of_ne ha]
          exact rel_lookup_self name rest
  | .trans h h', hnodup =>
      Node.Relisted.rel_trans (h.lookup name hnodup)
        (h'.lookup name (h.names_perm.nodup_iff.mp hnodup))

/-- Two paths lead to the same up to the order of entries, or they fail alike. -/
inductive SameOutcome : Except PathFault Node → Except PathFault Node → Prop
  | ok {node node' : Node} (h : node.Relisted node') : SameOutcome (.ok node) (.ok node')
  | error (fault : PathFault) : SameOutcome (.error fault) (.error fault)

namespace FileSystem

/-- Two directories differ only in the order of entries, and they are well named. -/
def SameListing (entries entries' : Entries) : Prop :=
  Entries.Relisted entries entries' ∧ (Node.directory entries).WellNamed

section Listings

variable {root root' : Entries} {opened opened' : List Entries} {part : RawText}

/-- The innermost of some open directories stays the same up to the order of entries. -/
theorem innermost_sameListing (hroot : SameListing root root')
    (hopened : List.Forall₂ SameListing opened opened') :
    SameListing (innermost root opened) (innermost root' opened') := by
  cases hopened with
  | nil => exact hroot
  | cons hentries _ => exact hentries

/-- The directories that stay open when the innermost is left are the same up to order. -/
theorem tail_sameListing (hopened : List.Forall₂ SameListing opened opened') :
    List.Forall₂ SameListing opened.tail opened'.tail := by
  cases hopened with
  | nil => exact .nil
  | cons _ hrest => exact hrest

/-- A name in the innermost directory stands for the same up to the order of entries. -/
theorem lookup_innermost {found : Option Node} (hroot : SameListing root root')
    (hopened : List.Forall₂ SameListing opened opened')
    (hlookup : List.lookup part (innermost root opened) = found) :
    ∃ found', List.lookup part (innermost root' opened') = found' ∧
      Option.Rel Node.Relisted found found' := by
  obtain ⟨hrelisted, hnamed⟩ := innermost_sameListing hroot hopened
  cases hnamed with
  | directory hnodup _ _ => exact ⟨_, rfl, hlookup ▸ hrelisted.lookup part hnodup⟩

/-- A name that the innermost directory does not have is missing in the other order, too. -/
theorem lookup_innermost_none (hroot : SameListing root root')
    (hopened : List.Forall₂ SameListing opened opened')
    (hlookup : List.lookup part (innermost root opened) = none) :
    List.lookup part (innermost root' opened') = none := by
  obtain ⟨found', hfound', hrel⟩ := lookup_innermost hroot hopened hlookup
  cases hrel
  exact hfound'

/-- A name that stands for a directory stands for this directory in some order. -/
theorem lookup_innermost_directory {entries : Entries} (hroot : SameListing root root')
    (hopened : List.Forall₂ SameListing opened opened')
    (hlookup : List.lookup part (innermost root opened) = some (.directory entries)) :
    ∃ entries', List.lookup part (innermost root' opened') = some (.directory entries') ∧
      SameListing entries entries' := by
  obtain ⟨found', hfound', hrel⟩ := lookup_innermost hroot hopened hlookup
  have hnamed := wellNamed_of_lookup (innermost_sameListing hroot hopened).2 hlookup
  cases hrel with
  | some hnode =>
      obtain ⟨entries', rfl, hentries⟩ := hnode.exists_directory
      exact ⟨entries', hfound', hentries, hnamed⟩

/-- A name that stands for anything but a directory stands for the same in the other order. -/
theorem lookup_innermost_leaf {node : Node} (hroot : SameListing root root')
    (hopened : List.Forall₂ SameListing opened opened')
    (hdirectory : ∀ entries, node = .directory entries → False)
    (hlookup : List.lookup part (innermost root opened) = some node) :
    List.lookup part (innermost root' opened') = some node := by
  obtain ⟨found', hfound', hrel⟩ := lookup_innermost hroot hopened hlookup
  cases hrel with
  | some hnode =>
      cases hnode with
      | refl => exact hfound'
      | directory h => exact (hdirectory _ rfl).elim

/-- The parts of a path lead to the same up to the order of entries. -/
theorem follow_sameOutcome {links : Nat} {parts : List RawText} (hroot : SameListing root root')
    (hopened : List.Forall₂ SameListing opened opened') :
    SameOutcome (follow root links opened parts) (follow root' links opened' parts) := by
  -- The same directories are open on both sides, and every part is looked up in the innermost.
  fun_induction follow root links opened parts generalizing opened' with
  | case1 links opened =>
      rw [follow]
      exact .ok (.directory (innermost_sameListing hroot hopened).1)
  | case2 links opened part rest hidle ih =>
      rw [follow_idle hidle]
      exact ih hopened
  | case3 links opened rest hidle ih =>
      rw [follow, if_neg hidle, if_pos rfl]
      exact ih (tail_sameListing hopened)
  | case4 links opened part rest hidle hup hlookup =>
      rw [follow_missing hidle hup (lookup_innermost_none hroot hopened hlookup)]
      exact .error _
  | case5 links opened part rest hidle hup entries hlookup ih =>
      obtain ⟨entries', hlookup', hentries⟩ := lookup_innermost_directory hroot hopened hlookup
      rw [follow_directory hidle hup hlookup']
      exact ih (.cons hentries hopened)
  | case6 opened part rest hidle hup target hlookup =>
      have hlookup' := lookup_innermost_leaf hroot hopened (by simp) hlookup
      rw [follow_tooManyLinks hidle hup hlookup']
      exact .error _
  | case7 opened part rest hidle hup target hlookup links ih =>
      have hlookup' := lookup_innermost_leaf hroot hopened (by simp) hlookup
      rw [follow_link hidle hup hlookup']
      refine ih ?_
      split
      · exact .nil
      · exact hopened
  | case8 links opened part rest hidle hup node hdirectory hlink hlookup hend =>
      have hlookup' := lookup_innermost_leaf hroot hopened hdirectory hlookup
      rw [follow_file hidle hup hdirectory hlink hlookup', if_pos hend]
      exact .ok (.refl node)
  | case9 links opened part rest hidle hup node hdirectory hlink hlookup hend =>
      have hlookup' := lookup_innermost_leaf hroot hopened hdirectory hlookup
      rw [follow_file hidle hup hdirectory hlink hlookup', if_neg hend]
      exact .error _

end Listings

/-- Two file systems differ only in the order in which directories list their entries. -/
def Relisted (fs fs' : FileSystem) : Prop :=
  Entries.Relisted fs.root fs'.root ∧ fs.workingDirectory = fs'.workingDirectory

/-- A path leads to the same up to the order of entries. -/
theorem Relisted.find_sameOutcome {fs fs' : FileSystem} (h : fs.Relisted fs')
    (hfs : fs.WellNamed) (path : RawText) : SameOutcome (fs.find path) (fs'.find path) := by
  obtain ⟨hroot, hworking⟩ := h
  have hparts : fs.partsFromRoot path = fs'.partsFromRoot path := by
    unfold partsFromRoot
    rw [hworking]
  unfold find
  split
  · exact .error _
  · rw [hparts]
    exact follow_sameOutcome ⟨hroot, hfs⟩ .nil

/-- A path stands for the same files, whatever order directories are listed in. -/
theorem Relisted.discoverAt_eq {fs fs' : FileSystem} (h : fs.Relisted fs') (hfs : fs.WellNamed)
    (c : Config) (path : RawText) : fs.discoverAt c path = fs'.discoverAt c path := by
  have hsame := h.find_sameOutcome hfs path
  unfold discoverAt
  generalize hfind : fs.find path = outcome at hsame ⊢
  generalize fs'.find path = outcome' at hsame ⊢
  cases hsame with
  | error fault => rfl
  | ok hnode =>
      have hnamed := find_wellNamed hfs hfind
      cases hnode with
      | refl => rfl
      | directory hentries =>
          have hbelow := (Node.Relisted.directory hentries).filesBelow_eq hnamed
          simp only [wantedBelow, hbelow]

/-- A discovery finds the same, whatever order directories are listed in. -/
theorem Relisted.discover_eq {fs fs' : FileSystem} (h : fs.Relisted fs') (hfs : fs.WellNamed)
    (c : Config) (paths : List RawText) : fs.discover c paths = fs'.discover c paths := by
  have hsame : fs.discoverAt c = fs'.discoverAt c := funext (h.discoverAt_eq hfs c)
  rw [discover, hsame, discover]

/-! ## Discoveries -/

/--
A discovery finds everything or nothing, and always the same.  The first path that leads nowhere is
to blame if there is one.  Otherwise the files of each path come one after the other, a path to
anything but a directory standing for itself.  The files of a directory come in strictly increasing
lexicographic order of the names that lead to them, so that none comes twice.  The order in which
directories list their entries is of no account.
-/
theorem discover_reproducible {fs : FileSystem} (hfs : fs.WellNamed) (c : Config)
    (paths : List RawText) :
    (∀ fault, fs.discover c paths = .error fault ↔
      ∃ before path after, paths = before ++ path :: after ∧
        (∀ p ∈ before, fs.Exists p) ∧ ¬ fs.Exists path ∧ fault = .io notFound path) ∧
    ((∀ path ∈ paths, fs.Exists path) → ∃ results : List (List RawText),
      paths.map (fun path => fs.discover c [path]) = results.map .ok ∧
        fs.discover c paths = .ok results.flatten) ∧
    (∀ path node, fs.find path = .ok node → (∀ entries, node ≠ .directory entries) →
      fs.discover c [path] = .ok [path]) ∧
    (∀ root entries, fs.find root = .ok (.directory entries) → ∃ ways : List (List RawText),
      fs.discover c [root] = .ok (ways.map fun way => join root (ofParts way)) ∧
        (∀ way ∈ ways, way ≠ [] ∧ ∀ name ∈ way, IsName name) ∧ ways.Pairwise ComesEarlier ∧
          (ways.map fun way => join root (ofParts way)).Nodup) ∧
    ∀ fs', fs.Relisted fs' → fs'.discover c paths = fs.discover c paths := by
  refine ⟨fs.discover_eq_error_iff c paths, exists_discover_eq_ok c, ?_, ?_, ?_⟩
  · intro path node hfind hnode
    exact discover_eq_self c hfind hnode
  · intro root entries hroot
    have hentries := find_wellNamed hfs hroot
    refine ⟨wantedWays c root entries, discover_eq_map_wantedWays c hfs hroot, ?_,
      wantedWays_pairwise c root hentries, ?_⟩
    · intro way hway
      exact ⟨ne_nil_of_mem_wantedWays hway, isName_of_mem_wantedWays hentries hway⟩
    · rw [← wantedBelow_eq_map c (ne_empty_of_find hroot) hentries]
      exact nodup_wantedBelow c (ne_empty_of_find hroot) hentries
  · intro fs' h
    exact (h.discover_eq hfs c paths).symm

/-- The linked sources in a file system that lists its root in the other order. -/
def relinked : FileSystem where
  root := [("src", .directory linkedSources), ("build", .link "src")]
  workingDirectory := []

/-- A path that leads nowhere ends a discovery, although another one leads nowhere after it and
whichever way the root is listed. -/
theorem discover_relinked :
    linked.WellNamed ∧ linked.Relisted relinked ∧
      relinked.discover .standard ["build", "absent", "missing"] =
        .error (.io notFound "absent") := by
  have hrelisted : linked.Relisted relinked := ⟨.swap _ _ [], rfl⟩
  have hbuild : linked.Exists "build" := ⟨_, find_linked⟩
  have habsent : ¬ linked.Exists "absent" := by
    rintro ⟨node, hnode⟩
    rw [find_eq_missing (by decide) rfl (by decide)] at hnode
    contradiction
  obtain ⟨hfault, -, -, -, hsame⟩ :=
    discover_reproducible linked_wellNamed .standard ["build", "absent", "missing"]
  refine ⟨linked_wellNamed, hrelisted, (hsame relinked hrelisted).trans ((hfault _).mpr ?_)⟩
  exact ⟨["build"], "absent", ["missing"], rfl, by simpa using hbuild, habsent, rfl⟩

end FileSystem
end ScriptReview
