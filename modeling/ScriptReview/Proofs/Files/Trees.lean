import ScriptReview.Proofs.Files.Paths

/-!
# Trees of files

In a directory every entry has a name of its own.  A way of names leads from a node through
directories, never through a link, and the files that a search finds below a directory stand at the
ends of such ways.

Main definitions:

* `Node.WellNamed` says that the names in a tree are names and that no directory has one twice.
* `Node.Leads` says that a way of names leads from a node to another, and `Node.IsRegular` that a
  node is a file.
* `FileSystem.Exists` says that a path leads somewhere.

Main results:

* `FileSystem.find_wellNamed` says that what a path leads to is well named again.
* `FileSystem.follow_missing`, `FileSystem.follow_directory`, `FileSystem.follow_link` and
  `FileSystem.follow_file` say how a path goes on from one of its parts.
* `Node.mem_filesBelow_iff` says which ways a search finds.
-/

namespace ScriptReview

namespace Node

/-- The names in a tree are names, and no directory has one of them twice. -/
inductive WellNamed : Node → Prop
  | file (content : ByteArray) : WellNamed (.file content)
  | unreadable (reason : String) : WellNamed (.unreadable reason)
  | link (target : RawText) : WellNamed (.link target)
  | directory {entries : List (RawText × Node)} (hnodup : (entries.map Prod.fst).Nodup)
      (hname : ∀ entry ∈ entries, Path.IsName entry.1)
      (hnode : ∀ entry ∈ entries, WellNamed entry.2) : WellNamed (.directory entries)

/-- Whether a node is a file, readable or not. -/
def IsRegular : Node → Prop
  | .file _ => True
  | .unreadable _ => True
  | .link _ => False
  | .directory _ => False

/-- A way of names leads from a node to another. It goes through directories only. -/
inductive Leads : Node → List RawText → Node → Prop
  | here (node : Node) : Leads node [] node
  | enter {entries : List (RawText × Node)} {name : RawText} {child leaf : Node}
      {way : List RawText} (hmem : (name, child) ∈ entries) (hrest : Leads child way leaf) :
      Leads (.directory entries) (name :: way) leaf

/-- The names on a way through a tree are names. -/
theorem Leads.isName {node leaf : Node} {way : List RawText} (h : Leads node way leaf)
    (hnode : node.WellNamed) : ∀ name ∈ way, Path.IsName name := by
  induction h with
  | here => simp
  | enter hmem _ ih =>
      cases hnode with
      | directory _ hname hchild =>
          intro n hn
          rcases List.mem_cons.mp hn with rfl | hn
          · exact hname _ hmem
          · exact ih (hchild _ hmem) n hn

/-! ## What a search finds -/

/-- The entries that are not passed over come with the files below them. -/
theorem filesOf_eq (entries : List (RawText × Node)) :
    filesOf entries = (entries.filter fun entry => !isPruned entry.1).map fun entry =>
      (entry.1, entry.2.filesBelow) := by
  induction entries with
  | nil => rfl
  | cons entry rest ih =>
      obtain ⟨name, node⟩ := entry
      unfold filesOf
      by_cases hpruned : isPruned name = true
      · rw [if_pos hpruned, ih, List.filter_cons_of_neg (by simp [hpruned])]
      · rw [if_neg hpruned, ih, List.filter_cons_of_pos (by simp [hpruned]), List.map_cons]

/-- A name is passed over exactly if it is listed, because no listed name has a replacement
character. -/
theorem isPruned_iff (name : RawText) :
    isPruned name = true ↔ name ∈ prunedNames.map RawText.ofString := by
  have hplain : ∀ pruned ∈ prunedNames, RawText.replacement ∉ pruned.toList := by decide
  rw [isPruned, List.contains_iff_mem, List.mem_map]
  constructor
  · intro h
    exact ⟨name.shown, h, ((name.shown_eq_iff (hplain _ h)).mp rfl).symm⟩
  · rintro ⟨pruned, hpruned, rfl⟩
    rwa [RawText.shown_ofString]

/-- A name is not passed over exactly if it is not listed. -/
theorem isPruned_eq_false_iff (name : RawText) :
    isPruned name = false ↔ name ∉ prunedNames.map RawText.ofString := by
  rw [← isPruned_iff, Bool.not_eq_true]

/-- The entries that are not passed over, with the files below them. -/
theorem mem_filesOf_iff (entries : List (RawText × Node)) (name : RawText)
    (ways : List (List RawText)) :
    (name, ways) ∈ filesOf entries ↔
      name ∉ prunedNames.map RawText.ofString ∧
        ∃ child, (name, child) ∈ entries ∧ child.filesBelow = ways := by
  rw [filesOf_eq, ← isPruned_eq_false_iff]
  constructor
  · intro h
    obtain ⟨⟨name', child⟩, hmem, heq⟩ := List.mem_map.mp h
    obtain ⟨hentry, hpruned⟩ := List.mem_filter.mp hmem
    obtain ⟨rfl, hways⟩ := Prod.mk.inj heq
    exact ⟨by simpa using hpruned, child, hentry, hways⟩
  · rintro ⟨hpruned, child, hentry, rfl⟩
    exact List.mem_map.mpr ⟨(name, child), List.mem_filter.mpr ⟨hentry, by simp [hpruned]⟩, rfl⟩

/-- A way through several directories begins with the name of one of them. -/
theorem mem_inOrder_iff (named : List (RawText × List (List RawText))) (way : List RawText) :
    way ∈ inOrder named ↔ ∃ name ways rest,
      (name, ways) ∈ named ∧ rest ∈ ways ∧ way = name :: rest := by
  simp only [inOrder, List.mem_flatMap, List.mem_mergeSort, List.mem_map, Prod.exists]
  constructor
  · rintro ⟨name, ways, hmem, rest, hrest, rfl⟩
    exact ⟨name, ways, rest, hmem, hrest, rfl⟩
  · rintro ⟨name, ways, rest, hmem, hrest, rfl⟩
    exact ⟨name, ways, hmem, rest, hrest, rfl⟩

/-- A search finds the empty way at a file only. -/
theorem nil_mem_filesBelow_iff (node : Node) : [] ∈ node.filesBelow ↔ node.IsRegular := by
  cases node with
  | file content => simp [filesBelow, IsRegular]
  | unreadable reason => simp [filesBelow, IsRegular]
  | link target => simp [filesBelow, IsRegular]
  | directory entries => simp [filesBelow, IsRegular, mem_inOrder_iff]

/-- A search finds other ways in directories only, and it goes on in the entries. -/
theorem cons_mem_filesBelow_iff (node : Node) (name : RawText) (way : List RawText) :
    name :: way ∈ node.filesBelow ↔ ∃ entries child, node = .directory entries ∧
      name ∉ prunedNames.map RawText.ofString ∧ (name, child) ∈ entries ∧
        way ∈ child.filesBelow := by
  cases node with
  | file content => simp [filesBelow]
  | unreadable reason => simp [filesBelow]
  | link target => simp [filesBelow]
  | directory entries =>
      rw [filesBelow, mem_inOrder_iff]
      constructor
      · rintro ⟨name', ways, rest, hmem, hrest, heq⟩
        obtain ⟨rfl, rfl⟩ := List.cons.inj heq
        obtain ⟨hpruned, child, hchild, rfl⟩ := (mem_filesOf_iff _ _ _).mp hmem
        exact ⟨entries, child, rfl, hpruned, hchild, hrest⟩
      · rintro ⟨entries', child, heq, hpruned, hchild, hway⟩
        obtain rfl := Node.directory.inj heq
        exact ⟨name, child.filesBelow, way, (mem_filesOf_iff _ _ _).mpr
          ⟨hpruned, child, hchild, rfl⟩, hway, rfl⟩

/-- A search finds a way exactly if the way leads to a file and no name on it is passed over. -/
theorem mem_filesBelow_iff (node : Node) (way : List RawText) :
    way ∈ node.filesBelow ↔
      (∃ leaf, node.Leads way leaf ∧ leaf.IsRegular) ∧
        ∀ name ∈ way, name ∉ prunedNames.map RawText.ofString := by
  induction way generalizing node with
  | nil =>
      rw [nil_mem_filesBelow_iff]
      constructor
      · intro h
        exact ⟨⟨node, .here node, h⟩, by simp⟩
      · rintro ⟨⟨leaf, hleads, hleaf⟩, -⟩
        cases hleads
        exact hleaf
  | cons name way ih =>
      rw [cons_mem_filesBelow_iff]
      constructor
      · rintro ⟨entries, child, rfl, hpruned, hchild, hway⟩
        obtain ⟨⟨leaf, hleads, hleaf⟩, hnames⟩ := (ih child).mp hway
        exact ⟨⟨leaf, .enter hchild hleads, hleaf⟩, List.forall_mem_cons.mpr ⟨hpruned, hnames⟩⟩
      · rintro ⟨⟨leaf, hleads, hleaf⟩, hnames⟩
        obtain ⟨hpruned, hrest⟩ := List.forall_mem_cons.mp hnames
        cases hleads with
        | enter hchild hleads =>
            exact ⟨_, _, rfl, hpruned, hchild, (ih _).mpr ⟨⟨leaf, hleads, hleaf⟩, hrest⟩⟩

end Node

/-! ## Following paths -/

namespace FileSystem

/-- A path leads somewhere. -/
def Exists (fs : FileSystem) (path : RawText) : Prop :=
  ∃ node, fs.find path = .ok node

/-- The names in the tree of a file system are names, and no directory has one of them twice. -/
def WellNamed (fs : FileSystem) : Prop :=
  (Node.directory fs.root).WellNamed

/-- What a name is looked up to is an entry of that name. -/
theorem mem_of_lookup {entries : Entries} {name : RawText} {node : Node}
    (h : entries.lookup name = some node) : (name, node) ∈ entries := by
  obtain ⟨before, after, rfl, -⟩ := List.lookup_eq_some_iff.mp h
  simp

/-- What a name stands for in a well-named directory is well named. -/
theorem wellNamed_of_lookup {entries : Entries} {name : RawText} {node : Node}
    (h : (Node.directory entries).WellNamed) (hlookup : entries.lookup name = some node) :
    node.WellNamed := by
  cases h with
  | directory _ _ hnode => exact hnode (name, node) (mem_of_lookup hlookup)

/-- The innermost of some well-named directories is well named. -/
theorem innermost_wellNamed {root : Entries} {opened : List Entries}
    (hroot : (Node.directory root).WellNamed)
    (hopened : ∀ entries ∈ opened, (Node.directory entries).WellNamed) :
    (Node.directory (innermost root opened)).WellNamed := by
  cases opened with
  | nil => exact hroot
  | cons entries rest => exact hopened entries List.mem_cons_self

/-- What the parts of a path lead to in a well-named tree is well named. -/
theorem follow_wellNamed {root : Entries} {links : Nat} {opened : List Entries}
    {parts : List RawText} {node : Node} (hroot : (Node.directory root).WellNamed)
    (hopened : ∀ entries ∈ opened, (Node.directory entries).WellNamed)
    (h : follow root links opened parts = .ok node) : node.WellNamed := by
  -- The directories that are open stay well named, whatever part comes next.
  fun_induction follow root links opened parts with
  | case1 links opened =>
      obtain rfl := Except.ok.inj h
      exact innermost_wellNamed hroot hopened
  | case2 links opened part rest hidle ih => exact ih hopened h
  | case3 links opened rest hidle ih =>
      exact ih (fun entries hmem => hopened entries (List.mem_of_mem_tail hmem)) h
  | case4 => contradiction
  | case5 links opened part rest hidle hup entries hlookup ih =>
      have hentries : (Node.directory entries).WellNamed :=
        wellNamed_of_lookup (innermost_wellNamed hroot hopened) hlookup
      exact ih (List.forall_mem_cons.mpr ⟨hentries, hopened⟩) h
  | case6 => contradiction
  | case7 opened part rest hidle hup target hlookup links ih =>
      refine ih ?_ h
      split
      · simp
      · exact hopened
  | case8 links opened part rest hidle hup node' hdirectory hlink hlookup hend =>
      obtain rfl := Except.ok.inj h
      exact wellNamed_of_lookup (innermost_wellNamed hroot hopened) hlookup
  | case9 => contradiction

/-- What a path leads to in a well-named file system is well named. -/
theorem find_wellNamed {fs : FileSystem} {path : RawText} {node : Node} (hfs : fs.WellNamed)
    (h : fs.find path = .ok node) : node.WellNamed := by
  unfold find at h
  split at h
  · contradiction
  · exact follow_wellNamed hfs (by simp) h

/-- A path that leads somewhere is not empty. -/
theorem ne_empty_of_find {fs : FileSystem} {path : RawText} {node : Node}
    (h : fs.find path = .ok node) : path ≠ .empty := by
  rintro rfl
  contradiction

section Parts

variable {root : Entries} {links : Nat} {opened : List Entries} {part : RawText}
  {rest : List RawText}

/-- A part that leads nowhere is passed over. -/
theorem follow_idle (hidle : Path.isIdle part = true) :
    follow root links opened (part :: rest) = follow root links opened rest := by
  rw [follow, if_pos hidle]

/-- A part that the innermost directory does not have leads nowhere. -/
theorem follow_missing (hidle : ¬ Path.isIdle part = true) (hup : ¬ part = Path.above)
    (hlookup : (innermost root opened).lookup part = none) :
    follow root links opened (part :: rest) = .error .missing := by
  rw [follow, if_neg hidle, if_neg hup, hlookup]

/-- A part that names a directory opens it. -/
theorem follow_directory {entries : Entries} (hidle : ¬ Path.isIdle part = true)
    (hup : ¬ part = Path.above)
    (hlookup : (innermost root opened).lookup part = some (.directory entries)) :
    follow root links opened (part :: rest) = follow root links (entries :: opened) rest := by
  rw [follow, if_neg hidle, if_neg hup, hlookup]

/-- A part that names a link is replaced by the path that the link leads to. -/
theorem follow_link {target : RawText} (hidle : ¬ Path.isIdle part = true)
    (hup : ¬ part = Path.above)
    (hlookup : (innermost root opened).lookup part = some (.link target)) :
    follow root (links + 1) opened (part :: rest) =
      follow root links (if Path.isAbsolute target then [] else opened)
        (Path.parts target ++ rest) := by
  rw [follow, if_neg hidle, if_neg hup, hlookup]

/-- A link is not followed after too many others. -/
theorem follow_tooManyLinks {target : RawText} (hidle : ¬ Path.isIdle part = true)
    (hup : ¬ part = Path.above)
    (hlookup : (innermost root opened).lookup part = some (.link target)) :
    follow root 0 opened (part :: rest) = .error .tooManyLinks := by
  rw [follow, if_neg hidle, if_neg hup, hlookup]

/-- A part that names a file ends a path. -/
theorem follow_file {node : Node} (hidle : ¬ Path.isIdle part = true) (hup : ¬ part = Path.above)
    (hdirectory : ∀ entries, node = .directory entries → False)
    (hlink : ∀ target, node = .link target → False)
    (hlookup : (innermost root opened).lookup part = some node) :
    follow root links opened (part :: rest) =
      if rest.isEmpty then .ok node else .error .notDirectory := by
  rw [follow, if_neg hidle, if_neg hup, hlookup]
  cases node with
  | file content => rfl
  | unreadable reason => rfl
  | link target => exact (hlink target rfl).elim
  | directory entries => exact (hdirectory entries rfl).elim

end Parts

/-- A name is a path that is followed from the working directory. -/
theorem find_name {fs : FileSystem} {name : RawText} (hname : Path.IsName name) :
    fs.find name = follow fs.root linkLimit [] (fs.workingDirectory ++ [name]) := by
  have hpart : Path.parts name = [name] := by
    have hway := Path.parts_ofParts (List.cons_ne_nil name []) (by simpa using hname)
    rwa [Path.ofParts_singleton hname] at hway
  rw [find, if_neg hname.1, partsFromRoot, Path.isAbsolute_of_isName hname, hpart]
  rfl

/-- A name that the root does not have leads nowhere from there. -/
theorem find_eq_missing {fs : FileSystem} {name : RawText} (hname : Path.IsName name)
    (hworking : fs.workingDirectory = []) (hlookup : fs.root.lookup name = none) :
    fs.find name = .error .missing := by
  rw [find_name hname, hworking, List.nil_append]
  exact follow_missing (by simp [Path.isIdle_of_isName hname]) hname.2.2.1 hlookup

end FileSystem
end ScriptReview
