import ScriptReview.Proofs.Files.Trees
import ScriptReview.Proofs.Traversal

/-!
# What is found in a directory

A directory stands for the files below it that ways without links and without passed-over
directories lead to, and whose names have a wanted extension.  Names are passed over no matter what
they stand for, but a file loses nothing by that: a name that is passed over has no extension.

Main definitions:

* `Config.WantsName` says that the extension of a name is wanted.
* `FileSystem.wantedWays` lists the ways to the wanted files below a directory.

Main results:

* `FileSystem.mem_wantedWays_iff` says which ways lead to wanted files.
* `FileSystem.discover_eq_error_iff` and `FileSystem.exists_discover_eq_ok` say what becomes of
  several paths.
* `FileSystem.discover_eq_map_wantedWays` gives the files of a directory as the paths of these ways.
* `FileSystem.mem_discover_directory_iff` says which paths a directory stands for.
-/

namespace ScriptReview

open ScriptReview.Path (IsName join ofParts)

namespace Config

/-- A configuration wants a file of this name: what follows the last point of the name, which is
not its first byte, is a configured extension up to the case of ASCII letters. -/
def WantsName (c : Config) (name : RawText) : Prop :=
  ∃ (stem : List UInt8) (extension : String),
    stem ≠ [] ∧ name.bytes = stem ++ Path.point :: (RawText.ofString extension).bytes ∧
      Path.point ∉ (RawText.ofString extension).bytes ∧
        ∃ wanted ∈ c.review.extensions,
          wanted.toList.map Char.toLower = extension.toList.map Char.toLower

/-- A name is wanted exactly if it has an extension that is a text and is configured. -/
theorem wantsName_iff (c : Config) (name : RawText) :
    c.WantsName name ↔ ∃ extension, Path.extensionOf? name = some (.ofString extension) ∧
      ∃ wanted ∈ c.review.extensions,
        Text.sameIgnoringCase wanted.toList extension.toList = true := by
  simp only [WantsName, Path.extensionOf?_eq_some_iff, Text.sameIgnoringCase, beq_iff_eq]
  constructor
  · rintro ⟨stem, extension, hstem, hname, hpoint, hwanted⟩
    exact ⟨extension, ⟨stem, hstem, hname, hpoint⟩, hwanted⟩
  · rintro ⟨extension, ⟨stem, hstem, hname, hpoint⟩, hwanted⟩
    exact ⟨stem, extension, hstem, hname, hpoint, hwanted⟩

/-- A file is wanted for its name, wherever it lies. -/
theorem wants_join (c : Config) {base name : RawText} (hbase : base ≠ .empty)
    (hname : IsName name) : c.wants (join base name) = true ↔ c.WantsName name := by
  rw [wantsName_iff, wants, Path.extension?_join hbase hname]
  simp only [Option.any_eq_true, List.any_eq_true, Option.bind_eq_some_iff,
    RawText.text?_eq_some_iff]
  constructor
  · rintro ⟨extension, ⟨raw, hraw, rfl⟩, hwanted⟩
    exact ⟨extension, hraw, hwanted⟩
  · rintro ⟨extension, hextension, hwanted⟩
    exact ⟨extension, ⟨_, hextension, rfl⟩, hwanted⟩

/-- A name that is passed over is not wanted. -/
theorem WantsName.not_pruned {c : Config} {name : RawText} (h : c.WantsName name) :
    name ∉ prunedNames.map RawText.ofString := by
  intro hpruned
  obtain ⟨extension, hextension, -⟩ := (c.wantsName_iff name).mp h
  obtain ⟨listed, hlisted, rfl⟩ := List.mem_map.mp hpruned
  rw [Path.extensionOf?_eq_none_of_pruned hlisted] at hextension
  contradiction

end Config

namespace FileSystem

/-- The ways to the files below a directory that a configuration wants. -/
def wantedWays (c : Config) (directory : RawText) (entries : Entries) : List (List RawText) :=
  (Node.directory entries).filesBelow.filter fun way => c.wants (pathBelow directory way)

/-- The names on a way that is found below a directory are names. -/
theorem isName_of_mem_wantedWays {c : Config} {directory : RawText} {entries : Entries}
    (hentries : (Node.directory entries).WellNamed) {way : List RawText}
    (h : way ∈ wantedWays c directory entries) : ∀ name ∈ way, IsName name := by
  obtain ⟨hfound, -⟩ := List.mem_filter.mp h
  obtain ⟨⟨leaf, hleads, -⟩, -⟩ := (Node.mem_filesBelow_iff _ _).mp hfound
  exact hleads.isName hentries

/-- A way that is found below a directory is not empty. -/
theorem ne_nil_of_mem_wantedWays {c : Config} {directory : RawText} {entries : Entries}
    {way : List RawText} (h : way ∈ wantedWays c directory entries) : way ≠ [] := by
  rintro rfl
  obtain ⟨hfound, -⟩ := List.mem_filter.mp h
  exact (Node.nil_mem_filesBelow_iff (.directory entries)).mp hfound

/-- The way to a wanted file goes through directories that are not passed over and ends with a
wanted name. -/
theorem mem_wantedWays_iff (c : Config) {directory : RawText} {entries : Entries}
    (hdirectory : directory ≠ .empty) (hentries : (Node.directory entries).WellNamed)
    (front : List RawText) (name : RawText) :
    front ++ [name] ∈ wantedWays c directory entries ↔
      (∃ leaf, (Node.directory entries).Leads (front ++ [name]) leaf ∧ leaf.IsRegular) ∧
        (∀ n ∈ front, n ∉ prunedNames.map RawText.ofString) ∧ c.WantsName name := by
  rw [wantedWays, List.mem_filter, Node.mem_filesBelow_iff, and_assoc]
  refine and_congr_right ?_
  rintro ⟨leaf, hleads, -⟩
  have hnames := hleads.isName hentries
  have hbase : pathBelow directory front ≠ .empty :=
    pathBelow_ne_empty hdirectory fun n hn => hnames n (List.mem_append_left [name] hn)
  have hwants : c.wants (pathBelow directory (front ++ [name])) = true ↔ c.WantsName name := by
    rw [pathBelow_concat]
    exact c.wants_join hbase (hnames name (by simp))
  -- The name of the file is never passed over, because it would not be wanted then.
  constructor
  · rintro ⟨hpruned, hname⟩
    exact ⟨fun n hn => hpruned n (List.mem_append_left [name] hn), hwants.mp hname⟩
  · rintro ⟨hpruned, hname⟩
    refine ⟨?_, hwants.mpr hname⟩
    intro n hn
    rcases List.mem_append.mp hn with hfront | hlast
    · exact hpruned n hfront
    · rw [List.mem_singleton.mp hlast]
      exact hname.not_pruned

/-- The wanted files below a directory are the paths of the ways to them. -/
theorem wantedBelow_eq_map (c : Config) {directory : RawText} {entries : Entries}
    (hdirectory : directory ≠ .empty) (hentries : (Node.directory entries).WellNamed) :
    wantedBelow c directory entries =
      (wantedWays c directory entries).map fun way => join directory (ofParts way) := by
  rw [wantedBelow, List.filter_map]
  apply List.map_congr_left
  intro way hway
  exact pathBelow_eq_join hdirectory (ne_nil_of_mem_wantedWays hway)
    (isName_of_mem_wantedWays hentries hway)

/-! ## Several paths -/

/-- A single path stands for its own files. -/
theorem discover_singleton (fs : FileSystem) (c : Config) (path : RawText) :
    fs.discover c [path] = fs.discoverAt c path := by
  unfold discover
  rw [mapM_cons_eq]
  cases fs.discoverAt c path with
  | error fault => rfl
  | ok files => exact congrArg Except.ok (by simp)

/-- A path stands for files exactly if it leads somewhere. -/
theorem exists_iff_discoverAt (fs : FileSystem) (c : Config) (path : RawText) :
    fs.Exists path ↔ ∃ files, fs.discoverAt c path = .ok files := by
  unfold Exists discoverAt
  cases fs.find path with
  | error fault => simp
  | ok node => cases node <;> simp

/-- A path that leads nowhere is to blame for that. -/
theorem discoverAt_eq_error_iff (fs : FileSystem) (c : Config) (path : RawText) (fault : Fault) :
    fs.discoverAt c path = .error fault ↔ ¬ fs.Exists path ∧ fault = .io notFound path := by
  unfold Exists discoverAt
  cases fs.find path with
  | error cause => simp [eq_comm]
  | ok node => cases node <;> simp

/-- Anything but a directory stands for itself. -/
theorem discover_eq_self {fs : FileSystem} (c : Config) {path : RawText} {node : Node}
    (hfind : fs.find path = .ok node) (hnode : ∀ entries, node ≠ .directory entries) :
    fs.discover c [path] = .ok [path] := by
  rw [discover_singleton, discoverAt, hfind]
  cases node with
  | file content => rfl
  | unreadable reason => rfl
  | link target => rfl
  | directory entries => exact absurd rfl (hnode entries)

/-- Several paths stand for the files of each of them, one after the other. -/
theorem discover_eq_ok_iff (fs : FileSystem) (c : Config) (paths : List RawText)
    (files : List RawText) :
    fs.discover c paths = .ok files ↔ ∃ results : List (List RawText),
      paths.map (fs.discoverAt c) = results.map .ok ∧ results.flatten = files := by
  rw [discover, map_eq_ok_iff]
  simp only [mapM_eq_ok_iff]

/-- The files of several paths are found exactly if all paths lead somewhere. -/
theorem exists_mapM_discoverAt_iff (fs : FileSystem) (c : Config) (paths : List RawText) :
    (∃ results, paths.mapM (fs.discoverAt c) = .ok results) ↔ ∀ path ∈ paths, fs.Exists path := by
  rw [exists_mapM_eq_ok_iff]
  exact forall₂_congr fun path _ => (fs.exists_iff_discoverAt c path).symm

/-- A discovery fails exactly if a path leads nowhere, and the first such path is to blame. -/
theorem discover_eq_error_iff (fs : FileSystem) (c : Config) (paths : List RawText)
    (fault : Fault) :
    fs.discover c paths = .error fault ↔ ∃ before path after, paths = before ++ path :: after ∧
      (∀ p ∈ before, fs.Exists p) ∧ ¬ fs.Exists path ∧ fault = .io notFound path := by
  rw [discover, map_eq_error_iff, mapM_eq_error_iff]
  simp only [exists_mapM_discoverAt_iff, discoverAt_eq_error_iff]

/-- A discovery succeeds if all paths lead somewhere, and gives the files of each of them. -/
theorem exists_discover_eq_ok {fs : FileSystem} (c : Config) {paths : List RawText}
    (h : ∀ path ∈ paths, fs.Exists path) : ∃ results : List (List RawText),
      paths.map (fun path => fs.discover c [path]) = results.map .ok ∧
        fs.discover c paths = .ok results.flatten := by
  obtain ⟨results, hresults⟩ := (exists_mapM_discoverAt_iff fs c paths).mpr h
  have hmap := mapM_eq_ok_iff.mp hresults
  refine ⟨results, ?_, (fs.discover_eq_ok_iff c paths _).mpr ⟨results, hmap, rfl⟩⟩
  simpa only [discover_singleton] using hmap

/-! ## Directories -/

/-- A directory stands for the paths of the ways to the wanted files below it. -/
theorem discover_eq_map_wantedWays {fs : FileSystem} (c : Config) {root : RawText}
    {entries : Entries} (hfs : fs.WellNamed) (hroot : fs.find root = .ok (.directory entries)) :
    fs.discover c [root] =
      .ok ((wantedWays c root entries).map fun way => join root (ofParts way)) := by
  rw [discover_singleton, discoverAt, hroot,
    ← wantedBelow_eq_map c (ne_empty_of_find hroot) (find_wellNamed hfs hroot)]

/--
A directory stands for exactly those paths below it that lead to a file through directories, not
through links, none of which has a name that is passed over, and whose last name has an extension
that is configured.  The directory itself may be reached through a link and may have any name, and
that some file has a name that is passed over makes no difference.
-/
theorem mem_discover_directory_iff {fs : FileSystem} (c : Config) {root : RawText}
    {entries : Entries} (hfs : fs.WellNamed) (hroot : fs.find root = .ok (.directory entries)) :
    ∃ files, fs.discover c [root] = .ok files ∧ ∀ path, path ∈ files ↔
      ∃ (front : List RawText) (name : RawText),
        path = join root (ofParts (front ++ [name])) ∧
          (∃ leaf, (Node.directory entries).Leads (front ++ [name]) leaf ∧ leaf.IsRegular) ∧
            (∀ directory ∈ front, directory ∉ prunedNames.map RawText.ofString) ∧
              c.WantsName name := by
  have hmem := mem_wantedWays_iff c (ne_empty_of_find hroot) (find_wellNamed hfs hroot)
  refine ⟨_, discover_eq_map_wantedWays c hfs hroot, ?_⟩
  intro path
  rw [List.mem_map]
  constructor
  · rintro ⟨way, hway, rfl⟩
    have hconcat := List.dropLast_concat_getLast (ne_nil_of_mem_wantedWays hway)
    rw [← hconcat] at hway
    exact ⟨_, _, by rw [hconcat], (hmem _ _).mp hway⟩
  · rintro ⟨front, name, rfl, hway⟩
    exact ⟨_, (hmem _ _).mpr hway, rfl⟩

/-- A directory of sources with a directory that is passed over and with a link. -/
def linkedSources : Entries :=
  [("main.JS", .file .empty), ("dist", .directory [("old.js", .file .empty)]),
    ("lib", .directory [("util.ts", .file .empty)]), ("copy.js", .link "main.JS")]

/-- A file system in which a link with a name that is passed over leads to sources. -/
def linked : FileSystem where
  root := [("build", .link "src"), ("src", .directory linkedSources)]
  workingDirectory := []

/-- The names of the linked sources are names, each of them given once. -/
theorem linked_wellNamed : linked.WellNamed := by
  have hold : (Node.directory [("old.js", .file .empty)]).WellNamed :=
    .directory (by decide) (by decide) (by simp [Node.WellNamed.file])
  have hlib : (Node.directory [("util.ts", .file .empty)]).WellNamed :=
    .directory (by decide) (by decide) (by simp [Node.WellNamed.file])
  have hsources : (Node.directory linkedSources).WellNamed :=
    .directory (by decide) (by decide)
      (by simp [linkedSources, hold, hlib, Node.WellNamed.file, Node.WellNamed.link])
  exact .directory (by decide) (by decide) (by simp [linked, hsources, Node.WellNamed.link])

/-- The link `build` leads to the linked sources. -/
theorem find_linked : linked.find "build" = .ok (.directory linkedSources) := by
  have hname : IsName "build" := by decide
  have hlink : (innermost linked.root []).lookup (.ofString "build") = some (.link "src") := rfl
  calc
    linked.find "build" = follow linked.root 40 [] ["build"] := find_name hname
    _ = follow linked.root 39 [] ["src"] := follow_link (by decide) (by decide) hlink
    _ = follow linked.root 39 [linkedSources] [] := follow_directory (by decide) (by decide) rfl
    _ = .ok (.directory linkedSources) := by
      rw [follow]
      rfl

/-- The link `build` stands for the sources that it leads to, except those below `dist`. -/
theorem mem_discover_linked :
    linked.WellNamed ∧ linked.find "build" = .ok (.directory linkedSources) ∧
      ∃ files, linked.discover .standard ["build"] = .ok files ∧
        .ofString "build/lib/util.ts" ∈ files ∧ .ofString "build/dist/old.js" ∉ files := by
  obtain ⟨files, hfiles, hmem⟩ := mem_discover_directory_iff .standard linked_wellNamed find_linked
  refine ⟨linked_wellNamed, find_linked, files, hfiles, ?_, ?_⟩
  · have hlib : (.ofString "lib", .directory [("util.ts", .file .empty)]) ∈ linkedSources := by
      simp [linkedSources]
    have hleads : (Node.directory linkedSources).Leads ["lib", "util.ts"] (.file .empty) :=
      .enter hlib (.enter (by simp) (.here _))
    exact (hmem _).mpr ⟨["lib"], "util.ts", by decide, ⟨_, hleads, trivial⟩, by decide,
      (RawText.ofString "util").bytes, "ts", by decide, by decide, by decide, "ts", by decide, rfl⟩
  · intro hold
    obtain ⟨front, name, hpath, ⟨leaf, hleads, -⟩, hpruned, -⟩ := (hmem _).mp hold
    have hjoin : join "build" (ofParts ["dist", "old.js"]) =
        join "build" (ofParts (front ++ [name])) :=
      Eq.trans (by decide) hpath
    have hway : [.ofString "dist"] ++ [.ofString "old.js"] = front ++ [name] :=
      Path.join_ofParts_inj (by decide) (by simp) (by decide) (by simp)
        (hleads.isName (find_wellNamed linked_wellNamed find_linked)) hjoin
    have hfront : [.ofString "dist"] = front := (List.append_inj' hway rfl).1
    exact hpruned "dist" (by simp [← hfront]) (by decide)

end FileSystem
end ScriptReview
