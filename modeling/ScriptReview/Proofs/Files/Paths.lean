import ScriptReview.Files.Discovery
import ScriptReview.Proofs.Text.Raw

/-!
# Paths below a directory

A directory gives each of its entries a name, and a path goes on below a directory with the names
on the way.  Names have no slash and lead somewhere, so that a path below a directory determines
the names on its way, and the last of them decides which extension the path has.

Main definitions:

* `Path.IsName` says that a text can be the name of an entry of a directory.

Main results:

* `Path.parts_ofParts` says that the names on a way are the parts of its path.
* `Path.join_ofParts_inj` says that different ways below a directory have different paths.
* `Path.extension?_join` says that the extension of a path is that of the last name.
* `Path.extensionOf?_eq_some_iff` says what the extension of a name is.
* `FileSystem.pathBelow_eq_join` says that going on name by name is going on once.
-/

namespace ScriptReview
namespace Path

open Text (splitAt joinWith)

/-- Whether a text can be the name of an entry of a directory. -/
def IsName (name : RawText) : Prop :=
  name ≠ .empty ∧ name ≠ here ∧ name ≠ above ∧ slash ∉ name.bytes

instance (name : RawText) : Decidable (IsName name) :=
  inferInstanceAs (Decidable (_ ∧ _ ∧ _ ∧ _))

/-- A name has bytes. -/
theorem IsName.bytes_ne_nil {name : RawText} (h : IsName name) : name.bytes ≠ [] :=
  fun hnil => h.1 (RawText.ext hnil)

/-- A name leads somewhere. -/
theorem isIdle_of_isName {name : RawText} (h : IsName name) : isIdle name = false := by
  simp [isIdle, h.1, h.2.1]

/-! ## The parts of a way -/

/-- The path of a way is made of its names and the slashes between them. -/
theorem bytes_ofParts {way : List RawText} (hway : ∀ name ∈ way, IsName name) :
    (ofParts way).bytes = joinWith slash (way.map RawText.bytes) := by
  unfold ofParts
  split
  · exact absurd rfl (hway .empty (by simp [RawText.empty])).1
  · rfl

/-- The parts of the path of a way are the names on the way. -/
theorem parts_ofParts {way : List RawText} (hne : way ≠ []) (hway : ∀ name ∈ way, IsName name) :
    parts (ofParts way) = way := by
  have hpieces : ∀ piece ∈ way.map RawText.bytes, slash ∉ piece := by
    intro piece hpiece
    obtain ⟨name, hname, rfl⟩ := List.mem_map.mp hpiece
    exact (hway name hname).2.2.2
  rw [parts, bytes_ofParts hway, Text.splitAt_joinWith (by simpa using hne) hpieces,
    List.map_map]
  exact List.map_id way

/-- The path of a way of one name is this name. -/
theorem ofParts_singleton {name : RawText} (h : IsName name) : ofParts [name] = name := by
  apply RawText.ext
  rw [bytes_ofParts (by simpa using h)]
  rfl

/-- A slash stands between the first name of a way and the others. -/
theorem ofParts_cons {name : RawText} {way : List RawText} (hne : way ≠ [])
    (hname : IsName name) (hway : ∀ n ∈ way, IsName n) :
    ofParts (name :: way) = ⟨name.bytes ++ slash :: (ofParts way).bytes⟩ := by
  have hall : ∀ n ∈ name :: way, IsName n := by
    intro n hn
    rcases List.mem_cons.mp hn with rfl | hn
    · exact hname
    · exact hway n hn
  obtain ⟨second, rest, rfl⟩ := List.exists_cons_of_ne_nil hne
  apply RawText.ext
  rw [bytes_ofParts hall, bytes_ofParts hway, List.map_cons, List.map_cons,
    Text.joinWith_cons_cons]

/-- A path that begins with a name is relative. -/
theorem isAbsolute_append_of_isName {name : RawText} (h : IsName name) (rest : List UInt8) :
    isAbsolute ⟨name.bytes ++ rest⟩ = false := by
  obtain ⟨b, bs, hbytes⟩ := List.exists_cons_of_ne_nil h.bytes_ne_nil
  have hb : b ≠ slash := by
    intro hslash
    exact h.2.2.2 (by simp [hbytes, hslash])
  simp [isAbsolute, Text.startsWith, hbytes, List.isPrefixOf_cons_cons, Ne.symm hb]

/-- A name is relative. -/
theorem isAbsolute_of_isName {name : RawText} (h : IsName name) : isAbsolute name = false := by
  simpa using isAbsolute_append_of_isName h []

/-- The path of a way is relative. -/
theorem isAbsolute_ofParts {way : List RawText} (hne : way ≠ [])
    (hway : ∀ name ∈ way, IsName name) : isAbsolute (ofParts way) = false := by
  obtain ⟨first, rest, rfl⟩ := List.exists_cons_of_ne_nil hne
  have hfirst : IsName first := hway first (by simp)
  by_cases hrest : rest = []
  · subst hrest
    rw [ofParts_singleton hfirst]
    exact isAbsolute_of_isName hfirst
  · rw [ofParts_cons hrest hfirst fun n hn => hway n (List.mem_cons_of_mem first hn)]
    exact isAbsolute_append_of_isName hfirst _

/-! ## Going on from a path -/

/-- What stands before a relative path that goes on from a path. -/
def stemOf (base : RawText) : List UInt8 :=
  if Text.endsWith [slash] base.bytes then base.bytes else base.bytes ++ [slash]

/-- Going on with a relative path puts it after the path, which a slash ends. -/
theorem join_eq_stemOf_append {base path : RawText} (hbase : base ≠ .empty)
    (hpath : isAbsolute path = false) : join base path = ⟨stemOf base ++ path.bytes⟩ := by
  unfold join stemOf
  rw [if_neg (by simp [hpath, hbase])]
  split
  · rfl
  · rw [List.append_assoc, List.singleton_append]

/-- What stands before a relative path ends with a slash. -/
theorem exists_stemOf_eq (base : RawText) : ∃ before, stemOf base = before ++ [slash] := by
  unfold stemOf
  split
  · rename_i hslash
    obtain ⟨before, hbefore⟩ := List.isSuffixOf_iff_suffix.mp hslash
    exact ⟨before, hbefore.symm⟩
  · exact ⟨base.bytes, rfl⟩

/-- Different relative paths lead to different paths. -/
theorem join_inj {base path path' : RawText} (hbase : base ≠ .empty)
    (hpath : isAbsolute path = false) (hpath' : isAbsolute path' = false)
    (h : join base path = join base path') : path = path' := by
  rw [join_eq_stemOf_append hbase hpath, join_eq_stemOf_append hbase hpath'] at h
  apply RawText.ext
  exact List.append_cancel_left (RawText.mk.inj h)

/-- Different ways below a directory have different paths. -/
theorem join_ofParts_inj {base : RawText} {way way' : List RawText} (hbase : base ≠ .empty)
    (hne : way ≠ []) (hway : ∀ name ∈ way, IsName name)
    (hne' : way' ≠ []) (hway' : ∀ name ∈ way', IsName name)
    (h : join base (ofParts way) = join base (ofParts way')) : way = way' := by
  have hpaths : ofParts way = ofParts way' :=
    join_inj hbase (isAbsolute_ofParts hne hway) (isAbsolute_ofParts hne' hway') h
  calc
    way = parts (ofParts way) := (parts_ofParts hne hway).symm
    _ = parts (ofParts way') := by rw [hpaths]
    _ = way' := parts_ofParts hne' hway'

/-- A path that a relative path was put after is not empty. -/
theorem join_ne_empty {base path : RawText} (hbase : base ≠ .empty)
    (hpath : isAbsolute path = false) : join base path ≠ .empty := by
  rw [join_eq_stemOf_append hbase hpath]
  obtain ⟨before, hbefore⟩ := exists_stemOf_eq base
  intro h
  have hbytes := congrArg RawText.bytes h
  simp [hbefore, RawText.empty] at hbytes

/-- A text that a name ends does not end with a slash. -/
theorem endsWith_slash_append {name : RawText} (h : IsName name) (before : List UInt8) :
    Text.endsWith [slash] (before ++ name.bytes) = false := by
  have hbytes := List.dropLast_concat_getLast h.bytes_ne_nil
  rw [Bool.eq_false_iff]
  intro hends
  obtain ⟨rest, hrest⟩ := List.isSuffixOf_iff_suffix.mp hends
  rw [← hbytes, ← List.append_assoc] at hrest
  have hslash : [slash] = [name.bytes.getLast h.bytes_ne_nil] := List.append_inj_right' hrest rfl
  have hmem := List.getLast_mem h.bytes_ne_nil
  rw [← (List.cons.inj hslash).1] at hmem
  exact h.2.2.2 hmem

/-- Going on with a name and then with a path is going on with both at once. -/
theorem join_join {base name path : RawText} (hbase : base ≠ .empty) (hname : IsName name)
    (hpath : isAbsolute path = false) :
    join (join base name) path = join base ⟨name.bytes ++ slash :: path.bytes⟩ := by
  have hrelative : isAbsolute name = false := isAbsolute_of_isName hname
  have hboth : isAbsolute ⟨name.bytes ++ slash :: path.bytes⟩ = false :=
    isAbsolute_append_of_isName hname _
  have hstem : stemOf (join base name) = stemOf base ++ name.bytes ++ [slash] := by
    rw [join_eq_stemOf_append hbase hrelative, stemOf, endsWith_slash_append hname]
    rfl
  rw [join_eq_stemOf_append (join_ne_empty hbase hrelative) hpath, hstem,
    join_eq_stemOf_append hbase hboth]
  simp only [List.append_assoc, List.singleton_append]

/-! ## Names and extensions -/

/-- The last name of a path that a name was put after is this name. -/
theorem name?_join {base name : RawText} (hbase : base ≠ .empty) (hname : IsName name) :
    name? (join base name) = some name := by
  obtain ⟨before, hbefore⟩ := exists_stemOf_eq base
  have hparts : parts (join base name) = (splitAt slash before).map RawText.mk ++ [name] := by
    rw [join_eq_stemOf_append hbase (isAbsolute_of_isName hname), parts, hbefore,
      List.append_assoc, List.singleton_append, Text.splitAt_append_cons,
      Text.splitAt_of_not_mem hname.2.2.2, List.map_append]
    rfl
  have hlast : ((parts (join base name)).filter fun p => !isIdle p).getLast? = some name := by
    rw [hparts, List.filter_append, List.filter_cons_of_pos (by simp [isIdle_of_isName hname])]
    simp
  rw [name?, hlast]
  simp [hname.2.2.1]

/-- The extension of a path that a name was put after is that of the name. -/
theorem extension?_join {base name : RawText} (hbase : base ≠ .empty) (hname : IsName name) :
    extension? (join base name) = extensionOf? name := by
  rw [extension?, name?_join hbase hname, Option.bind_some]

/-- The extension of a name is what follows its last point, which is not its first character. -/
theorem extensionOf?_eq_some_iff (name extension : RawText) :
    extensionOf? name = some extension ↔ ∃ stem : List UInt8,
      stem ≠ [] ∧ name.bytes = stem ++ point :: extension.bytes ∧ point ∉ extension.bytes := by
  constructor
  · intro h
    unfold extensionOf? at h
    split at h
    · contradiction
    · contradiction
    · rename_i hone htwo
      obtain ⟨last, hlast, rfl⟩ := Option.map_eq_some_iff.mp h
      obtain ⟨front, hsplit⟩ := List.getLast?_eq_some_iff.mp hlast
      have hfront : front ≠ [] := by
        rintro rfl
        exact hone last hsplit
      obtain ⟨hpieces, hname, hpoint⟩ := Text.eq_of_splitAt_eq_concat hfront hsplit
      refine ⟨joinWith point front, ?_, hname, hpoint⟩
      intro hempty
      rw [hempty, Text.splitAt_nil] at hpieces
      subst hpieces
      exact htwo last hsplit
  · rintro ⟨stem, hstem, hname, hpoint⟩
    have hsplit : splitAt point name.bytes = splitAt point stem ++ [extension.bytes] := by
      rw [hname, Text.splitAt_append_cons, Text.splitAt_of_not_mem hpoint]
    unfold extensionOf?
    split
    · rename_i piece hone
      rw [hone] at hsplit
      have hnil : splitAt point stem = [] := by simpa using congrArg List.length hsplit
      exact absurd hnil (Text.splitAt_ne_nil point stem)
    · rename_i last htwo
      have hnil : splitAt point stem = [[]] := by
        have hpieces : [[]] ++ [last] = splitAt point stem ++ [extension.bytes] :=
          htwo.symm.trans hsplit
        exact (List.append_inj_left' hpieces rfl).symm
      rw [← Text.joinWith_splitAt point stem, hnil] at hstem
      contradiction
    · rw [hsplit]
      simp

/-- A name that is passed over has no extension. -/
theorem extensionOf?_eq_none_of_pruned {name : String} (h : name ∈ prunedNames) :
    extensionOf? (.ofString name) = none := by
  revert name
  decide

end Path

namespace FileSystem

open ScriptReview.Path (IsName join ofParts)

/-- Going on name by name ends with the last name. -/
theorem pathBelow_concat (directory : RawText) (way : List RawText) (name : RawText) :
    pathBelow directory (way ++ [name]) = join (pathBelow directory way) name := by
  simp only [pathBelow, List.foldl_append, List.foldl_cons, List.foldl_nil]

/-- Going on name by name is going on once with the path of all names. -/
theorem pathBelow_eq_join {directory : RawText} {way : List RawText}
    (hdirectory : directory ≠ .empty)
    (hne : way ≠ []) (hway : ∀ name ∈ way, IsName name) :
    pathBelow directory way = join directory (ofParts way) := by
  induction way generalizing directory with
  | nil => exact absurd rfl hne
  | cons name way ih =>
      have hname : IsName name := hway name (by simp)
      have hrest : ∀ n ∈ way, IsName n := fun n hn => hway n (List.mem_cons_of_mem name hn)
      by_cases hend : way = []
      · subst hend
        rw [Path.ofParts_singleton hname]
        rfl
      · have hnext : join directory name ≠ .empty :=
          Path.join_ne_empty hdirectory (Path.isAbsolute_of_isName hname)
        calc
          pathBelow directory (name :: way)
              = pathBelow (join directory name) way := rfl
          _ = join (join directory name) (ofParts way) := ih hnext hend hrest
          _ = join directory (ofParts (name :: way)) := by
            rw [Path.join_join hdirectory hname (Path.isAbsolute_ofParts hend hrest),
              Path.ofParts_cons hend hname hrest]

/-- A path below a directory is not empty. -/
theorem pathBelow_ne_empty {directory : RawText} {way : List RawText}
    (hdirectory : directory ≠ .empty)
    (hway : ∀ name ∈ way, IsName name) : pathBelow directory way ≠ .empty := by
  by_cases hne : way = []
  · subst hne
    exact hdirectory
  · rw [pathBelow_eq_join hdirectory hne hway]
    exact Path.join_ne_empty hdirectory (Path.isAbsolute_ofParts hne hway)

end FileSystem
end ScriptReview
