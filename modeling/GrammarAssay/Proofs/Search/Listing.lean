import GrammarAssay.Proofs.FileTree.Walk
import GrammarAssay.Proofs.Library.FileName
import GrammarAssay.Proofs.Search.Locate
import GrammarAssay.Settings

/-!
# The listed libraries are the located ones

**Input.** A file tree, and search paths none of which is the empty path.

**Algorithm.** A search path holds a library of a grammar exactly where the grammar would be located below
it. So the first library of the grammar in all search paths is the one that is located. Keeping the first
library of every grammar, and sorting, leaves these.

**Results.**
* `mem_inDirectory_iff`: what one search path holds.
* `find?_flatMap_inDirectory`: the first library of a grammar is the located one.
* `pairwise_discover`: the list is sorted strictly.
* `mem_discover_iff_locate_eq`: what is listed is what is located.
-/

namespace GrammarAssay
namespace Search

variable {t : FileTree} {dir : Path}

/-- What a search path holds are the regular files with the name of a library. -/
theorem mem_inDirectory_iff (hdir : dir.bytes ≠ []) {f : Found} :
    f ∈ inDirectory t dir ↔
      f.name ≠ "" ∧ '/' ∉ f.name.toList ∧ f.path = candidate dir f.name ∧
        t.isFile f.path = true := by
  unfold inDirectory
  rw [List.mem_filterMap]
  constructor
  · rintro ⟨entry, _, hfound⟩
    simp only [found?] at hfound
    split at hfound
    · next hfile =>
        obtain ⟨name, hname, rfl⟩ := Option.map_eq_some_iff.mp hfound
        obtain ⟨hne, hbytes⟩ := Loader.grammarOfName?_eq_some_iff.mp hname
        obtain ⟨hslash, rfl⟩ := Library.eq_nameOf hbytes
        exact ⟨hne, hslash, rfl, hfile⟩
    · cases hfound
  · obtain ⟨name, path⟩ := f
    rintro ⟨hne, hslash, hpath, hfile⟩
    change path = candidate dir name at hpath
    subst hpath
    refine ⟨Library.nameOf name hslash, FileTree.mem_entries_of_isFile_join hdir hfile, ?_⟩
    have hname : (Library.nameOf name hslash).text?.bind Library.grammarName? = some name :=
      Loader.grammarOfName?_eq_some_iff.mpr ⟨hne, rfl⟩
    simp only [found?, hname, Option.map_some]
    exact if_pos hfile

/-- A search path holds at most one library of a grammar, which is where it would be located. -/
theorem find?_inDirectory (hdir : dir.bytes ≠ []) {name : String} (hne : name ≠ "")
    (hslash : '/' ∉ name.toList) :
    (inDirectory t dir).find? (fun f => f.name == name) =
      if t.isFile (candidate dir name) then some ⟨name, candidate dir name⟩ else none := by
  cases hfind : (inDirectory t dir).find? (fun f => f.name == name) with
  | some f =>
      have hname : f.name = name := by simpa using List.find?_some hfind
      obtain ⟨_, _, hpath, hfile⟩ := (mem_inDirectory_iff hdir).mp (List.mem_of_find?_eq_some hfind)
      obtain ⟨found, path⟩ := f
      change found = name at hname
      subst hname
      change path = candidate dir found at hpath
      subst hpath
      exact (if_pos hfile).symm
  | none =>
      split
      · next hfile =>
          have hmem : (⟨name, candidate dir name⟩ : Found) ∈ inDirectory t dir :=
            (mem_inDirectory_iff hdir).mpr ⟨hne, hslash, rfl, hfile⟩
          have hother := List.find?_eq_none.mp hfind _ hmem
          exact absurd (beq_self_eq_true name) hother
      · rfl

/-- The first library of a grammar among all that the search paths hold is the located one. -/
theorem find?_flatMap_inDirectory {paths : List Path} (hpaths : ∀ dir ∈ paths, dir.bytes ≠ [])
    {name : String} (hne : name ≠ "") (hslash : '/' ∉ name.toList) :
    (paths.flatMap (inDirectory t)).find? (fun f => f.name == name) =
      (locate t paths name).map fun path => ⟨name, path⟩ := by
  induction paths with
  | nil => rfl
  | cons dir paths ih =>
      have hdir := hpaths dir List.mem_cons_self
      have hrest := ih fun other hother => hpaths other (List.mem_cons_of_mem dir hother)
      rw [List.flatMap_cons, List.find?_append, find?_inDirectory hdir hne hslash, hrest,
        locate_cons]
      split
      · rfl
      · rfl

/-- The names of the libraries in the search paths are those of grammars. -/
theorem name_of_mem_flatMap {paths : List Path} (hpaths : ∀ dir ∈ paths, dir.bytes ≠ [])
    {f : Found} (hf : f ∈ paths.flatMap (inDirectory t)) :
    f.name ≠ "" ∧ '/' ∉ f.name.toList := by
  obtain ⟨dir, hdir, hmem⟩ := List.mem_flatMap.mp hf
  obtain ⟨hne, hslash, _⟩ := (mem_inDirectory_iff (hpaths dir hdir)).mp hmem
  exact ⟨hne, hslash⟩

/-- Sorting keeps the first libraries of all grammars. -/
theorem mem_discover_iff {paths : List Path} {f : Found} :
    f ∈ discover t paths ↔
      (paths.flatMap (inDirectory t)).find? (fun g => g.name == f.name) = some f := by
  rw [discover, List.mem_mergeSort, mem_firstOfName_iff]

/-- The list is sorted strictly, since no two of its libraries have one name. -/
theorem pairwise_discover (t : FileTree) (paths : List Path) :
    (discover t paths).Pairwise fun f g =>
      Text.Utf8.encode f.name < Text.Utf8.encode g.name := by
  have hsorted : (discover t paths).Pairwise fun f g => nameLe f g = true := by
    refine List.pairwise_mergeSort ?_ ?_ _
    · intro f g k hfg hgk
      exact decide_eq_true (List.le_trans (of_decide_eq_true hfg) (of_decide_eq_true hgk))
    · intro f g
      rw [Bool.or_eq_true, nameLe, nameLe, decide_eq_true_iff, decide_eq_true_iff]
      exact List.le_total _ _
  have hdistinct : (discover t paths).Pairwise fun f g => f.name ≠ g.name := by
    refine (List.Perm.pairwise_iff (fun hne => Ne.symm hne) (List.mergeSort_perm _ nameLe)).mpr ?_
    exact pairwise_firstOfName _
  refine (hsorted.and hdistinct).imp ?_
  rintro f g ⟨hle, hne⟩
  have hle := of_decide_eq_true hle
  refine (List.le_iff_lt_or_eq.mp hle).resolve_right ?_
  intro heq
  exact hne (Text.Utf8.encode_injective heq)

/-- **Listing agrees with locating.** A library is listed for a grammar exactly if it is what is located
for the grammar, under the same path, and the grammars are listed in strict byte order, so none of them
twice. -/
theorem mem_discover_iff_locate_eq (t : FileTree) (paths : List Path)
    (hpaths : ∀ dir ∈ paths, dir.bytes ≠ []) :
    (∀ name path, ⟨name, path⟩ ∈ discover t paths ↔
      name ≠ "" ∧ '/' ∉ name.toList ∧ locate t paths name = some path) ∧
    (discover t paths).Pairwise fun f g =>
      Text.Utf8.encode f.name < Text.Utf8.encode g.name := by
  refine ⟨?_, pairwise_discover t paths⟩
  intro name path
  rw [mem_discover_iff]
  constructor
  · intro h
    obtain ⟨hne, hslash⟩ := name_of_mem_flatMap hpaths (List.mem_of_find?_eq_some h)
    rw [find?_flatMap_inDirectory hpaths hne hslash] at h
    obtain ⟨found, hfound, heq⟩ := Option.map_eq_some_iff.mp h
    cases heq
    exact ⟨hne, hslash, hfound⟩
  · rintro ⟨hne, hslash, hlocate⟩
    rw [find?_flatMap_inDirectory hpaths hne hslash, hlocate]
    rfl

/-- The directories `a`, where the library of `x` is a link that leads nowhere, and `b`, where it is a
file. -/
def twoDirectories : FileTree where
  workingDirectory := []
  programDirectory := ⟨[slash]⟩
  nodes :=
    [([⟨[0x61], by decide⟩], .directory),
     ([⟨[0x61], by decide⟩, Library.nameOf "x" (by decide)], .link (Path.ofString "gone")),
     ([⟨[0x62], by decide⟩], .directory),
     ([⟨[0x62], by decide⟩, Library.nameOf "x" (by decide)], .file 0 (.filler ⟨[], 0⟩))]
  written := 1

/-- The search paths `a`, `b/` and `b`, and those that every environment adds. -/
def threeSpellings : Environment where
  grammarPath := some (Text.Utf8.encode "a:b/::b")
  dataHome := none
  home := Path.ofString "/home"
  executableDirectory := Path.ofString "/bin"

theorem mem_discover_twoDirectories :
    ⟨"x", Path.ofString "b/libtree-sitter-x.so"⟩ ∈
        discover twoDirectories threeSpellings.searchPaths ∧
      ⟨"x", Path.ofString "b//libtree-sitter-x.so"⟩ ∉
        discover twoDirectories threeSpellings.searchPaths := by
  have hpaths : ∀ dir ∈ threeSpellings.searchPaths, dir.bytes ≠ [] := by
    intro dir hdir
    exact threeSpellings.ne_nil_of_mem_searchPaths hdir
  have hlocate : locate twoDirectories threeSpellings.searchPaths "x" =
      some (Path.ofString "b/libtree-sitter-x.so") := by
    decide
  have hlisted := (mem_discover_iff_locate_eq twoDirectories threeSpellings.searchPaths hpaths).1
  rw [hlisted, hlisted, hlocate]
  decide

end Search
end GrammarAssay
