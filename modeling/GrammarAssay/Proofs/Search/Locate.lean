import GrammarAssay.Search

/-!
# Locating a library

**Results.**
* `locate_eq_none_iff`, `exists_locate`: whether some search path holds the library.
* `locate_eq_some_iff`: what is located stands below the first search path that holds the library.
* `locate_append`: of two lists of search paths the first counts most.
-/

namespace GrammarAssay
namespace Search

variable {t : FileTree} {name : String} {paths : List Path}

/-- Nothing is located if no search path holds the library. -/
theorem locate_eq_none_iff :
    locate t paths name = none ↔ ∀ dir ∈ paths, t.isFile (candidate dir name) = false := by
  simp [locate, List.find?_eq_none]

/-- If a search path holds the library, it is located. -/
theorem exists_locate {dir : Path} (hdir : dir ∈ paths) (hfile : t.isFile (candidate dir name) = true) :
    ∃ path, locate t paths name = some path := by
  rw [← Option.isSome_iff_exists, Option.isSome_iff_ne_none]
  intro hnone
  rw [locate_eq_none_iff.mp hnone dir hdir] at hfile
  cases hfile

/-- The first search path counts before all others. -/
theorem locate_cons (dir : Path) :
    locate t (dir :: paths) name =
      if t.isFile (candidate dir name) then some (candidate dir name)
      else locate t paths name := by
  rw [locate, List.map_cons, List.find?_cons]
  cases t.isFile (candidate dir name) with
  | true => rfl
  | false => rfl

/-- Of two lists of search paths the first counts most. -/
theorem locate_append (front back : List Path) :
    locate t (front ++ back) name = (locate t front name).or (locate t back name) := by
  simp only [locate, List.map_append, List.find?_append]

/-- What is located stands below the first search path that holds the library. -/
theorem locate_eq_some_iff {path : Path} :
    locate t paths name = some path ↔
      ∃ front dir back, paths = front ++ dir :: back ∧
        (∀ other ∈ front, t.isFile (candidate other name) = false) ∧
        t.isFile (candidate dir name) = true ∧ path = candidate dir name := by
  constructor
  · intro h
    obtain ⟨hfile, before, after, hsplit, hbefore⟩ := List.find?_eq_some_iff_append.mp h
    obtain ⟨front, rest, rfl, rfl, hrest⟩ := List.map_eq_append_iff.mp hsplit
    obtain ⟨dir, back, rfl, rfl, rfl⟩ := List.map_eq_cons_iff.mp hrest
    refine ⟨front, dir, back, rfl, ?_, hfile, rfl⟩
    intro other hother
    simpa using hbefore (candidate other name) (List.mem_map_of_mem hother)
  · rintro ⟨front, dir, back, rfl, hfront, hdir, rfl⟩
    have hnone : (front.map fun d => candidate d name).find? t.isFile = none := by
      simpa [List.find?_eq_none] using hfront
    simp [locate, List.find?_append, hnone, hdir]

end Search
end GrammarAssay
