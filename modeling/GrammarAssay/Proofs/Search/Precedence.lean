import GrammarAssay.FileTree.Change
import GrammarAssay.Proofs.Search.Listing
import GrammarAssay.Proofs.Tool.LocatedPath

/-!
# Earlier search paths count first

**Input.** Two lists of search paths, one in front of the other, and a file tree.

**Algorithm.** What the front list holds is found there, and the back list is not looked at, whatever becomes of
what was found. Only what the front list does not hold is found in the back list, as if there were no other.
The two differ in one thing: a search that finds nothing tells how many search paths there are.

**Results.**
* `perform_search_append_of_locate_eq_none`: an assay in both lists, if the front one lacks the library.
* `find?_flatMap_eq_none_iff`: a grammar is not listed if the search paths do not hold it.
* `mem_discover_append`: what is listed of both lists.
* `earlier_paths_count_first`: all of this at once.
-/

namespace GrammarAssay

/-- What is wrong, if so many more search paths stand in front of those that were searched. -/
def Cause.behind (more : Nat) : Cause → Cause
  | .notInSearchPaths file searched => .notInSearchPaths file (more + searched)
  | c => c

/-- The fault of an assay, if so many more search paths stand in front. -/
def Fault.behind (more : Nat) (f : Fault) : Fault :=
  { f with cause := f.cause.behind more }

theorem Fault.behind_eq_self {f : Fault} (h : ∀ file count, f.cause ≠ .notInSearchPaths file count)
    (more : Nat) : f.behind more = f := by
  obtain ⟨grammar, cause⟩ := f
  cases cause with
  | notInSearchPaths file searched => exact absurd rfl (h file searched)
  | _ => rfl

namespace Assay

variable {t : FileTree} {name g : String} {front back : List Path} {profile : Option Profile}

/-- Behind search paths that lack the library, an assay ends as it does without them, but for the number of search
paths that it tells. -/
theorem perform_search_append_of_locate_eq_none (h : Search.locate t front name = none) (l : Linker) :
    (perform t ⟨g, .search name (front ++ back), profile⟩).run l =
      ((perform t ⟨g, .search name back, profile⟩).run l).map
        (Except.mapError (Fault.behind front.length)) id := by
  have hlocate : Search.locate t (front ++ back) name = Search.locate t back name := by
    rw [Search.locate_append, h, Option.none_or]
  cases hback : Search.locate t back name with
  | none =>
      rw [run_perform_search_of_locate_eq_none (hlocate.trans hback),
        run_perform_search_of_locate_eq_none hback, List.length_append]
      rfl
  | some path =>
      -- Both load the same file, and no fault of loading it tells a number of search paths.
      rw [perform_search_of_locate (hlocate.trans hback), ← perform_search_of_locate hback]
      rcases hrun : (perform t ⟨g, .search name back, profile⟩).run l with ⟨f | handle, m⟩
      · have herror : run t l ⟨g, .search name back, profile⟩ = .error f := by
          rw [run, hrun]
        have hsame := Fault.behind_eq_self (cause_of_locate hback herror).1 front.length
        simp only [Prod.map_apply, Except.mapError, hsame, id]
      · rfl

end Assay

namespace Search

variable {t : FileTree} {front back : List Path}

theorem find?_flatMap_eq_none_iff {paths : List Path} {name : String} :
    (paths.flatMap (inDirectory t)).find? (fun f => f.name == name) = none ↔
      ∀ f ∈ discover t paths, f.name ≠ name := by
  constructor
  · intro hnone f hf hname
    rw [mem_discover_iff, hname, hnone] at hf
    cases hf
  · intro hnone
    cases hfind : (paths.flatMap (inDirectory t)).find? fun f => f.name == name with
    | none => rfl
    | some f =>
        have hname : f.name = name := by
          simpa using List.find?_some hfind
        refine absurd hname (hnone f (mem_discover_iff.mpr ?_))
        rw [hname, hfind]

/-- Listed is what the front search paths list, and of what the back ones list all that has another name. -/
theorem mem_discover_append {f : Found} :
    f ∈ discover t (front ++ back) ↔
      f ∈ discover t front ∨
        f ∈ discover t back ∧ ∀ other ∈ discover t front, other.name ≠ f.name := by
  rw [mem_discover_iff, List.flatMap_append, List.find?_append, Option.or_eq_some_iff,
    ← mem_discover_iff, ← mem_discover_iff, find?_flatMap_eq_none_iff, and_comm]

/-- **Earlier search paths count first.** If some search paths hold the library of a grammar, further ones behind
them change neither where it is located nor how an assay of the search ends, whatever is wrong with the
library. If they do not hold it, it is located in those behind them, and an assay of the search ends as one of
those behind them does, but that a search without success counts all search paths. Listed is all that is listed
of the former, unchanged, and of the latter all that has a name that the former do not list, sorted by name. -/
theorem earlier_paths_count_first (t : FileTree) (front back : List Path) (name g : String)
    (profile : Option Profile) :
    (∀ path, locate t front name = some path →
      locate t (front ++ back) name = some path ∧
        ∀ l, (Assay.perform t ⟨g, .search name (front ++ back), profile⟩).run l =
          (Assay.perform t ⟨g, .search name front, profile⟩).run l) ∧
    (locate t front name = none →
      locate t (front ++ back) name = locate t back name ∧
      (∀ l, (Assay.perform t ⟨g, .search name (front ++ back), profile⟩).run l =
        ((Assay.perform t ⟨g, .search name back, profile⟩).run l).map
          (Except.mapError (Fault.behind front.length)) id) ∧
      (locate t back name = none →
        ∀ l, Assay.run t l ⟨g, .search name (front ++ back), profile⟩ =
          .error ⟨g, .notInSearchPaths (Library.fileName name) (front.length + back.length)⟩)) ∧
    (∀ f, f ∈ discover t (front ++ back) ↔
      f ∈ discover t front ∨
        f ∈ discover t back ∧ ∀ other ∈ discover t front, other.name ≠ f.name) ∧
    (discover t (front ++ back)).Pairwise fun f g =>
      Text.Utf8.encode f.name < Text.Utf8.encode g.name := by
  refine ⟨?_, ?_, fun f => mem_discover_append, pairwise_discover t (front ++ back)⟩
  · intro path hlocate
    refine ⟨by rw [locate_append, hlocate, Option.some_or], ?_⟩
    intro l
    rw [Assay.perform_search_append hlocate]
  · intro hlocate
    have hboth : locate t (front ++ back) name = locate t back name := by
      rw [locate_append, hlocate, Option.none_or]
    refine ⟨hboth, Assay.perform_search_append_of_locate_eq_none hlocate, ?_⟩
    intro hback l
    rw [Assay.run_search_of_locate_eq_none (hboth.trans hback), List.length_append]

/-- Two directories with a library of `x`. The first one does not open. The second one has a library of `y` too. -/
def brokenFirst : FileTree :=
  let library : Content := .library ⟨["tree_sitter_x"], Language.withRoot? 14 "program" [] []⟩
  (((FileTree.fresh [] ⟨[slash]⟩).write (Path.ofString "/a/libtree-sitter-x.so")
    (.filler ⟨[0x78], 1⟩)).write (Path.ofString "/b/libtree-sitter-x.so") library).write
    (Path.ofString "/b/libtree-sitter-y.so") library

/-- The library in the second directory passes. Behind the first directory it does not, and it is not listed. -/
theorem earlier_paths_count_first_brokenFirst :
    Assay.run brokenFirst Linker.start
        ⟨"X", .search "x" [Path.ofString "/a", Path.ofString "/b"], none⟩ =
      .error ⟨"X", .unopenable "/a/libtree-sitter-x.so" "/a/libtree-sitter-x.so: file too short"⟩ ∧
    (∃ h, Assay.run brokenFirst Linker.start ⟨"X", .search "x" [Path.ofString "/b"], none⟩ = .ok h) ∧
    Assay.run brokenFirst Linker.start
        ⟨"Z", .search "z" [Path.ofString "/a", Path.ofString "/b"], none⟩ =
      .error ⟨"Z", .notInSearchPaths "libtree-sitter-z.so" 2⟩ ∧
    (⟨"x", Path.ofString "/b/libtree-sitter-x.so"⟩ ∉
      discover brokenFirst [Path.ofString "/a", Path.ofString "/b"]) ∧
    ⟨"y", Path.ofString "/b/libtree-sitter-y.so"⟩ ∈
      discover brokenFirst [Path.ofString "/a", Path.ofString "/b"] := by
  have hfound : locate brokenFirst [Path.ofString "/a"] "x" =
      some (Path.ofString "/a/libtree-sitter-x.so") := by
    decide
  have hnone : locate brokenFirst [Path.ofString "/a"] "z" = none := by
    decide
  have hbroken : Assay.run brokenFirst Linker.start ⟨"X", .search "x" [Path.ofString "/a"], none⟩ =
      .error ⟨"X", .unopenable "/a/libtree-sitter-x.so" "/a/libtree-sitter-x.so: file too short"⟩ := by
    decide +kernel
  have hpasses : (Assay.run brokenFirst Linker.start
      ⟨"X", .search "x" [Path.ofString "/b"], none⟩).toOption.isSome = true := by
    decide +kernel
  -- The sort does not reduce. What is listed is the first of its name.
  have hx : (⟨"x", Path.ofString "/a/libtree-sitter-x.so"⟩ : Found) ∈
      discover brokenFirst [Path.ofString "/a"] := by
    rw [mem_discover_iff]
    decide +kernel
  have hy : (⟨"y", Path.ofString "/b/libtree-sitter-y.so"⟩ : Found) ∈
      discover brokenFirst [Path.ofString "/b"] := by
    rw [mem_discover_iff]
    decide +kernel
  obtain ⟨hfirst, -, hlisted, -⟩ := earlier_paths_count_first brokenFirst [Path.ofString "/a"]
    [Path.ofString "/b"] "x" "X" none
  obtain ⟨-, hrest, -⟩ := earlier_paths_count_first brokenFirst [Path.ofString "/a"]
    [Path.ofString "/b"] "z" "Z" none
  refine ⟨?_, ?_, ?_, ?_, ?_⟩
  · rw [← hbroken, Assay.run, Assay.run]
    exact congrArg Prod.fst ((hfirst _ hfound).2 Linker.start)
  · cases hrun : Assay.run brokenFirst Linker.start
        ⟨"X", .search "x" [Path.ofString "/b"], none⟩ with
    | ok h => exact ⟨h, rfl⟩
    | error f =>
        rw [hrun] at hpasses
        cases hpasses
  · exact (hrest hnone).2.2 (by decide) Linker.start
  · intro hlate
    rcases (hlisted _).mp hlate with hfront | ⟨-, hnew⟩
    · exact absurd (mem_discover_iff.mp hfront) (by decide +kernel)
    · exact hnew _ hx rfl
  · refine (hlisted _).mpr (.inr ⟨hy, ?_⟩)
    exact find?_flatMap_eq_none_iff.mp (by decide +kernel)

end Search
end GrammarAssay
