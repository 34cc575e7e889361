import GrammarAssay.Proofs.Library.FileName
import GrammarAssay.Proofs.Tool.Arguments

/-!
# A search and the path that it finds

**Input.** The name of a grammar and search paths, or the path of the library that is located there.

**Algorithm.** The search goes to the located path, and the path tells the grammar for which it was
located. So both open the same library for the same grammar, and all that comes behind is the same.

**Results.**
* `ofPath?_of_locate`: the path tells the grammar.
* `load_search_of_locate`: the search opens the library at the path.
* `perform_search_of_locate`: an assay of the search ends as one of the path.
* `perform_search_append`: search paths behind the one that counts change nothing.
* `report_of_locate`: so do the reports of the tool.
* `search_agrees_with_located`: all of this at once.
-/

namespace GrammarAssay

section Loading

variable {t : FileTree} {paths : List Path} {name : String} {path : Path}

/-- What is located tells the grammar for which it is located. -/
theorem Loader.ofPath?_of_locate (hne : name ≠ "") (hslash : '/' ∉ name.toList)
    (h : Search.locate t paths name = some path) :
    ofPath? path = some (.library name path) := by
  obtain ⟨_, dir, _, _, _, _, rfl⟩ := Search.locate_eq_some_iff.mp h
  rw [ofPath?, Search.grammarOfPath?_candidate dir hne hslash]
  rfl

/-- A search opens the library that is located. -/
theorem Loader.load_search_of_locate (h : Search.locate t paths name = some path) :
    load t (.search name paths) = load t (.library name path) := by
  simp only [load, h]

end Loading

namespace Assay

variable {t : FileTree} {paths : List Path} {name : String} {path : Path} {g : String}
  {profile : Option Profile}

/-- What an assay does depends on its loader only through what that loads. -/
theorem perform_congr {loader loader' : Loader} (h : loader.load t = loader'.load t) :
    perform t ⟨g, loader, profile⟩ = perform t ⟨g, loader', profile⟩ := by
  unfold perform stages
  rw [h]

/-- An assay of a search does what one of the located path does. -/
theorem perform_search_of_locate (h : Search.locate t paths name = some path)
    (profile : Option Profile) :
    perform t ⟨g, .search name paths, profile⟩ = perform t ⟨g, .library name path, profile⟩ :=
  perform_congr (Loader.load_search_of_locate h)

/-- Search paths behind one that holds the library change nothing. -/
theorem perform_search_append (h : Search.locate t paths name = some path) (more : List Path) :
    perform t ⟨g, .search name (paths ++ more), profile⟩ =
      perform t ⟨g, .search name paths, profile⟩ := by
  have hmore : Search.locate t (paths ++ more) name = some path := by
    rw [Search.locate_append, h, Option.some_or]
  rw [perform_search_of_locate h, perform_search_of_locate hmore]

/-- Once the library is located, no assay of it fails for want of a file. -/
theorem cause_of_locate (h : Search.locate t paths name = some path) {l : Linker} {f : Fault}
    (hrun : run t l ⟨g, .search name paths, profile⟩ = .error f) :
    (∀ file count, f.cause ≠ .notInSearchPaths file count) ∧
      ∀ words, f.cause ≠ .noLibrary words := by
  have hfixed : run t l ⟨g, .library name path, profile⟩ = .error f := by
    rw [← hrun, run, run, perform_search_of_locate h profile]
  constructor
  · -- The assay of the path never searches.
    intro file count hcause
    have hviolates := (violates_of_run_eq_error hfixed).2
    rw [hcause] at hviolates
    obtain ⟨_, _, hloader⟩ := loader_of_violates_notInSearchPaths hviolates
    cases hloader
  · -- The assay of the search never looks at a fixed path.
    intro words hcause
    have hviolates := (violates_of_run_eq_error hrun).2
    rw [hcause] at hviolates
    obtain ⟨_, _, hloader⟩ := loader_of_violates_noLibrary hviolates
    cases hloader

/-- An assay whose loader fails changes nothing. -/
theorem run_perform_of_load_eq_throw {a : Assay} {c : Cause} (h : a.loader.load t = throw c)
    (l : Linker) : (a.perform t).run l = (.error ⟨a.name, c⟩, l) := by
  unfold perform stages
  rw [h]
  rfl

/-- An assay of a search that finds nothing says what was looked for, and in how many search paths. -/
theorem run_perform_search_of_locate_eq_none (h : Search.locate t paths name = none) (l : Linker) :
    (perform t ⟨g, .search name paths, profile⟩).run l =
      (.error ⟨g, .notInSearchPaths (Library.fileName name) paths.length⟩, l) := by
  refine run_perform_of_load_eq_throw ?_ l
  simp only [Loader.load, h]

theorem run_search_of_locate_eq_none (h : Search.locate t paths name = none) (l : Linker) :
    run t l ⟨g, .search name paths, profile⟩ =
      .error ⟨g, .notInSearchPaths (Library.fileName name) paths.length⟩ := by
  rw [run, run_perform_search_of_locate_eq_none h]

end Assay

namespace Verify

/-- The path of the located Scribl library asks for the assay of the Scribl grammar there. -/
theorem ofLibrary_of_locate {t : FileTree} {paths : List Path} {text : String}
    (h : Search.locate t paths Scribl.grammarName = some (Path.ofString text)) :
    ofLibrary text = .ok ⟨Scribl.displayName, .library Scribl.grammarName (Path.ofString text),
      some Scribl.profile⟩ := by
  obtain ⟨_, dir, _, _, _, _, hpath⟩ := Search.locate_eq_some_iff.mp h
  have hname : Loader.grammarOfPath? (Path.ofString text) = some Scribl.grammarName := by
    rw [hpath]
    exact Search.grammarOfPath?_candidate dir (by decide) (by decide)
  simp only [ofLibrary, hname, if_true]

/-- The reports without arguments and on the path of the located Scribl library differ in their sources
only. -/
theorem report_of_locate {t : FileTree} {paths : List Path} {text : String} {without withPath : Json}
    (h : Search.locate t paths Scribl.grammarName = some (Path.ofString text))
    (hgrammar : Absent without "grammar") (hlibrary : Absent without "library_path")
    (hgrammar' : Absent withPath "grammar")
    (hlibrary' : withPath.member? "library_path" = some (.str text)) (l : Linker) :
    ∃ r m, (report t paths without).run l = (.ok r, m) ∧
      (report t paths withPath).run l =
        (.ok { r with
          source := (Origin.library Scribl.grammarName (Path.ofString text)).display }, m) := by
  have hperform := Assay.perform_search_of_locate (g := Scribl.displayName) h
    (some Scribl.profile)
  have hname : (Assay.scribl paths).name = Scribl.displayName := rfl
  have hreport := Assay.report_of_perform_eq hname hperform l
  refine ⟨_, _, by rw [run_report, assay_of_absent hgrammar hlibrary], ?_⟩
  rw [run_report, assay_of_libraryPath hgrammar' hlibrary', ofLibrary_of_locate h]
  simp only [hreport]
  rfl

end Verify

/-- **A search and the path that it finds agree.** If the library of a grammar is located, its path tells
the grammar, an assay of the search does from any libraries in memory exactly what one of the path does,
and it does not fail for want of a file. If it is not located, an assay of the search says so. The tool
that verifies a grammar reports the same without arguments and on the path of the located Scribl library,
but for the source. -/
theorem search_agrees_with_located (t : FileTree) (paths : List Path) (name : String)
    (hne : name ≠ "") (hslash : '/' ∉ name.toList) (g : String) (profile : Option Profile) :
    (∀ path, Search.locate t paths name = some path →
      Loader.ofPath? path = some (.library name path) ∧
      (∀ l, (Assay.perform t ⟨g, .search name paths, profile⟩).run l =
        (Assay.perform t ⟨g, .library name path, profile⟩).run l) ∧
      ∀ l f, Assay.run t l ⟨g, .search name paths, profile⟩ = .error f →
        (∀ file count, f.cause ≠ .notInSearchPaths file count) ∧
          ∀ words, f.cause ≠ .noLibrary words) ∧
    (Search.locate t paths name = none →
      ∀ l, Assay.run t l ⟨g, .search name paths, profile⟩ =
        .error ⟨g, .notInSearchPaths (Library.fileName name) paths.length⟩) ∧
    (∀ text, Search.locate t paths Scribl.grammarName = some (Path.ofString text) →
      ∀ without withPath : Json,
        Verify.Absent without "grammar" → Verify.Absent without "library_path" →
        Verify.Absent withPath "grammar" → withPath.member? "library_path" = some (.str text) →
        ∀ l, ∃ r m source, (Verify.report t paths without).run l = (.ok r, m) ∧
          (Verify.report t paths withPath).run l = (.ok { r with source := source }, m)) := by
  refine ⟨?_, ?_, ?_⟩
  · intro path hlocate
    refine ⟨Loader.ofPath?_of_locate hne hslash hlocate, ?_, ?_⟩
    · intro l
      rw [Assay.perform_search_of_locate hlocate profile]
    · intro l f hrun
      exact Assay.cause_of_locate hlocate hrun
  · intro hlocate l
    exact Assay.run_search_of_locate_eq_none hlocate l
  · intro text hlocate without withPath hgrammar hlibrary hgrammar' hlibrary' l
    obtain ⟨r, m, hreport, hreport'⟩ :=
      Verify.report_of_locate hlocate hgrammar hlibrary hgrammar' hlibrary' l
    exact ⟨r, m, _, hreport, hreport'⟩

/-- A directory with the library of the Scribl grammar, whose entry point returns nothing. -/
def scriblDirectory : FileTree where
  workingDirectory := []
  programDirectory := ⟨[slash]⟩
  nodes :=
    [([⟨[0x64], by decide⟩], .directory),
     ([⟨[0x64], by decide⟩, Library.nameOf Scribl.grammarName (by decide)],
       .file 0 (.library ⟨["tree_sitter_scribl"], none⟩))]
  written := 1

theorem search_agrees_with_located_scriblDirectory :
    (Assay.perform scriblDirectory
        ⟨"Scribl", .search "scribl" [⟨[]⟩, Path.ofString "../d/"], none⟩).run Linker.start =
      (Assay.perform scriblDirectory
        ⟨"Scribl", .library "scribl" (Path.ofString "../d/libtree-sitter-scribl.so"), none⟩).run
          Linker.start ∧
    Assay.run scriblDirectory Linker.start
        ⟨"X", .search "x" [⟨[]⟩, Path.ofString "../d/"], none⟩ =
      .error ⟨"X", .notInSearchPaths "libtree-sitter-x.so" 2⟩ ∧
    ∃ r m source,
      (Verify.report scriblDirectory [⟨[]⟩, Path.ofString "../d/"] .null).run Linker.start =
          (.ok r, m) ∧
        (Verify.report scriblDirectory [⟨[]⟩, Path.ofString "../d/"]
          (.obj [("library_path", .str "../d/libtree-sitter-scribl.so")])).run Linker.start =
            (.ok { r with source := source }, m) := by
  have hlocate : Search.locate scriblDirectory [⟨[]⟩, Path.ofString "../d/"] "scribl" =
      some (Path.ofString "../d/libtree-sitter-scribl.so") := by
    decide
  have hnone : Search.locate scriblDirectory [⟨[]⟩, Path.ofString "../d/"] "x" = none := by
    decide
  obtain ⟨hfound, _, hreport⟩ := search_agrees_with_located scriblDirectory
    [⟨[]⟩, Path.ofString "../d/"] "scribl" (by decide) (by decide) "Scribl" none
  obtain ⟨_, hmissing, _⟩ := search_agrees_with_located scriblDirectory
    [⟨[]⟩, Path.ofString "../d/"] "x" (by decide) (by decide) "X" none
  refine ⟨(hfound _ hlocate).2.1 Linker.start, hmissing hnone Linker.start, ?_⟩
  exact hreport _ hlocate _ _ (Or.inl rfl) (Or.inl rfl) (Or.inl rfl) rfl Linker.start

end GrammarAssay
