import GrammarAssay.FileTree.Change
import GrammarAssay.Proofs.Assay.Report
import GrammarAssay.Proofs.Language.Generated
import GrammarAssay.Proofs.Tool.LocatedPath

/-!
# What it takes to pass the assay of the Scribl grammar

**Input.** A file tree, search paths, and the libraries in memory when the assay begins.

**Algorithm.** The first search path that holds the library alone counts. The path of that file has to open, to
export the entry point, and to return a language. The language has to declare every node kind and field of the
profile, and to parse the sample to its root. `Counts` and `Meets` state this without the assay and without
the lookups. A lookup finds what is declared, and for the names of the profile nothing else: none of them
is a beginning of the error kind. The text for a missing tree is not the root of the sample.

**Results.**
* `counts_iff_delivers`, `counts_unique`: the language that counts is the one that the loader gets at, and at
  most one does.
* `meets_of_run_eq_ok`, `run_eq_ok_of_meets`: an assay that passes, and a language for which it does.
* `wellFormed_complete`: tables in memory that are as they are generated.
* `passes_iff_meets`: the assay passes exactly if a language counts and is what it has to be.
-/

namespace GrammarAssay
namespace Scribl

/-- The language that counts, with the libraries in memory when it does: the first search path that holds a
regular file of the library's name, and the library that comes to memory when the path of that file is loaded, which
exports the entry point and returns the language. If the path has a slash and no dollar sign, it is the file that is
loaded. With a dollar sign placeholders are put in first, and behind an empty search path stands a bare name, which
is looked for in the directories of the system; then another file can be loaded. -/
inductive Counts (t : FileTree) (l : Linker) : List Path → LanguageSource → Linker → Prop
  | intro {front back : List Path} {dir : Path} {number : Nat} {l₁ l₂ m : Linker} {home : Module}
      {binding : Binding} {s : LanguageSource} :
      (∀ other ∈ front,
        t.isFile (other.join (Path.ofString "libtree-sitter-scribl.so")) = false) →
      t.isFile (dir.join (Path.ofString "libtree-sitter-scribl.so")) = true →
      l.load t (dir.join (Path.ofString "libtree-sitter-scribl.so")) = (.ok number, l₁) →
      Library.lookEntry l₁ number "tree_sitter_scribl" = (some (home, binding), l₂) →
      (EntryPoint.language ⟨number, home, binding⟩).run l₂ = (some s, m) →
      Counts t l (front ++ dir :: back) s m

/-- What the language has to be. -/
structure Meets (s : LanguageSource) (m : Linker) : Prop where
  version : (s.facts m.memory).version = 13 ∨ (s.facts m.memory).version = 14
  kinds : ∀ kind ∈ profile.kinds, s.DeclaresKind m.memory kind
  fields : ∀ field ∈ profile.fields, s.DeclaresField m.memory field
  root : ((Parser.parse ⟨some s⟩ "x = 1;\n").run m).1 = some "block"

section Names

theorem isComparable_of_mem {name : String} (h : name ∈ profile.kinds ++ profile.fields) :
    LanguageSource.IsComparable name := by
  have hall : ∀ name ∈ profile.kinds ++ profile.fields, LanguageSource.IsComparable name := by
    decide
  exact hall name h

theorem matchesError_of_mem {kind : String} (h : kind ∈ profile.kinds) :
    Language.matchesError kind.toList = false := by
  have hall : ∀ kind ∈ profile.kinds, Language.matchesError kind.toList = false := by
    decide
  exact hall kind h

theorem version_eq_iff (version : UInt64) :
    13 ≤ version ∧ version ≤ 14 ↔ version = 13 ∨ version = 14 := by
  simp only [UInt64.le_iff_toNat_le, ← UInt64.toNat_inj, UInt64.reduceToNat]
  omega

end Names

section Loading

variable {t : FileTree} {l m : Linker} {paths : List Path} {s : LanguageSource}

/-- The language that counts is the one that the loader gets at. -/
theorem counts_iff_delivers :
    Counts t l paths s m ↔
      ∃ library, (Loader.search grammarName paths).Delivers t l ⟨some s, library⟩ m := by
  constructor
  · rintro ⟨hfront, hdir, hload, hlook, hentry⟩
    exact ⟨_, .library (.first grammarName _ _ _ hfront hdir) hload hlook hentry⟩
  · rintro ⟨library, hdel⟩
    cases hdel with
    | library hfinds hload hlook hentry =>
        cases hfinds with
        | first _ front dir back hfront hdir =>
            exact .intro hfront hdir hload hlook hentry

/-- At most one language counts. -/
theorem counts_unique {s' : LanguageSource} {m' : Linker} (h : Counts t l paths s m)
    (h' : Counts t l paths s' m') : s = s' ∧ m = m' := by
  obtain ⟨library, hdel⟩ := counts_iff_delivers.mp h
  obtain ⟨library', hdel'⟩ := counts_iff_delivers.mp h'
  obtain ⟨hartifact, hmemory⟩ := Loader.delivers_unique hdel hdel'
  cases hartifact
  exact ⟨rfl, hmemory⟩

theorem counts_append (h : Counts t l paths s m) (more : List Path) :
    Counts t l (paths ++ more) s m := by
  obtain ⟨hfront, hdir, hload, hlook, hentry⟩ := h
  rw [List.append_assoc, List.cons_append]
  exact .intro hfront hdir hload hlook hentry

end Loading

section Passing

variable {t : FileTree} {l m : Linker} {paths : List Path} {s : LanguageSource}

/-- If the assay passes, a language counts and is what it has to be. -/
theorem meets_of_run_eq_ok {h : Handle} (hrun : (Assay.scribl paths).run t l = .ok h) :
    ∃ s m, Counts t l paths s m ∧ Meets s m := by
  obtain ⟨-, m, hpass⟩ := Assay.passes_of_run_eq_ok hrun
  obtain ⟨hkinds, hfields, hroot⟩ := Profile.check_eq_ok_iff.mp (hpass.profile profile rfl)
  refine ⟨h.source, m, counts_iff_delivers.mpr ⟨h.library, hpass.delivers⟩, ?_⟩
  constructor
  case version => exact (version_eq_iff _).mp hpass.version
  case kinds =>
    intro kind hkind
    exact LanguageSource.declaresKind_of_hasKind
      (isComparable_of_mem (List.mem_append_left _ hkind)).comparesWhole (matchesError_of_mem hkind)
      (hkinds kind hkind)
  case fields =>
    intro field hfield
    exact LanguageSource.declaresField_of_hasField
      (isComparable_of_mem (List.mem_append_right _ hfield)) (hfields field hfield)
  case root => exact (Profile.getD_noTree_eq_iff_of_ne (by decide)).mp (hroot _ rfl)

/-- If a language counts and is what it has to be, the assay passes. -/
theorem run_eq_ok_of_meets (hcounts : Counts t l paths s m) (hwell : s.WellFormed m.memory)
    (hmeets : Meets s m) : ∃ h, (Assay.scribl paths).run t l = .ok h := by
  obtain ⟨library, hdel⟩ := counts_iff_delivers.mp hcounts
  have hblock : s.DeclaresKind m.memory "block" := hmeets.kinds "block" (by decide)
  refine ⟨_, Assay.run_of_passes (?_ : Assay.Passes t l (Assay.scribl paths) s library m)⟩
  constructor
  case delivers => exact hdel
  case version => exact (version_eq_iff _).mpr hmeets.version
  case nonempty => exact LanguageSource.nodeKindCount_ne_zero hwell hblock
  case profile =>
    rintro p ⟨rfl⟩
    refine Profile.check_eq_ok_iff.mpr ⟨?_, ?_, ?_⟩
    · intro kind hkind
      exact LanguageSource.hasKind_of_declaresKind
        (isComparable_of_mem (List.mem_append_left _ hkind)) hwell (hmeets.kinds kind hkind)
    · intro field hfield
      exact LanguageSource.hasField_of_declaresField
        (isComparable_of_mem (List.mem_append_right _ hfield)) hwell (hmeets.fields field hfield)
    · rintro sample ⟨rfl⟩
      exact (Profile.getD_noTree_eq_iff_of_ne (by decide)).mpr hmeets.root

/-- The tool without arguments tells of a pass exactly if the assay gives a handle. -/
theorem map_ok_report_iff {arguments : Json} (hgrammar : Verify.Absent arguments "grammar")
    (hlibrary : Verify.Absent arguments "library_path") :
    ((Verify.report t paths arguments).run l).1.map Report.ok = .ok true ↔
      ∃ h, (Assay.scribl paths).run t l = .ok h := by
  rw [← Assay.ok_report_iff, Verify.run_report, Verify.assay_of_absent hgrammar hlibrary]
  simp only [Except.map, Except.ok.injEq]

end Passing

section Storing

/-- A language that declares what it has to. Its fields are in byte order. -/
def complete : Language :=
  (Language.withRoot? 14 "block" (profile.kinds.map Symbol.node)
    ["argument", "left", "operator", "right"]).get rfl

theorem isStorable_complete : complete.IsStorable :=
  ⟨by decide, by decide, by decide, by decide, by decide, by decide⟩

/-- In memory, at any address, its tables are as they are generated, and declare what they have to. -/
theorem wellFormed_complete (address : UInt64) :
    (LanguageSource.stored address).WellFormed (complete.memory address) ∧
    ((LanguageSource.stored address).facts (complete.memory address)).version = 14 ∧
    (∀ kind ∈ profile.kinds,
      (LanguageSource.stored address).DeclaresKind (complete.memory address) kind) ∧
    ∀ field ∈ profile.fields,
      (LanguageSource.stored address).DeclaresField (complete.memory address) field := by
  have hstands := Language.standsAt_memory isStorable_complete address
  have hkinds : ∀ kind ∈ profile.kinds,
      ∃ symbol ∈ complete.symbols, symbol.name = kind ∧ symbol.isFindable = true := by
    decide
  have hfields : ∀ field ∈ profile.fields, field ∈ complete.fields := by
    decide
  refine ⟨Language.wellFormed_of_standsAt hstands isStorable_complete,
    Language.version_stored hstands isStorable_complete, ?_, ?_⟩
  · intro kind hkind
    rw [Language.declaresKind_stored_iff hstands isStorable_complete,
      LanguageSource.declaresKind_written_iff]
    exact hkinds kind hkind
  · intro field hfield
    rw [Language.declaresField_stored_iff hstands isStorable_complete]
    exact .written (hfields field hfield)

end Storing

/-- **What it takes to pass the assay of the Scribl grammar.** If the assay passes, a language counts and is
what it has to be, whatever its tables are. The converse holds for tables as they are generated. What
counts and is not what it has to be never passes, and search paths behind the one that counts do not change
that. The report and the tool without arguments tell of a pass exactly then. -/
theorem passes_iff_meets (t : FileTree) (paths : List Path) (l : Linker) :
    (∀ h, (Assay.scribl paths).run t l = .ok h → ∃ s m, Counts t l paths s m ∧ Meets s m) ∧
    ((∀ s m, Counts t l paths s m → s.WellFormed m.memory) →
      ((∃ h, (Assay.scribl paths).run t l = .ok h) ↔ ∃ s m, Counts t l paths s m ∧ Meets s m)) ∧
    (∀ s m, Counts t l paths s m → ¬ Meets s m →
      ∀ more h, (Assay.scribl (paths ++ more)).run t l ≠ .ok h) ∧
    (∀ dir ∈ paths, t.isFile (dir.join (Path.ofString "libtree-sitter-scribl.so")) = true →
      ∀ more, (Assay.scribl (paths ++ more)).run t l = (Assay.scribl paths).run t l) ∧
    ((((Assay.scribl paths).report t).run l).1.ok = true ↔
      ∃ h, (Assay.scribl paths).run t l = .ok h) ∧
    ∀ arguments, Verify.Absent arguments "grammar" → Verify.Absent arguments "library_path" →
      (((Verify.report t paths arguments).run l).1.map Report.ok = .ok true ↔
        ∃ h, (Assay.scribl paths).run t l = .ok h) := by
  refine ⟨fun h => meets_of_run_eq_ok, ?_, ?_, ?_, Assay.ok_report_iff t _ l,
    fun arguments => map_ok_report_iff⟩
  · intro hwell
    constructor
    · rintro ⟨h, hrun⟩
      exact meets_of_run_eq_ok hrun
    · rintro ⟨s, m, hcounts, hmeets⟩
      exact run_eq_ok_of_meets hcounts (hwell s m hcounts) hmeets
  · intro s m hcounts hmeets more h hrun
    obtain ⟨s', m', hcounts', hmeets'⟩ := meets_of_run_eq_ok hrun
    obtain ⟨rfl, rfl⟩ := counts_unique (counts_append hcounts more) hcounts'
    exact hmeets hmeets'
  · intro dir hdir hfile more
    have hholds : t.isFile (Search.candidate dir grammarName) = true := hfile
    obtain ⟨path, hlocate⟩ := Search.exists_locate hdir hholds
    rw [Assay.run, Assay.run, Assay.scribl, Assay.scribl, Assay.perform_search_append hlocate]

/-- A library of the Scribl grammar whose language declares some node kinds. -/
def libraryOf (kinds : List Symbol) : Library :=
  ⟨["tree_sitter_scribl"], Language.withRoot? 14 "block" kinds profile.fields⟩

/-- Two directories with the library. In the first the symbol of the comments is anonymous. -/
def twoLibraries : FileTree :=
  ((FileTree.fresh [] ⟨[slash]⟩).write (Path.ofString "/a/libtree-sitter-scribl.so")
    (.library (libraryOf
      ((profile.kinds.dropLast.map Symbol.node) ++ [⟨"comment", true, false, false⟩])))).write
    (Path.ofString "/b/libtree-sitter-scribl.so")
    (.library (libraryOf (profile.kinds.map Symbol.node)))

/-- The second library passes if it comes first, and does not help behind the other. -/
theorem passes_iff_meets_twoLibraries :
    (∃ s m, Counts twoLibraries Linker.start [Path.ofString "/b", Path.ofString "/a"] s m ∧
      Meets s m) ∧
    ¬ ∃ s m, Counts twoLibraries Linker.start [Path.ofString "/a", Path.ofString "/b"] s m ∧
      s.WellFormed m.memory ∧ Meets s m := by
  constructor
  · have hrun : ((Assay.scribl [Path.ofString "/b", Path.ofString "/a"]).run twoLibraries
        Linker.start).toOption.isSome = true := by
      decide +kernel
    obtain ⟨hsound, -⟩ := passes_iff_meets twoLibraries [Path.ofString "/b", Path.ofString "/a"]
      Linker.start
    cases houtcome : (Assay.scribl [Path.ofString "/b", Path.ofString "/a"]).run twoLibraries
        Linker.start with
    | error fault =>
        rw [houtcome] at hrun
        cases hrun
    | ok h => exact hsound h houtcome
  · rintro ⟨s, m, hcounts, hwell, hmeets⟩
    have hrun : ((Assay.scribl [Path.ofString "/a", Path.ofString "/b"]).run twoLibraries
        Linker.start).toOption.isSome = false := by
      decide +kernel
    obtain ⟨-, hiff, -⟩ := passes_iff_meets twoLibraries [Path.ofString "/a", Path.ofString "/b"]
      Linker.start
    have hall : ∀ s' m', Counts twoLibraries Linker.start [Path.ofString "/a", Path.ofString "/b"] s' m' →
        s'.WellFormed m'.memory := by
      intro s' m' hcounts'
      obtain ⟨rfl, rfl⟩ := counts_unique hcounts hcounts'
      exact hwell
    obtain ⟨h, hok⟩ := (hiff hall).mpr ⟨s, m, hcounts, hmeets⟩
    rw [hok] at hrun
    cases hrun

end Scribl
end GrammarAssay
