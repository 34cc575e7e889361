import GrammarAssay.Proofs.Assay.Report
import GrammarAssay.Proofs.Linker.Idle

/-!
# Assays that are repeated

**Input.** An assay in a program that has made others before.

**Algorithm.** An assay that opens no library gives the same report whatever is in memory, and leaves memory as it
is. One that opens a described library is judged by the description alone. So it gives the same report in all
programs that hold no library, if the path of the file is spelled out, and the program holds none again when the
library is given back. A bare name is looked for in the directories of the system. Which of them are missing is
remembered, so that a second search can tell another reason why the file is not there.

**Results.**
* `OpensDescribed`, `SpellsOut`: what a loader opens, and how it names it.
* `exists_report_of_not_finds`: the report of an assay that opens no library.
* `light_report`: what an assay leaves in memory.
* `exists_report_of_idle`: the report of an assay that opens a described library.
-/

namespace GrammarAssay

/-- Does a loader open described libraries only? It need not open any. -/
def Loader.OpensDescribed (t : FileTree) (loader : Loader) : Prop :=
  ∀ name path, loader.Finds t name path → ∀ l content,
    Linker.destination t l path = .ok content → ∃ lib, content = .library lib

/-- Does a loader name the file that it opens by a path with a slash? -/
def Loader.SpellsOut (t : FileTree) (loader : Loader) : Prop :=
  ∀ name path, loader.Finds t name path → path.bytes.contains slash = true

/-- A described library at a path that is handed over as it is spelled. -/
theorem Loader.opensDescribed_library {t : FileTree} {path : Path} {number : Nat} {lib : Library}
    (hpath : path.Plain) (hresolve : t.resolve path = .ok (.file number (.library lib)))
    (name : String) : (Loader.library name path).OpensDescribed t := by
  intro name' path' hfinds l content hcontent
  cases hfinds
  rw [Linker.destination, if_neg hpath.unknown, Linker.find_described hpath hresolve] at hcontent
  exact ⟨lib, (Except.ok.inj hcontent).symm⟩

/-- A search that comes upon no library opens none. -/
theorem Loader.not_finds_search_of_locate {t : FileTree} {paths : List Path} {sought : String}
    (h : Search.locate t paths sought = none) (name : String) (path : Path) :
    ¬ (Loader.search sought paths).Finds t name path := by
  intro hfinds
  cases hfinds with
  | first _ front dir back hfront hdir =>
      have hfile := Search.locate_eq_none_iff.mp h dir (by simp)
      rw [hdir] at hfile
      cases hfile

/-- How a loader ends that does not come to tables in memory: with what is wrong, or with what the entry point
returns as it is written down. -/
def Loader.Ends (t : FileTree) (l : Linker) (loader : Loader)
    (result : Except Cause (Option Language)) (m : Linker) : Prop :=
  ∃ n, (loader.load t).outcome l = (result.map fun entry => ⟨entry.map .written, n⟩, m)

/-- A loader that opens no library ends in the same way whatever is in memory. -/
theorem Loader.exists_ends_of_not_finds {t : FileTree} {loader : Loader}
    (h : ∀ name path, ¬ loader.Finds t name path) : ∃ result, ∀ l, loader.Ends t l result l := by
  cases loader with
  | builtIn g => exact ⟨.ok (some g.language), fun l => ⟨none, rfl⟩⟩
  | entryPoint id entry => exact ⟨.ok entry, fun l => ⟨none, rfl⟩⟩
  | library name path =>
      have hfile : t.isFile path = false := by
        cases hfile : t.isFile path with
        | false => rfl
        | true => exact absurd (Finds.fixed name path hfile) (h name path)
      refine ⟨.error (.noLibrary path.display), fun l => ⟨none, ?_⟩⟩
      simp [load, outcome_loadAt, Library.outcome_openAt, hfile, Except.map]
  | search name paths =>
      have hlocate : Search.locate t paths name = none := by
        cases hlocate : Search.locate t paths name with
        | none => rfl
        | some path =>
            obtain ⟨front, dir, back, rfl, hfront, hdir, rfl⟩ :=
              Search.locate_eq_some_iff.mp hlocate
            exact absurd (Finds.first name front dir back hfront hdir) (h _ _)
      refine ⟨.error (.notInSearchPaths (Library.fileName name) paths.length), fun l => ⟨none, ?_⟩⟩
      simp [load, hlocate, Except.map]

/-- A loader that opens a described library ends as that tells to which the path leads, in all programs that hold
no library. -/
theorem Loader.exists_ends_of_destination {t : FileTree} {loader : Loader} {name : String}
    {path : Path} (hfinds : loader.Finds t name path) (hdescribed : loader.OpensDescribed t)
    (destination : Except String Content) :
    ∃ result, ∀ l : Linker, l.Idle → Linker.destination t l path = destination →
      ∃ m, loader.Ends t l result m ∧ m.Light := by
  obtain ⟨hload, hfile⟩ := load_of_finds hfinds
  rcases destination with words | (bytes | lib)
  · refine ⟨.error (.unopenable path.display words), fun l hl hpath => ?_⟩
    obtain ⟨m, hrefused, hm⟩ := Linker.load_of_destination_eq_error hl hpath
    refine ⟨m, ⟨none, ?_⟩, hm.light⟩
    rw [hload, outcome_loadAt, Library.outcome_openAt, if_pos hfile, hrefused]
    rfl
  · refine ⟨.ok none, fun l _ hpath => ?_⟩
    obtain ⟨lib, hlib⟩ := hdescribed name path hfinds l _ hpath
    cases hlib
  · by_cases hexports : lib.Exports (Library.entrySymbol name)
    · refine ⟨.ok lib.entry, fun l hl hpath => ?_⟩
      obtain ⟨n, m, home, hopened, hm, hmodule, hbody, hscope⟩ :=
        Linker.load_of_destination_eq_library hl hpath
      refine ⟨m, ⟨some n, ?_⟩, hm⟩
      rw [hload, (outcome_loadAt_described hfile hopened hmodule hbody hscope).1 hexports]
      rfl
    · refine ⟨.error (.noEntryPoint (Library.entrySymbol name)), fun l hl hpath => ?_⟩
      obtain ⟨n, m, home, hopened, hm, hmodule, hbody, hscope⟩ :=
        Linker.load_of_destination_eq_library hl hpath
      refine ⟨m, ⟨none, ?_⟩, hm⟩
      rw [hload, (outcome_loadAt_described hfile hopened hmodule hbody hscope).2 hexports]
      rfl

namespace Assay

variable {t : FileTree} {a : Assay} {l m : Linker}

/-- The check of tables that are written down does not depend on what is in memory, and changes nothing there. -/
theorem exists_outcome_checkProfile (profile : Option Profile) (language : Language) :
    ∃ result, ∀ m, (checkProfile profile (.written language) ⟨some (.written language)⟩).outcome m =
      (result, m) := by
  cases profile with
  | none => exact ⟨.ok (), fun m => rfl⟩
  | some p =>
      refine ⟨((p.check (.written language) ⟨some (.written language)⟩).run Linker.start).1, ?_⟩
      intro m
      have hkind : p.missingKind? m.memory (.written language) =
          p.missingKind? Linker.start.memory (.written language) := rfl
      have hfield : p.missingField? m.memory (.written language) =
          p.missingField? Linker.start.memory (.written language) := rfl
      show (p.check (.written language) ⟨some (.written language)⟩).run m = _
      rw [Profile.run_check, Profile.run_check, hkind, hfield]
      generalize p.missingKind? Linker.start.memory (.written language) = kind
      generalize p.missingField? Linker.start.memory (.written language) = field
      rcases kind with _ | kind
      · rcases field with _ | field
        · simp only [Profile.run_checkSample]
          cases p.sample with
          | none => rfl
          | some sample => rfl
        · rfl
      · rfl

/-- So do the stages behind the entry point. -/
theorem exists_outcome_judge (profile : Option Profile) (entry : Option Language) :
    ∃ result : Except Cause Language, ∀ m,
      (judge profile (entry.map .written)).outcome m = (result.map .written, m) := by
  cases entry with
  | none => exact ⟨.error .nullLanguage, fun m => rfl⟩
  | some language =>
      obtain ⟨checked, hchecked⟩ := exists_outcome_checkProfile profile language
      refine ⟨if language.toFacts.isSupported = true then
        if language.toFacts.nodeKindCount = 0 then .error .noNodeKinds
        else checked.map fun _ => language
        else .error (.unsupportedVersion language.toFacts.version 13 14), ?_⟩
      intro m
      rw [Option.map_some, outcome_judge, hchecked]
      have hfacts : (LanguageSource.written language).facts m.memory = language.toFacts := rfl
      rw [hfacts]
      split
      · split
        · rfl
        · cases checked <;> rfl
      · rfl

/-- The report on what a loader ends with, if that is no table in memory, does not depend on what is in memory. -/
theorem exists_report_of_ends (t : FileTree) (a : Assay) (result : Except Cause (Option Language)) :
    ∃ r, ∀ l m, a.loader.Ends t l result m → (a.report t).run l = (r, m) := by
  have hperform : ∀ l, (a.perform t).run l =
      (((a.stages t).outcome l).1.mapError fun cause => ⟨a.name, cause⟩,
        ((a.stages t).outcome l).2) := fun l => rfl
  rcases result with c | entry
  · refine ⟨.failed a.name a.loader.origin ⟨a.name, c⟩, ?_⟩
    rintro l m ⟨n, hload⟩
    rw [run_report, hperform, stages, Opening.outcome_bind, hload]
    rfl
  · obtain ⟨judged, hjudged⟩ := exists_outcome_judge a.profile entry
    have hstages : ∀ l m n, (a.loader.load t).outcome l = (.ok ⟨entry.map .written, n⟩, m) →
        (a.stages t).outcome l = (judged.map fun language => ⟨a.name, .written language, n⟩, m) := by
      intro l m n hload
      rw [stages, Opening.outcome_bind, hload]
      simp only [Opening.outcome_bind, hjudged]
      cases judged <;> rfl
    rcases judged with c | language
    · refine ⟨.failed a.name a.loader.origin ⟨a.name, c⟩, ?_⟩
      rintro l m ⟨n, hload⟩
      rw [run_report, hperform, hstages l m n hload]
      rfl
    · -- The report does not tell which library is held, nor what is in memory.
      refine ⟨.passed ⟨a.name, .written language, none⟩ Linker.start.memory a.loader.origin, ?_⟩
      rintro l m ⟨n, hload⟩
      rw [run_report, hperform, hstages l m n hload]
      rfl

/-- An assay that opens no library gives the same report whatever is in memory, and leaves it as it is. -/
theorem exists_report_of_not_finds (h : ∀ name path, ¬ a.loader.Finds t name path) :
    ∃ r, ∀ l, (a.report t).run l = (r, l) := by
  obtain ⟨result, hends⟩ := a.loader.exists_ends_of_not_finds h
  obtain ⟨r, hr⟩ := exists_report_of_ends t a result
  exact ⟨r, fun l => hr l l (hends l)⟩

/-- In a program that holds no library, an assay leaves nothing but described libraries, if it opens no
others. -/
theorem light_report (hl : l.Idle) (hdescribed : a.loader.OpensDescribed t) :
    ((a.report t).run l).2.Light := by
  by_cases hfinds : ∃ name path, a.loader.Finds t name path
  · obtain ⟨name, path, hfinds⟩ := hfinds
    obtain ⟨result, hends⟩ :=
      Loader.exists_ends_of_destination hfinds hdescribed (Linker.destination t l path)
    obtain ⟨r, hr⟩ := exists_report_of_ends t a result
    obtain ⟨m, hm, hlight⟩ := hends l hl rfl
    rw [hr l m hm]
    exact hlight
  · simp only [not_exists] at hfinds
    obtain ⟨r, hr⟩ := exists_report_of_not_finds hfinds
    rw [hr]
    exact hl.light

/-- In all programs that hold no library, an assay gives the same report that opens a described one and spells
out its path. -/
theorem exists_report_of_idle (hdescribed : a.loader.OpensDescribed t)
    (hspelled : a.loader.SpellsOut t) : ∃ r, ∀ l : Linker, l.Idle → ((a.report t).run l).1 = r := by
  by_cases hfinds : ∃ name path, a.loader.Finds t name path
  · obtain ⟨name, path, hfinds⟩ := hfinds
    obtain ⟨result, hends⟩ :=
      Loader.exists_ends_of_destination hfinds hdescribed (Linker.destination t Linker.start path)
    obtain ⟨r, hr⟩ := exists_report_of_ends t a result
    refine ⟨r, fun l hl => ?_⟩
    have hsame := Linker.destination_congr (hspelled name path hfinds) (t := t) l Linker.start
    obtain ⟨m, hm, -⟩ := hends l hl hsame
    rw [hr l m hm]
  · simp only [not_exists] at hfinds
    obtain ⟨r, hr⟩ := exists_report_of_not_finds hfinds
    exact ⟨r, fun l _ => by rw [hr]⟩

end Assay
end GrammarAssay
