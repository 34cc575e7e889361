import GrammarAssay.Assay
import GrammarAssay.Proofs.Opening
import GrammarAssay.Proofs.Profile
import GrammarAssay.Proofs.Search.Locate

/-!
# The first violated stage of an assay

**Input.** An assay, a file tree, and the libraries in memory when the assay begins.

**Algorithm.** The stages are stated one by one, without the code that joins them. `Finds` is the file
that a loader settles on, `Delivers` a loader that comes as far as the entry point, and `Violates` the
first stage that an assay violates: whatever stands before it holds, and it does not.

**Results.**
* `outcome_load_of_delivers`, `outcome_load_of_lacks`: how a loader ends.
* `run_of_violates`, `run_of_passes`: how an assay ends.
* `violates_or_passes`: an assay violates a stage or none.
* `lacks_or_aboutLanguage`: a stage is the loader's, or about the language.
* `run_eq_first_violation`: an assay ends with the first violated stage, or with a handle if there is
  none.
-/

namespace GrammarAssay
namespace Loader

/-- The regular file that a loader settles on, and the grammar for whose library it is taken. -/
inductive Finds (t : FileTree) : Loader → String → Path → Prop
  | fixed (name : String) (path : Path) :
      t.isFile path = true →
      Finds t (.library name path) name path
  | first (name : String) (front : List Path) (dir : Path) (back : List Path) :
      (∀ other ∈ front, t.isFile (Search.candidate other name) = false) →
      t.isFile (Search.candidate dir name) = true →
      Finds t (.search name (front ++ dir :: back)) name (Search.candidate dir name)

/-- A loader that comes as far as the entry point, with what that returns and the libraries in memory
then. -/
inductive Delivers (t : FileTree) (l : Linker) : Loader → Artifact → Linker → Prop
  | builtIn (g : BuiltIn) :
      Delivers t l (.builtIn g) ⟨some (.written g.language), none⟩ l
  | entryPoint (id : String) (entry : Option Language) :
      Delivers t l (.entryPoint id entry) ⟨entry.map .written, none⟩ l
  | library {loader : Loader} {name : String} {path : Path} {number : Nat} {l₁ l₂ l₃ : Linker}
      {home : Module} {binding : Binding} {entry : Option LanguageSource} :
      Finds t loader name path →
      l.load t path = (.ok number, l₁) →
      Library.lookEntry l₁ number (Library.entrySymbol name) = (some (home, binding), l₂) →
      (EntryPoint.language ⟨number, home, binding⟩).run l₂ = (entry, l₃) →
      Delivers t l loader ⟨entry, some number⟩ l₃

/-- What keeps a loader from the entry point. -/
inductive Lacks (t : FileTree) (l : Linker) : Loader → Cause → Prop
  | everywhere (name : String) (paths : List Path) :
      (∀ dir ∈ paths, t.isFile (Search.candidate dir name) = false) →
      Lacks t l (.search name paths)
        (.notInSearchPaths (Library.fileName name) paths.length)
  | file (name : String) (path : Path) :
      t.isFile path = false →
      Lacks t l (.library name path) (.noLibrary path.display)
  | format {loader : Loader} {name : String} {path : Path} {words : String} {l₁ : Linker} :
      Finds t loader name path →
      l.load t path = (.error words, l₁) →
      Lacks t l loader (.unopenable path.display words)
  | symbol {loader : Loader} {name : String} {path : Path} {number : Nat} {l₁ l₂ : Linker} :
      Finds t loader name path →
      l.load t path = (.ok number, l₁) →
      Library.lookEntry l₁ number (Library.entrySymbol name) = (none, l₂) →
      Lacks t l loader (.noEntryPoint (Library.entrySymbol name))

section Loading

variable {t : FileTree} {l : Linker} {loader : Loader}

/-- A loader with a file opens the library there. -/
theorem load_of_finds {name : String} {path : Path} (h : Finds t loader name path) :
    loader.load t = loadAt t name path ∧ t.isFile path = true := by
  cases h with
  | fixed name path hfile =>
      exact ⟨rfl, hfile⟩
  | first name front dir back hfront hdir =>
      have hlocate : Search.locate t (front ++ dir :: back) name =
          some (Search.candidate dir name) :=
        Search.locate_eq_some_iff.mpr ⟨front, dir, back, rfl, hfront, hdir, rfl⟩
      exact ⟨by simp [load, hlocate], hdir⟩

/-- What keeps a loader from the entry point is how it ends. -/
theorem outcome_load_of_lacks {c : Cause} (h : Lacks t l loader c) :
    ((loader.load t).outcome l).1 = .error c := by
  cases h with
  | everywhere name paths hpaths =>
      simp [load, Search.locate_eq_none_iff.mpr hpaths]
  | file name path hfile =>
      simp [load, outcome_loadAt, Library.outcome_openAt, hfile]
  | format hfinds hload =>
      obtain ⟨heq, hfile⟩ := load_of_finds hfinds
      simp [heq, outcome_loadAt, Library.outcome_openAt, hfile, hload]
  | symbol hfinds hload hlook =>
      obtain ⟨heq, hfile⟩ := load_of_finds hfinds
      simp [heq, outcome_loadAt, Library.outcome_openAt, hfile, hload, hlook]

/-- A loader that comes as far as the entry point ends with what that returns. -/
theorem outcome_load_of_delivers {artifact : Artifact} {m : Linker}
    (h : Delivers t l loader artifact m) :
    (loader.load t).outcome l = (.ok artifact, m) := by
  cases h with
  | builtIn g =>
      simp [load]
  | entryPoint id entry =>
      simp [load]
  | library hfinds hload hlook hentry =>
      obtain ⟨heq, hfile⟩ := load_of_finds hfinds
      simp [heq, outcome_loadAt, Library.outcome_openAt, hfile, hload, hlook, hentry]

/-- A loader delivers one thing. -/
theorem delivers_unique {artifact artifact' : Artifact} {m m' : Linker}
    (h : Delivers t l loader artifact m) (h' : Delivers t l loader artifact' m') :
    artifact = artifact' ∧ m = m' := by
  have hsame := outcome_load_of_delivers h
  rw [outcome_load_of_delivers h'] at hsame
  cases hsame
  exact ⟨rfl, rfl⟩

/-- A loader with a file comes as far as the entry point, or something keeps it from there. -/
theorem delivers_or_lacks_of_finds {name : String} {path : Path} (h : Finds t loader name path) :
    (∃ artifact m, Delivers t l loader artifact m) ∨ ∃ c, Lacks t l loader c := by
  rcases hload : l.load t path with ⟨words | number, l₁⟩
  · exact Or.inr ⟨_, Lacks.format h hload⟩
  · rcases hlook : Library.lookEntry l₁ number (Library.entrySymbol name) with
      ⟨_ | ⟨home, binding⟩, l₂⟩
    · exact Or.inr ⟨_, Lacks.symbol h hload hlook⟩
    · exact Or.inl ⟨_, _, Delivers.library h hload hlook rfl⟩

/-- A loader comes as far as the entry point, or something keeps it from there. -/
theorem delivers_or_lacks (t : FileTree) (l : Linker) (loader : Loader) :
    (∃ artifact m, Delivers t l loader artifact m) ∨ ∃ c, Lacks t l loader c := by
  cases loader with
  | builtIn g =>
      exact Or.inl ⟨_, _, Delivers.builtIn g⟩
  | entryPoint id entry =>
      exact Or.inl ⟨_, _, Delivers.entryPoint id entry⟩
  | library name path =>
      cases hfile : t.isFile path with
      | false =>
          exact Or.inr ⟨_, Lacks.file name path hfile⟩
      | true =>
          exact delivers_or_lacks_of_finds (Finds.fixed name path hfile)
  | search name paths =>
      cases hlocate : Search.locate t paths name with
      | none =>
          exact Or.inr ⟨_, Lacks.everywhere name paths (Search.locate_eq_none_iff.mp hlocate)⟩
      | some path =>
          obtain ⟨front, dir, back, rfl, hfront, hdir, rfl⟩ := Search.locate_eq_some_iff.mp hlocate
          exact delivers_or_lacks_of_finds (Finds.first name front dir back hfront hdir)

end Loading
end Loader

namespace Assay

/-- The first stage that an assay violates, as what is wrong there. -/
inductive Violates (t : FileTree) (l : Linker) (a : Assay) : Cause → Prop
  | loading {c : Cause} :
      a.loader.Lacks t l c →
      Violates t l a c
  | null {library : Option Nat} {m : Linker} :
      a.loader.Delivers t l ⟨none, library⟩ m →
      Violates t l a .nullLanguage
  | version {s : LanguageSource} {library : Option Nat} {m : Linker} :
      a.loader.Delivers t l ⟨some s, library⟩ m →
      ¬ (13 ≤ (s.facts m.memory).version ∧ (s.facts m.memory).version ≤ 14) →
      Violates t l a (.unsupportedVersion (s.facts m.memory).version 13 14)
  | empty {s : LanguageSource} {library : Option Nat} {m : Linker} :
      a.loader.Delivers t l ⟨some s, library⟩ m →
      13 ≤ (s.facts m.memory).version ∧ (s.facts m.memory).version ≤ 14 →
      (s.facts m.memory).nodeKindCount = 0 →
      Violates t l a .noNodeKinds
  | profile {s : LanguageSource} {library : Option Nat} {m : Linker} {p : Profile} {c : Cause} :
      a.loader.Delivers t l ⟨some s, library⟩ m →
      13 ≤ (s.facts m.memory).version ∧ (s.facts m.memory).version ≤ 14 →
      (s.facts m.memory).nodeKindCount ≠ 0 →
      a.profile = some p →
      ((p.check s ⟨some s⟩).run m).1 = .error c →
      Violates t l a c

/-- What can be wrong with what an entry point returns. -/
inductive AboutLanguage : Cause → Prop
  | null : AboutLanguage .nullLanguage
  | version (found min max : UInt64) : AboutLanguage (.unsupportedVersion found min max)
  | empty : AboutLanguage .noNodeKinds
  | kind (kind : String) : AboutLanguage (.undefinedKind kind)
  | field (field : String) : AboutLanguage (.undefinedField field)
  | root (expected found : String) : AboutLanguage (.wrongRoot expected found)

/-- An assay that violates no stage, with the language and the library that it gets at, and the libraries
in memory when it does. -/
structure Passes (t : FileTree) (l : Linker) (a : Assay) (s : LanguageSource) (library : Option Nat)
    (m : Linker) : Prop where
  delivers : a.loader.Delivers t l ⟨some s, library⟩ m
  version : 13 ≤ (s.facts m.memory).version ∧ (s.facts m.memory).version ≤ 14
  nonempty : (s.facts m.memory).nodeKindCount ≠ 0
  profile : ∀ p, a.profile = some p → ((p.check s ⟨some s⟩).run m).1 = .ok ()

section Judging

variable {profile : Option Profile} {s : LanguageSource} {m : Linker}

theorem isSupported_iff (f : Language.Facts) :
    f.isSupported = true ↔ 13 ≤ f.version ∧ f.version ≤ 14 := by
  unfold Language.Facts.isSupported
  rw [Bool.and_eq_true, decide_eq_true_iff, decide_eq_true_iff]
  rfl

/-- A parser takes every language of a supported table format. -/
theorem ofSource_of_isSupported {memory : Memory} (h : (s.facts memory).isSupported = true) :
    Parser.ofSource memory s = .ok ⟨some s⟩ := by
  rw [Parser.ofSource, if_pos h]

/-- The stages behind the entry point, for a language; a parser always takes what comes so far. -/
theorem outcome_judge :
    (judge profile (some s)).outcome m =
      if (s.facts m.memory).isSupported = true then
        if (s.facts m.memory).nodeKindCount = 0 then (.error .noNodeKinds, m)
        else
          (((checkProfile profile s ⟨some s⟩).outcome m).1.map fun _ => s,
            ((checkProfile profile s ⟨some s⟩).outcome m).2)
      else (.error (.unsupportedVersion (s.facts m.memory).version 13 14), m) := by
  rw [judge, Opening.outcome_bind, Opening.outcome_get]
  dsimp only
  cases hsup : (s.facts m.memory).isSupported with
  | false => rfl
  | true =>
      simp only [Bool.not_true, Bool.false_eq_true, if_true, if_false]
      by_cases hcount : (s.facts m.memory).nodeKindCount = 0
      · rw [if_pos hcount, if_pos hcount, Opening.outcome_throw]
      · rw [if_neg hcount, if_neg hcount, ofSource_of_isSupported hsup]
        simp only [Opening.outcome_bind]
        rcases (checkProfile profile s ⟨some s⟩).outcome m with ⟨c | _, m'⟩
        · rfl
        · rfl

end Judging

section Running

variable {t : FileTree} {l : Linker} {a : Assay}

/-- An assay ends as its stages do. -/
theorem run_eq_mapError (t : FileTree) (l : Linker) (a : Assay) :
    a.run t l = ((a.stages t).outcome l).1.mapError fun cause => ⟨a.name, cause⟩ := by
  rfl

/-- An assay whose loader is kept from the entry point. -/
theorem run_of_lacks {c : Cause} (h : a.loader.Lacks t l c) :
    a.run t l = .error ⟨a.name, c⟩ := by
  have hload := Loader.outcome_load_of_lacks h
  rw [run_eq_mapError, stages, Opening.outcome_bind]
  rcases hend : (a.loader.load t).outcome l with ⟨c' | artifact, m⟩
  · rw [hend] at hload
    cases hload
    rfl
  · rw [hend] at hload
    cases hload

/-- Behind a loader that comes as far as the entry point, the stages end as those about the language do. -/
theorem outcome_stages_of_delivers {artifact : Artifact} {m : Linker}
    (h : a.loader.Delivers t l artifact m) :
    (a.stages t).outcome l =
      (((judge a.profile artifact.entry).outcome m).1.map fun s =>
          Handle.mk a.name s artifact.library,
        ((judge a.profile artifact.entry).outcome m).2) := by
  rw [stages, Opening.outcome_bind, Loader.outcome_load_of_delivers h]
  simp only [Opening.outcome_bind]
  rcases (judge a.profile artifact.entry).outcome m with ⟨c | s, m'⟩
  · rfl
  · rfl

/-- An assay whose loader comes as far as the entry point ends as the stages behind it do. -/
theorem run_of_delivers {artifact : Artifact} {m : Linker}
    (h : a.loader.Delivers t l artifact m) :
    a.run t l =
      (((judge a.profile artifact.entry).outcome m).1.map fun s =>
        Handle.mk a.name s artifact.library).mapError fun cause => ⟨a.name, cause⟩ := by
  rw [run_eq_mapError, outcome_stages_of_delivers h]

/-- An assay ends with the first stage that it violates. -/
theorem run_of_violates {c : Cause} (h : a.Violates t l c) :
    a.run t l = .error ⟨a.name, c⟩ := by
  cases h with
  | loading hlacks =>
      exact run_of_lacks hlacks
  | null hdel =>
      rw [run_of_delivers hdel]
      rfl
  | version hdel hversion =>
      rw [run_of_delivers hdel, outcome_judge, if_neg (mt (isSupported_iff _).mp hversion)]
      rfl
  | empty hdel hversion hcount =>
      rw [run_of_delivers hdel, outcome_judge, if_pos ((isSupported_iff _).mpr hversion),
        if_pos hcount]
      rfl
  | profile hdel hversion hcount hp hcheck =>
      rw [run_of_delivers hdel, outcome_judge, if_pos ((isSupported_iff _).mpr hversion),
        if_neg hcount]
      simp only [checkProfile, hp, Opening.outcome_mk, hcheck]
      rfl

/-- An assay that violates no stage ends with a handle. -/
theorem run_of_passes {s : LanguageSource} {library : Option Nat} {m : Linker}
    (h : a.Passes t l s library m) :
    a.run t l = .ok ⟨a.name, s, library⟩ := by
  rw [run_of_delivers h.delivers, outcome_judge, if_pos ((isSupported_iff _).mpr h.version),
    if_neg h.nonempty]
  cases hp : a.profile with
  | none => rfl
  | some p =>
      simp only [checkProfile, Opening.outcome_mk, h.profile p hp]
      rfl

/-- An assay violates a stage, or none. -/
theorem violates_or_passes (t : FileTree) (l : Linker) (a : Assay) :
    (∃ c, a.Violates t l c) ∨ ∃ s library m, a.Passes t l s library m := by
  rcases Loader.delivers_or_lacks t l a.loader with ⟨⟨_ | s, library⟩, m, hdel⟩ | ⟨c, hlacks⟩
  · exact Or.inl ⟨_, Violates.null hdel⟩
  · by_cases hversion : 13 ≤ (s.facts m.memory).version ∧ (s.facts m.memory).version ≤ 14
    · by_cases hcount : (s.facts m.memory).nodeKindCount = 0
      · exact Or.inl ⟨_, Violates.empty hdel hversion hcount⟩
      · cases hp : a.profile with
        | none =>
            refine Or.inr ⟨s, library, m, hdel, hversion, hcount, ?_⟩
            simp [hp]
        | some p =>
            cases hcheck : ((p.check s ⟨some s⟩).run m).1 with
            | error c =>
                exact Or.inl ⟨c, Violates.profile hdel hversion hcount hp hcheck⟩
            | ok _ =>
                refine Or.inr ⟨s, library, m, hdel, hversion, hcount, ?_⟩
                simp [hp, hcheck]
    · exact Or.inl ⟨_, Violates.version hdel hversion⟩
  · exact Or.inl ⟨c, Violates.loading hlacks⟩

/-- An assay that fails does so under its name, with a stage that it violates. -/
theorem violates_of_run_eq_error {f : Fault} (h : a.run t l = .error f) :
    f.grammar = a.name ∧ a.Violates t l f.cause := by
  rcases violates_or_passes t l a with ⟨c, hc⟩ | ⟨s, library, m, hpass⟩
  · rw [run_of_violates hc] at h
    cases h
    exact ⟨rfl, hc⟩
  · rw [run_of_passes hpass] at h
    cases h

/-- An assay that gives a handle violates no stage, and the handle holds what its loader got at. -/
theorem passes_of_run_eq_ok {h : Handle} (hrun : a.run t l = .ok h) :
    h.grammar = a.name ∧ ∃ m, a.Passes t l h.source h.library m := by
  rcases violates_or_passes t l a with ⟨c, hc⟩ | ⟨s, library, m, hpass⟩
  · rw [run_of_violates hc] at hrun
    cases hrun
  · rw [run_of_passes hpass] at hrun
    cases hrun
    exact ⟨rfl, m, hpass⟩

/-- A violated stage keeps the loader from the entry point, or is about the language. -/
theorem lacks_or_aboutLanguage {c : Cause} (h : a.Violates t l c) :
    a.loader.Lacks t l c ∨ AboutLanguage c := by
  cases h with
  | loading hlacks => exact Or.inl hlacks
  | null _ => exact Or.inr AboutLanguage.null
  | version _ _ => exact Or.inr (AboutLanguage.version _ _ _)
  | empty _ _ _ => exact Or.inr AboutLanguage.empty
  | profile _ _ _ _ hcheck =>
      rcases Profile.cause_of_check hcheck with ⟨kind, rfl⟩ | ⟨field, rfl⟩ | ⟨expected, found, rfl⟩
      · exact Or.inr (AboutLanguage.kind kind)
      · exact Or.inr (AboutLanguage.field field)
      · exact Or.inr (AboutLanguage.root expected found)

/-- No parser refuses a language that comes so far. -/
theorem not_violates_refusedByParser (reason : String) :
    ¬ a.Violates t l (.refusedByParser reason) := by
  intro h
  rcases lacks_or_aboutLanguage h with hlacks | habout
  · generalize a.loader = loader at hlacks
    cases hlacks
  · cases habout

/-- Only an assay of a fixed path comes upon a path without a library. -/
theorem loader_of_violates_noLibrary {path : String} (h : a.Violates t l (.noLibrary path)) :
    ∃ name fixed, a.loader = .library name fixed := by
  rcases lacks_or_aboutLanguage h with hlacks | habout
  · generalize a.loader = loader at hlacks
    cases hlacks with
    | file name fixed _ => exact ⟨name, fixed, rfl⟩
  · cases habout

/-- Only an assay of a search comes upon search paths without a library. -/
theorem loader_of_violates_notInSearchPaths {file : String} {count : Nat}
    (h : a.Violates t l (.notInSearchPaths file count)) :
    ∃ name paths, a.loader = .search name paths := by
  rcases lacks_or_aboutLanguage h with hlacks | habout
  · generalize a.loader = loader at hlacks
    cases hlacks with
    | everywhere name paths _ => exact ⟨name, paths, rfl⟩
  · cases habout

end Running

/-- Only a loader that opens a library hands one over. -/
theorem isSome_library_iff {t : FileTree} {l m : Linker} {loader : Loader} {artifact : Artifact}
    (h : loader.Delivers t l artifact m) :
    artifact.library.isSome = true ↔
      ∃ name, (∃ path, loader = .library name path) ∨ ∃ paths, loader = .search name paths := by
  cases h with
  | builtIn g => simp
  | entryPoint id entry => simp
  | library hfinds _ _ _ =>
      cases hfinds with
      | fixed name path _ => simp
      | first name front dir back _ _ => simp

/-- **How an assay ends.** It ends with the first stage that it violates, under its own name. If there is
none, it ends with a handle of that name on the language that the entry point returned, and the handle
tells of the language what that tells of itself. The language stands in a library if the loader opens
one. -/
theorem run_eq_first_violation (t : FileTree) (l : Linker) (a : Assay) :
    (∀ f, a.run t l = .error f ↔ f.grammar = a.name ∧ a.Violates t l f.cause) ∧
    (∀ h, a.run t l = .ok h ↔
      (∀ c, ¬ a.Violates t l c) ∧
        ∃ s library m, a.loader.Delivers t l ⟨some s, library⟩ m ∧ h = ⟨a.name, s, library⟩) ∧
    (∀ h, a.run t l = .ok h →
      h.grammar = a.name ∧ (∀ memory, h.facts memory = h.source.facts memory) ∧
        (h.isDynamic = true ↔
          ∃ name, (∃ path, a.loader = .library name path) ∨
            ∃ paths, a.loader = .search name paths)) ∧
    (∀ reason, a.run t l ≠ .error ⟨a.name, .refusedByParser reason⟩) ∧
    (∀ name paths path, a.loader = .search name paths →
      a.run t l ≠ .error ⟨a.name, .noLibrary path⟩) := by
  refine ⟨?_, ?_, ?_, ?_, ?_⟩
  · rintro ⟨grammar, cause⟩
    refine ⟨violates_of_run_eq_error, ?_⟩
    rintro ⟨rfl, hviolates⟩
    exact run_of_violates hviolates
  · intro h
    constructor
    · intro hrun
      obtain ⟨hname, m, hpass⟩ := passes_of_run_eq_ok hrun
      refine ⟨?_, h.source, h.library, m, hpass.delivers, ?_⟩
      · intro c hc
        rw [run_of_violates hc] at hrun
        cases hrun
      · rw [← hname]
    · rintro ⟨hnone, s, library, m, hdel, rfl⟩
      rcases violates_or_passes t l a with ⟨c, hc⟩ | ⟨s', library', m', hpass⟩
      · exact absurd hc (hnone c)
      · -- A loader ends in one way only.
        have hsame := Loader.outcome_load_of_delivers hdel
        rw [Loader.outcome_load_of_delivers hpass.delivers] at hsame
        cases hsame
        exact run_of_passes hpass
  · intro h hrun
    obtain ⟨hname, m, hpass⟩ := passes_of_run_eq_ok hrun
    exact ⟨hname, fun _ => rfl, isSome_library_iff hpass.delivers⟩
  · intro reason hrun
    exact not_violates_refusedByParser reason (violates_of_run_eq_error hrun).2
  · intro name paths path hsearch hrun
    obtain ⟨_, _, hfixed⟩ := loader_of_violates_noLibrary (violates_of_run_eq_error hrun).2
    rw [hsearch] at hfixed
    cases hfixed

end Assay
end GrammarAssay
