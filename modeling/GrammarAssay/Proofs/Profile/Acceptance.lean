import GrammarAssay.Proofs.Language.Generated
import GrammarAssay.Proofs.Profile.FirstMiss
import Mathlib.Data.List.Find

/-!
# What an accepted profile tells

**Input.** A profile, a language, a parser that need not be set to any language, and the libraries in memory.

**Algorithm.** The check takes a node kind for declared if the lookup finds it, and a missing tree for one with
a root of a fixed name. A lookup finds every beginning of the error kind, though no language declares it. So
acceptance tells of all other kinds that they are declared, and of a sample with any other root that it has a
tree.

**Results.**
* `TakenForError`, `matchesError_iff`: the names that are found and need not be declared.
* `run_check_filter`: the check passes over these.
* `run_check_stored`: the check of tables in memory.
* `kinds_declared_of_check`: of all others, acceptance tells that they are declared.
* `beginning_of_error_accepted`: of these it does not.
* `check_eq_ok_iff_of_sample`: what acceptance tells of a sample.
* `sample_parsed_of_check`: a sample with another root than the text for a missing tree has a tree.
* `missing_tree_accepted`: one with that root need not have any.
-/

namespace GrammarAssay

namespace Language

/-- Is a name taken for the error kind, which every language has and none declares: is it a beginning of it, or
the error kind, NUL and anything? -/
inductive TakenForError (kind : String) : Prop
  | beginning : kind.toList <+: "ERROR".toList → TakenForError kind
  | nul {rest : List Char} : kind.toList = "ERROR".toList ++ '\x00' :: rest → TakenForError kind

theorem matchesError_iff {kind : String} :
    matchesError kind.toList = true ↔ TakenForError kind := by
  have hname : errorName = "ERROR".toList := by
    rfl
  rw [matchesError, hname, Bool.or_eq_true, List.isPrefixOf_iff_prefix, List.isPrefixOf_iff_prefix]
  constructor
  · rintro (hbeginning | ⟨rest, hrest⟩)
    · exact .beginning hbeginning
    · exact .nul (by rw [← hrest, List.append_assoc, List.singleton_append])
  · rintro (hbeginning | hrest)
    · exact Or.inl hbeginning
    · exact Or.inr ⟨_, by rw [hrest, List.append_assoc, List.singleton_append]⟩

instance (kind : String) : Decidable (TakenForError kind) :=
  decidable_of_iff _ matchesError_iff

end Language

open GrammarAssay.Language (TakenForError)

namespace LanguageSource

variable {s : LanguageSource} {m : Memory} {kind : String}

theorem hasKind_of_takenForError (h : TakenForError kind) : s.hasKind m kind = true := by
  have hmatches := Language.matchesError_iff.mpr h
  cases s with
  | written l => simp [hasKind, Language.hasKind, hmatches]
  | stored address => simp [hasKind, Layout.hasKind, hmatches]

theorem declaresKind_of_not_takenForError (hwhole : s.ComparesWhole kind)
    (herror : ¬ TakenForError kind) (hkind : s.hasKind m kind = true) : s.DeclaresKind m kind := by
  have hmatches : Language.matchesError kind.toList = false :=
    Bool.eq_false_iff.mpr fun h => herror (Language.matchesError_iff.mp h)
  exact declaresKind_of_hasKind hwhole hmatches hkind

end LanguageSource

namespace Profile

variable {p : Profile} {s : LanguageSource} {parser : Parser} {l : Linker}

section Kinds

theorem run_check_filter :
    (check { p with kinds := p.kinds.filter fun kind => ¬ TakenForError kind } s parser).run l =
      (p.check s parser).run l := by
  have hsame : missingKind? { p with kinds := p.kinds.filter fun kind => ¬ TakenForError kind }
      l.memory s = p.missingKind? l.memory s := by
    unfold missingKind?
    rw [List.find?_filter]
    congr 1
    funext kind
    -- A kind that is taken for the error kind is found, and so never the one that is searched for.
    by_cases herror : TakenForError kind
    · simp [herror, LanguageSource.hasKind_of_takenForError herror]
    · simp [herror]
  rw [run_check, run_check, hsame]
  rfl

/-- With names that are compared whole, the check takes tables in memory for the language that they were written
for. -/
theorem run_check_stored {language : Language} {address : UInt64}
    (hstands : language.StandsAt l.memory address) (hlanguage : language.IsStorable)
    (hnames : ∀ name ∈ p.kinds ++ p.fields, LanguageSource.IsComparable name) :
    (p.check (.stored address) parser).run l = (p.check (.written language) parser).run l := by
  have hkinds : p.missingKind? l.memory (.stored address) =
      p.missingKind? l.memory (.written language) := by
    refine List.find?_congr fun kind hkind => ?_
    rw [Language.hasKind_stored hstands hlanguage (hnames kind (List.mem_append_left _ hkind))]
    rfl
  have hfields : p.missingField? l.memory (.stored address) =
      p.missingField? l.memory (.written language) := by
    refine List.find?_congr fun field hfield => ?_
    rw [Language.hasField_stored hstands hlanguage (hnames field (List.mem_append_right _ hfield))]
    rfl
  rw [run_check, run_check, hkinds, hfields]

theorem exists_misses_of_hasKind_eq_false {kind : String} (hmem : kind ∈ p.kinds)
    (hkind : s.hasKind l.memory kind = false) (parser : Parser) :
    ∃ first, p.Misses s parser l (.undefinedKind first) := by
  cases hfirst : p.missingKind? l.memory s with
  | none =>
      rw [missingKind?_eq_none_iff.mp hfirst kind hmem] at hkind
      cases hkind
  | some first =>
      obtain ⟨front, back, hsplit, hfront, hnot⟩ := missingKind?_eq_some_iff.mp hfirst
      exact ⟨first, .kind hsplit hfront hnot⟩

theorem hasKind_eq_false_of_check {kind : String}
    (h : ((p.check s parser).run l).1 = .error (.undefinedKind kind)) :
    s.hasKind l.memory kind = false := by
  -- Of the three stages, only the first one fails for want of a kind.
  rcases check_eq_error_iff.mp h with
    ⟨first, hfirst, hc⟩ | ⟨-, ⟨field, -, hc⟩ | ⟨-, sample, -, hroot⟩⟩
  · obtain ⟨-, -, -, -, hnot⟩ := missingKind?_eq_some_iff.mp hfirst
    cases hc
    exact hnot
  · cases hc
  · cases (checkRoot_eq_error_iff.mp hroot).2

/-- **What acceptance tells of node kinds.** Let every required kind be compared whole. If the check succeeds, the
language declares all of them, but for those that are taken for the error kind; these the check passes over. A
required kind that is not declared and not taken for the error kind always makes the check fail for want of a
kind, namely of the first one that is not found. A kind for want of which the check fails is never taken for
the error kind, and in tables as they are generated it is not declared. -/
theorem kinds_declared_of_check (p : Profile) (s : LanguageSource) (parser : Parser) (l : Linker)
    (hwhole : ∀ kind ∈ p.kinds, s.ComparesWhole kind) :
    (((p.check s parser).run l).1 = .ok () →
      ∀ kind ∈ p.kinds, ¬ TakenForError kind → s.DeclaresKind l.memory kind) ∧
    (∀ kind ∈ p.kinds, ¬ TakenForError kind → ¬ s.DeclaresKind l.memory kind →
      ∃ first, p.Misses s parser l (.undefinedKind first) ∧
        ((p.check s parser).run l).1 = .error (.undefinedKind first)) ∧
    (∀ kind, ((p.check s parser).run l).1 = .error (.undefinedKind kind) →
      ¬ TakenForError kind ∧
        (s.WellFormed l.memory → LanguageSource.IsComparable kind →
          ¬ s.DeclaresKind l.memory kind)) ∧
    (check { p with kinds := p.kinds.filter fun kind => ¬ TakenForError kind } s parser).run l =
      (p.check s parser).run l := by
  refine ⟨?_, ?_, ?_, run_check_filter⟩
  · intro hok kind hmem herror
    have hkind := (check_eq_ok_iff.mp hok).1 kind hmem
    exact LanguageSource.declaresKind_of_not_takenForError (hwhole kind hmem) herror hkind
  · intro kind hmem herror hnot
    have hkind : s.hasKind l.memory kind = false := by
      refine Bool.eq_false_iff.mpr fun hfound => hnot ?_
      exact LanguageSource.declaresKind_of_not_takenForError (hwhole kind hmem) herror hfound
    obtain ⟨first, hmisses⟩ := exists_misses_of_hasKind_eq_false hmem hkind parser
    exact ⟨first, hmisses, run_of_misses hmisses⟩
  · intro kind herror
    have hkind := hasKind_eq_false_of_check herror
    constructor
    · intro htaken
      rw [LanguageSource.hasKind_of_takenForError htaken] at hkind
      cases hkind
    · intro hwell hcomparable hdeclares
      rw [LanguageSource.hasKind_of_declaresKind hcomparable hwell hdeclares] at hkind
      cases hkind

theorem isStorable_toy : toy.IsStorable :=
  ⟨by decide, by decide, by decide, by decide, by decide, by decide⟩

/-- An anonymous symbol is not a node kind, whatever is passed over in front of it, in tables that are written down
and in tables in memory. -/
theorem kinds_declared_of_check_toy :
    (∃ first, ((check ⟨["E", "comment", "word"], ["left"], none⟩ (.written toy)
      ⟨some (.written toy)⟩).run Linker.start).1 = .error (.undefinedKind first)) ∧
    (LanguageSource.written toy).DeclaresKind Linker.start.memory "word" ∧
    ((check ⟨["E", "comment", "word"], ["left"], none⟩ (.stored 0x10000) Parser.unset).run
      (Linker.start.setMemory (toy.memory 0x10000))).1 = .error (.undefinedKind "comment") ∧
    ¬ (LanguageSource.stored 0x10000).DeclaresKind (toy.memory 0x10000) "comment" := by
  have hnot : ¬ (LanguageSource.written toy).DeclaresKind Linker.start.memory "comment" := by
    rw [LanguageSource.declaresKind_written_iff]
    decide
  refine ⟨?_, ?_, ?_⟩
  · obtain ⟨-, hmissing, -⟩ := kinds_declared_of_check ⟨["E", "comment", "word"], ["left"], none⟩
      (.written toy) ⟨some (.written toy)⟩ Linker.start fun _ _ => trivial
    obtain ⟨first, -, hfails⟩ := hmissing "comment" (by decide) (by decide) hnot
    exact ⟨first, hfails⟩
  · obtain ⟨haccepted, -⟩ := kinds_declared_of_check ⟨["E", "word"], ["left"], none⟩
      (.written toy) ⟨some (.written toy)⟩ Linker.start fun _ _ => trivial
    exact haccepted rfl "word" (by decide) (by decide)
  · have hstands := Language.standsAt_memory isStorable_toy 0x10000
    -- That the tables stand there is all that is needed of memory.
    generalize toy.memory 0x10000 = m at hstands ⊢
    have hnames : ∀ name ∈ ["E", "comment", "word"] ++ ["left"],
        LanguageSource.IsComparable name := by
      decide
    have hwhole : ∀ kind ∈ ["E", "comment", "word"], LanguageSource.IsComparable kind := fun kind h =>
      hnames kind (List.mem_append_left _ h)
    obtain ⟨-, -, hmissed, -⟩ := kinds_declared_of_check ⟨["E", "comment", "word"], ["left"], none⟩
      (.stored 0x10000) Parser.unset (Linker.start.setMemory m) hwhole
    have hfails : ((check ⟨["E", "comment", "word"], ["left"], none⟩ (.stored 0x10000)
        Parser.unset).run (Linker.start.setMemory m)).1 = .error (.undefinedKind "comment") := by
      rw [run_check_stored hstands isStorable_toy hnames]
      rfl
    exact ⟨hfails, (hmissed "comment" hfails).2
      (Language.wellFormed_of_standsAt hstands isStorable_toy) (by decide)⟩

/-- A beginning of the error kind is accepted, and it is the name of no symbol. -/
theorem beginning_of_error_accepted :
    ((check ⟨["E"], [], none⟩ (.written toy) ⟨some (.written toy)⟩).run Linker.start).1 = .ok () ∧
      ¬ (LanguageSource.written toy).DeclaresKind Linker.start.memory "E" := by
  constructor
  · rfl
  · rw [LanguageSource.declaresKind_written_iff]
    decide

end Kinds

section Samples

variable {sample : Sample}

/-- What acceptance tells of a sample: its tree has the required root, or there is no tree and the required root
is the text that tells so. -/
theorem check_eq_ok_iff_of_sample (hsample : p.sample = some sample) :
    ((p.check s parser).run l).1 = .ok () ↔
      (∀ kind ∈ p.kinds, s.hasKind l.memory kind = true) ∧
      (∀ field ∈ p.fields, s.hasField l.memory field = true) ∧
      (((parser.parse sample.source).run l).1 = some sample.rootKind ∨
        ((parser.parse sample.source).run l).1 = none ∧ sample.rootKind = noTree) := by
  rw [check_eq_ok_iff, hsample]
  simp only [Option.some.injEq, forall_eq', getD_noTree_eq_iff]

/-- Where there is no tree for the sample, the check fails if nothing is missed before and another root is
required than the text that tells so. -/
theorem run_check_of_parse_eq_none (hsample : p.sample = some sample)
    (hroot : sample.rootKind ≠ noTree)
    (hkinds : ∀ kind ∈ p.kinds, s.hasKind l.memory kind = true)
    (hfields : ∀ field ∈ p.fields, s.hasField l.memory field = true)
    (hparse : ((parser.parse sample.source).run l).1 = none) :
    ((p.check s parser).run l).1 = .error (.wrongRoot sample.rootKind noTree) := by
  refine check_eq_error_iff.mpr (Or.inr ⟨missingKind?_eq_none_iff.mpr hkinds, Or.inr ⟨?_, ?_⟩⟩)
  · exact missingField?_eq_none_iff.mpr hfields
  · refine ⟨sample, hsample, checkRoot_eq_error_iff.mpr ?_⟩
    rw [hparse, Option.getD_none]
    exact ⟨Ne.symm hroot, rfl⟩

/-- **What acceptance tells of a sample.** Let a profile have a sample, and let its root be any but the text that
stands for a missing tree. If the check succeeds, the parser gave a tree for the sample and the tree has the
required root. If the parser gives no tree, and all kinds and fields are found, the check fails for the root. If
the required root is that text, the check also takes a missing tree for one with the root. -/
theorem sample_parsed_of_check (p : Profile) (s : LanguageSource) (parser : Parser) (l : Linker)
    {sample : Sample} (hsample : p.sample = some sample) :
    (sample.rootKind ≠ noTree →
      (((p.check s parser).run l).1 = .ok () →
        ((parser.parse sample.source).run l).1 = some sample.rootKind) ∧
      (((parser.parse sample.source).run l).1 = none →
        (∀ kind ∈ p.kinds, s.hasKind l.memory kind = true) →
        (∀ field ∈ p.fields, s.hasField l.memory field = true) →
        ((p.check s parser).run l).1 = .error (.wrongRoot sample.rootKind noTree))) ∧
    (sample.rootKind = noTree →
      (((p.check s parser).run l).1 = .ok () ↔
        (∀ kind ∈ p.kinds, s.hasKind l.memory kind = true) ∧
        (∀ field ∈ p.fields, s.hasField l.memory field = true) ∧
        (((parser.parse sample.source).run l).1 = some noTree ∨
          ((parser.parse sample.source).run l).1 = none))) := by
  constructor
  · intro hroot
    constructor
    · intro hok
      obtain ⟨-, -, hparse⟩ := (check_eq_ok_iff_of_sample hsample).mp hok
      exact hparse.resolve_right fun hnone => hroot hnone.2
    · intro hparse hkinds hfields
      exact run_check_of_parse_eq_none hsample hroot hkinds hfields hparse
  · intro hroot
    rw [check_eq_ok_iff_of_sample hsample, hroot]
    simp only [and_true]

/-- Without a language, a parser gives no tree, and the check fails. With one, acceptance tells of the tree. -/
theorem sample_parsed_of_check_toy :
    ((check ⟨["word"], ["left"], some ⟨"x", "program"⟩⟩ (.written toy) Parser.unset).run
        Linker.start).1 = .error (.wrongRoot "program" "<no tree>") ∧
      ((Parser.parse ⟨some (.written toy)⟩ "x").run Linker.start).1 = some "program" := by
  constructor
  · obtain ⟨hother, -⟩ := sample_parsed_of_check ⟨["word"], ["left"], some ⟨"x", "program"⟩⟩
      (.written toy) Parser.unset Linker.start rfl
    exact (hother (by decide)).2 rfl (by decide) (by decide)
  · obtain ⟨hother, -⟩ := sample_parsed_of_check ⟨["word"], ["left"], some ⟨"x", "program"⟩⟩
      (.written toy) ⟨some (.written toy)⟩ Linker.start rfl
    exact (hother (by decide)).1 rfl

/-- A sample without a tree is accepted if its root is the text that tells so. -/
theorem missing_tree_accepted :
    ((check ⟨[], [], some ⟨"x", "<no tree>"⟩⟩ (.written toy) Parser.unset).run Linker.start).1 =
        .ok () ∧
      ((Parser.unset.parse "x").run Linker.start).1 = none := by
  exact ⟨rfl, rfl⟩

end Samples
end Profile
end GrammarAssay
