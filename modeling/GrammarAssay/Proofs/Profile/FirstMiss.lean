import GrammarAssay.Proofs.Profile

/-!
# The first miss of a profile

**Input.** A profile, a language, a parser, and the libraries in memory.

**Algorithm.** `Meets` is a language with all that the profile requires, and `Misses` the first thing that it
lacks: every kind comes before the fields, every field before the sample, and each list counts in its own
order. Neither mentions the check, which goes through three searches that stop early.

**Results.**
* `run_of_misses`, `run_of_meets`: how the check ends if something is missed, and if nothing is.
* `misses_of_run_eq_error`, `meets_of_run_eq_ok`: where the parser gives trees, it ends so for no other reason.
* `check_append_eq_ok_iff`: a profile of two parts is met exactly if both parts are.
* `check_eq_ok_congr`: order and repetition of what is required do not matter.
* `check_ends_with_first_miss`: all of this at once.
-/

namespace GrammarAssay
namespace Profile

/-- A language and a parser with all that the profile requires. -/
structure Meets (p : Profile) (s : LanguageSource) (parser : Parser) (l : Linker) : Prop where
  kinds : ∀ kind ∈ p.kinds, s.hasKind l.memory kind = true
  fields : ∀ field ∈ p.fields, s.hasField l.memory field = true
  root : ∀ sample ∈ p.sample, ((parser.parse sample.source).run l).1 = some sample.rootKind

/-- The first thing that the profile requires and that is not there. -/
inductive Misses (p : Profile) (s : LanguageSource) (parser : Parser) (l : Linker) : Cause → Prop
  | kind {front back : List String} {kind : String} :
      p.kinds = front ++ kind :: back →
      (∀ other ∈ front, s.hasKind l.memory other = true) →
      s.hasKind l.memory kind = false →
      Misses p s parser l (.undefinedKind kind)
  | field {front back : List String} {field : String} :
      (∀ kind ∈ p.kinds, s.hasKind l.memory kind = true) →
      p.fields = front ++ field :: back →
      (∀ other ∈ front, s.hasField l.memory other = true) →
      s.hasField l.memory field = false →
      Misses p s parser l (.undefinedField field)
  | root {sample : Sample} {found : String} :
      (∀ kind ∈ p.kinds, s.hasKind l.memory kind = true) →
      (∀ field ∈ p.fields, s.hasField l.memory field = true) →
      p.sample = some sample →
      ((parser.parse sample.source).run l).1 = some found →
      found ≠ sample.rootKind →
      Misses p s parser l (.wrongRoot sample.rootKind found)

variable {p q : Profile} {s : LanguageSource} {parser : Parser} {l : Linker}

section Searching

variable {m : Memory}

/-- The first name that is not there splits the list behind names that are. -/
theorem find?_not_eq_some_iff {has : String → Bool} {names : List String} {name : String} :
    names.find? (fun n => !has n) = some name ↔
      ∃ front back, names = front ++ name :: back ∧ (∀ other ∈ front, has other = true) ∧
        has name = false := by
  rw [List.find?_eq_some_iff_append]
  constructor
  · rintro ⟨hname, front, back, hsplit, hfront⟩
    exact ⟨front, back, hsplit, by simpa using hfront, by simpa using hname⟩
  · rintro ⟨front, back, hsplit, hfront, hname⟩
    exact ⟨by simpa using hname, front, back, hsplit, by simpa using hfront⟩

theorem missingKind?_eq_some_iff {kind : String} :
    p.missingKind? m s = some kind ↔
      ∃ front back, p.kinds = front ++ kind :: back ∧
        (∀ other ∈ front, s.hasKind m other = true) ∧ s.hasKind m kind = false :=
  find?_not_eq_some_iff

theorem missingField?_eq_some_iff {field : String} :
    p.missingField? m s = some field ↔
      ∃ front back, p.fields = front ++ field :: back ∧
        (∀ other ∈ front, s.hasField m other = true) ∧ s.hasField m field = false :=
  find?_not_eq_some_iff

end Searching

section Ending

theorem run_of_misses {c : Cause} (h : p.Misses s parser l c) :
    ((p.check s parser).run l).1 = .error c := by
  rw [check_eq_error_iff]
  cases h with
  | kind hsplit hfront hkind =>
      exact Or.inl ⟨_, missingKind?_eq_some_iff.mpr ⟨_, _, hsplit, hfront, hkind⟩, rfl⟩
  | field hkinds hsplit hfront hfield =>
      refine Or.inr ⟨missingKind?_eq_none_iff.mpr hkinds, Or.inl ⟨_, ?_, rfl⟩⟩
      exact missingField?_eq_some_iff.mpr ⟨_, _, hsplit, hfront, hfield⟩
  | root hkinds hfields hsample hparse hne =>
      refine Or.inr ⟨missingKind?_eq_none_iff.mpr hkinds, Or.inr ⟨?_, _, hsample, ?_⟩⟩
      · exact missingField?_eq_none_iff.mpr hfields
      · rw [checkRoot_eq_error_iff, hparse, Option.getD_some]
        exact ⟨hne, rfl⟩

theorem run_of_meets (h : p.Meets s parser l) : ((p.check s parser).run l).1 = .ok () := by
  refine check_eq_ok_iff.mpr ⟨h.kinds, h.fields, ?_⟩
  intro sample hsample
  rw [h.root sample hsample, Option.getD_some]

section Trees

variable (htree : ∀ sample ∈ p.sample, ∃ root, ((parser.parse sample.source).run l).1 = some root)

include htree

/-- Where the parser gives a tree for the sample, the check fails only with what is missed first. -/
theorem misses_of_run_eq_error {c : Cause} (h : ((p.check s parser).run l).1 = .error c) :
    p.Misses s parser l c := by
  rcases check_eq_error_iff.mp h with
    ⟨kind, hkind, rfl⟩ | ⟨hkind, ⟨field, hfield, rfl⟩ | ⟨hfield, sample, hsample, hroot⟩⟩
  · obtain ⟨front, back, hsplit, hfront, hnot⟩ := missingKind?_eq_some_iff.mp hkind
    exact .kind hsplit hfront hnot
  · obtain ⟨front, back, hsplit, hfront, hnot⟩ := missingField?_eq_some_iff.mp hfield
    exact .field (missingKind?_eq_none_iff.mp hkind) hsplit hfront hnot
  · obtain ⟨found, hparse⟩ := htree sample hsample
    rw [checkRoot_eq_error_iff, hparse, Option.getD_some] at hroot
    obtain ⟨hne, rfl⟩ := hroot
    exact .root (missingKind?_eq_none_iff.mp hkind) (missingField?_eq_none_iff.mp hfield) hsample
      hparse hne

/-- Where the parser gives a tree for the sample, the check succeeds only if the profile is met. -/
theorem meets_of_run_eq_ok (h : ((p.check s parser).run l).1 = .ok ()) : p.Meets s parser l := by
  obtain ⟨hkinds, hfields, hroot⟩ := check_eq_ok_iff.mp h
  refine ⟨hkinds, hfields, ?_⟩
  intro sample hsample
  -- Without a tree, the text for a missing one could be the required root.
  obtain ⟨found, hparse⟩ := htree sample hsample
  rw [← hroot sample hsample, hparse, Option.getD_some]

end Trees

end Ending

section Combining

/-- A profile of two parts is met exactly if both parts are. -/
theorem check_append_eq_ok_iff :
    ((check { p with kinds := p.kinds ++ q.kinds, fields := p.fields ++ q.fields } s parser).run
        l).1 = .ok () ↔
      ((p.check s parser).run l).1 = .ok () ∧
        ((check { q with sample := none } s parser).run l).1 = .ok () := by
  simp only [check_eq_ok_iff, List.forall_mem_append]
  constructor
  · rintro ⟨⟨hkinds, hkinds'⟩, ⟨hfields, hfields'⟩, hroot⟩
    exact ⟨⟨hkinds, hfields, hroot⟩, hkinds', hfields', by simp⟩
  · rintro ⟨⟨hkinds, hfields, hroot⟩, hkinds', hfields', -⟩
    exact ⟨⟨hkinds, hkinds'⟩, ⟨hfields, hfields'⟩, hroot⟩

/-- Two profiles that require the same are met by the same languages. -/
theorem check_eq_ok_congr (hkinds : ∀ kind, kind ∈ q.kinds ↔ kind ∈ p.kinds)
    (hfields : ∀ field, field ∈ q.fields ↔ field ∈ p.fields) (hsample : q.sample = p.sample) :
    ((q.check s parser).run l).1 = .ok () ↔ ((p.check s parser).run l).1 = .ok () := by
  simp only [check_eq_ok_iff, hkinds, hfields, hsample]

end Combining

/-- **How the check of a profile ends.** Let a parser give a tree for every text. The check succeeds exactly if
all kinds and fields are found and the tree of the sample has the required root. Otherwise it fails with the
first kind that is not found, or if there is none with the first field, or if there is none with the root that
the sample has. What two profiles require together, with the sample of one of them, is met exactly if each is,
and neither the order of kinds and fields nor their repetition matters. -/
theorem check_ends_with_first_miss (p : Profile) (s : LanguageSource) (parser : Parser) (l : Linker)
    (htree : ∀ text, ∃ root, ((parser.parse text).run l).1 = some root) :
    (((p.check s parser).run l).1 = .ok () ↔ p.Meets s parser l) ∧
    (∀ c, ((p.check s parser).run l).1 = .error c ↔ p.Misses s parser l c) ∧
    (∀ q : Profile,
      ((check { p with kinds := p.kinds ++ q.kinds, fields := p.fields ++ q.fields } s parser).run
          l).1 = .ok () ↔
        ((p.check s parser).run l).1 = .ok () ∧
          ((check { q with sample := none } s parser).run l).1 = .ok ()) ∧
    ∀ q : Profile, (∀ kind, kind ∈ q.kinds ↔ kind ∈ p.kinds) →
      (∀ field, field ∈ q.fields ↔ field ∈ p.fields) → q.sample = p.sample →
      (((q.check s parser).run l).1 = .ok () ↔ ((p.check s parser).run l).1 = .ok ()) := by
  have hsample : ∀ sample ∈ p.sample,
      ∃ root, ((parser.parse sample.source).run l).1 = some root := by
    intro sample _
    exact htree sample.source
  refine ⟨?_, ?_, fun q => check_append_eq_ok_iff, fun q => check_eq_ok_congr⟩
  · exact ⟨meets_of_run_eq_ok hsample, run_of_meets⟩
  · intro c
    exact ⟨misses_of_run_eq_error hsample, run_of_misses⟩

section Toy

/-- Tables that are written down with a root turn every text into a tree. -/
theorem exists_parse_written {language : Language} {root : String}
    (hroot : language.root = some root) (text : String) (l : Linker) :
    ∃ found, ((Parser.parse ⟨some (.written language)⟩ text).run l).1 = some found := by
  have hsome : (language.rootKind text).isSome = true := by
    simp [Language.rootKind, hroot]
  exact Option.isSome_iff_exists.mp hsome

/-- A language with words. Its comments are anonymous. -/
def toy : Language :=
  (Language.withRoot? 14 "program" [Symbol.node "word", ⟨"comment", true, false, false⟩]
    ["left"]).get rfl

/-- A profile with a sample that has another root. -/
def otherRoot : Profile :=
  ⟨["program", "word"], ["left"], some ⟨"x", "block"⟩⟩

/-- A profile with kinds and a field that are not there. -/
def otherNames : Profile :=
  ⟨["word", "comment", "block"], ["right"], none⟩

/-- The root of the sample is told only if nothing else is wrong, and of two kinds the first one. -/
theorem check_ends_with_first_miss_toy :
    ((otherRoot.check (.written toy) ⟨some (.written toy)⟩).run Linker.start).1 =
      .error (.wrongRoot "block" "program") ∧
    ((check { otherRoot with
          kinds := otherRoot.kinds ++ otherNames.kinds
          fields := otherRoot.fields ++ otherNames.fields }
        (.written toy) ⟨some (.written toy)⟩).run Linker.start).1 =
      .error (.undefinedKind "comment") := by
  have htree : ∀ text, ∃ root, ((Parser.parse ⟨some (.written toy)⟩ text).run Linker.start).1 =
      some root := by
    intro text
    exact exists_parse_written rfl text Linker.start
  have hkinds : ∀ kind ∈ otherRoot.kinds,
      (LanguageSource.written toy).hasKind Linker.start.memory kind = true := by
    decide
  have hfields : ∀ field ∈ otherRoot.fields,
      (LanguageSource.written toy).hasField Linker.start.memory field = true := by
    decide
  have hne : "program" ≠ "block" := by
    decide
  have hsplit : otherRoot.kinds ++ otherNames.kinds =
      ["program", "word", "word"] ++ "comment" :: ["block"] := by
    rfl
  constructor
  · refine ((check_ends_with_first_miss otherRoot _ _ _ htree).2.1 _).mpr ?_
    exact .root hkinds hfields rfl rfl hne
  · refine ((check_ends_with_first_miss _ _ _ _ htree).2.1 _).mpr ?_
    exact .kind hsplit (by decide) (by decide)

end Toy

end Profile
end GrammarAssay
