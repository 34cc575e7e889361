import GrammarAssay.Proofs.Assay.Violation
import GrammarAssay.Report

/-!
# Reports of assays

**Input.** An assay, a file tree, and the libraries in memory when the assay begins.

**Algorithm.** A report tells a handle or a fault, and which of the two it tells can be seen from it. What a
handle tells of its language is read when the assay is over. By then nothing but the parse of the sample can
have changed it since the language was judged, and tables that are written down do not change at all.

**Results.**
* `run_report`: a report tells how its assay ends.
* `grammar_report`: it does so under the name of the assay.
* `report_of_perform_eq`: the reports of two assays that end alike differ in their sources only.
* `keepsTables_of_sample_eq_none`: where no sample is parsed, tables in memory stay as they are.
* `perform_of_passes`: how an assay ends that violates no stage, and the libraries in memory then.
* `tellsPass_report`, `tellsFault_report`: what a report tells in either case.
* `ok_report_iff`: a report tells of a pass exactly if the assay gives a handle.
* `report_tells_outcome`: what a report tells, and what a fault does.
-/

namespace GrammarAssay

/-- A report of an assay that passed, with what the language tells about itself. -/
structure Report.TellsPass (r : Report) (f : Language.Facts) : Prop where
  ok : r.ok = true
  abiVersion : r.abiVersion = some f.version
  nodeKindCount : r.nodeKindCount = some f.nodeKindCount
  fieldCount : r.fieldCount = some f.fieldCount
  error : r.error = none

/-- A report of an assay that failed. -/
structure Report.TellsFault (r : Report) (f : Fault) : Prop where
  ok : r.ok = false
  abiVersion : r.abiVersion = none
  nodeKindCount : r.nodeKindCount = none
  fieldCount : r.fieldCount = none
  error : r.error = some f.message

namespace Assay

variable {t : FileTree} {a b : Assay}

/-- A report tells how its assay ends. -/
theorem run_report (t : FileTree) (a : Assay) (l : Linker) :
    (a.report t).run l =
      match (a.perform t).run l with
      | (.ok h, m) => (.passed h m.memory a.loader.origin, m)
      | (.error f, m) => (.failed a.name a.loader.origin f, m) := by
  unfold report
  rw [StateT.run_bind]
  rcases (a.perform t).run l with ⟨f | h, m⟩
  · rfl
  · rfl

/-- A report has the name of its assay. -/
theorem grammar_report (t : FileTree) (a : Assay) (l : Linker) :
    ((a.report t).run l).1.grammar = a.name := by
  rw [run_report]
  rcases hperform : (a.perform t).run l with ⟨f | h, m⟩
  · rfl
  · have hrun : a.run t l = .ok h := by
      rw [run, hperform]
    exact (passes_of_run_eq_ok hrun).1

/-- A report has the source of its assay. -/
theorem source_report (t : FileTree) (a : Assay) (l : Linker) :
    ((a.report t).run l).1.source = a.loader.origin.display := by
  rw [run_report]
  rcases (a.perform t).run l with ⟨f | h, m⟩
  · rfl
  · rfl

/-- A report of an assay that fails tells its fault. -/
theorem tellsFault_report {l : Linker} {f : Fault} (h : a.run t l = .error f) :
    ((a.report t).run l).1.TellsFault f := by
  rw [run] at h
  rw [run_report]
  rcases hperform : (a.perform t).run l with ⟨fault | handle, m⟩
  · rw [hperform] at h
    cases h
    exact ⟨rfl, rfl, rfl, rfl, rfl⟩
  · rw [hperform] at h
    cases h

/-- The reports of two assays that end alike differ in their sources only. -/
theorem report_of_perform_eq (hname : a.name = b.name) (h : a.perform t = b.perform t)
    (l : Linker) :
    (b.report t).run l =
      ({ ((a.report t).run l).1 with source := b.loader.origin.display },
        ((a.report t).run l).2) := by
  rw [run_report, run_report, h, hname]
  rcases (b.perform t).run l with ⟨f | handle, m⟩
  · rfl
  · rfl

section Passing

variable {l m : Linker} {s : LanguageSource} {library : Option Nat}

/-- The libraries in memory when an assay is over whose language meets the profile: the parse of the sample
can have changed them. -/
def afterSample (a : Assay) (s : LanguageSource) (m : Linker) : Linker :=
  match a.profile.bind Profile.sample with
  | none => m
  | some sample => ((Parser.parse ⟨some s⟩ sample.source).run m).2

/-- Are the tables of a language static: does the code of a library leave them as they are while the sample
is parsed? Only tables in memory could change. -/
def KeepsTables (a : Assay) (s : LanguageSource) (m : Linker) : Prop :=
  ∀ address, s = .stored address →
    Layout.facts (a.afterSample s m).memory address = Layout.facts m.memory address

theorem facts_afterSample (h : a.KeepsTables s m) :
    s.facts (a.afterSample s m).memory = s.facts m.memory := by
  cases s with
  | written language => rfl
  | stored address => exact h address rfl

/-- Without a sample no text is parsed, so that tables in memory are static too. -/
theorem keepsTables_of_sample_eq_none (h : a.profile.bind Profile.sample = none) (s : LanguageSource)
    (m : Linker) : a.KeepsTables s m := by
  intro address _
  rw [afterSample, h]

/-- The check of a profile that is met leaves what the parse of its sample leaves. -/
theorem snd_outcome_checkProfile
    (h : ∀ p, a.profile = some p → ((p.check s ⟨some s⟩).run m).1 = .ok ()) :
    (checkProfile a.profile s ⟨some s⟩).outcome m = (.ok (), a.afterSample s m) := by
  unfold checkProfile afterSample
  cases hp : a.profile with
  | none => rfl
  | some p =>
      have hcheck := h p hp
      rw [Opening.outcome_mk]
      refine Prod.ext hcheck ?_
      rw [Profile.snd_check_of_eq_ok hcheck, Profile.run_checkSample, Option.bind_some]
      cases p.sample with
      | none => rfl
      | some sample => rfl

/-- An assay that violates no stage gives a handle, and only the parse of the sample comes behind the
loader. -/
theorem perform_of_passes (h : a.Passes t l s library m) :
    (a.perform t).run l = (.ok ⟨a.name, s, library⟩, a.afterSample s m) := by
  have hperform : (a.perform t).run l =
      (((a.stages t).outcome l).1.mapError fun cause => ⟨a.name, cause⟩,
        ((a.stages t).outcome l).2) := rfl
  rw [hperform, outcome_stages_of_delivers h.delivers, outcome_judge,
    if_pos ((isSupported_iff _).mpr h.version), if_neg h.nonempty,
    snd_outcome_checkProfile h.profile]
  rfl

/-- A report of an assay that violates no stage tells of the language as it is when the assay is over. -/
theorem tellsPass_report (h : a.Passes t l s library m) :
    ((a.report t).run l).1.TellsPass (s.facts (a.afterSample s m).memory) := by
  rw [run_report, perform_of_passes h]
  exact ⟨rfl, rfl, rfl, rfl, rfl⟩

/-- Tables that are static are still what they were when they were judged. -/
theorem facts_of_passes (h : a.Passes t l s library m) (hkeeps : a.KeepsTables s m) :
    13 ≤ (s.facts (a.afterSample s m).memory).version ∧
      (s.facts (a.afterSample s m).memory).version ≤ 14 ∧
      0 < (s.facts (a.afterSample s m).memory).nodeKindCount := by
  rw [facts_afterSample hkeeps]
  exact ⟨h.version.1, h.version.2, UInt64.pos_iff_ne_zero.mpr h.nonempty⟩

end Passing

/-- A report tells of a pass exactly if the assay gives a handle. -/
theorem ok_report_iff (t : FileTree) (a : Assay) (l : Linker) :
    ((a.report t).run l).1.ok = true ↔ ∃ h, a.run t l = .ok h := by
  rw [run_report, run]
  rcases (a.perform t).run l with ⟨f | h, m⟩
  · simp [Report.failed]
  · simp [Report.passed]

/-- A fault names the grammar of its assay, and its text begins with the name. -/
theorem grammar_of_run_eq_error {l : Linker} {f : Fault} (h : a.run t l = .error f) :
    f.grammar = a.name ∧
      ("Error loading " ++ a.name ++ " grammar: ").toList <+: f.message.toList := by
  obtain ⟨hname, -⟩ := violates_of_run_eq_error h
  refine ⟨hname, f.cause.message.toList, ?_⟩
  rw [← hname, ← String.toList_append]
  rfl

/-- **What a report tells.** A fault names the grammar of its assay. A report has the name and the source of
its assay. If the assay gives a handle, the report has what the handle tells in the memory that the assay
leaves, and no error; the language had a supported version and node kinds when it was judged, and still has
them unless its code changed its own tables. If the assay fails, the report has nothing but the text of the
fault. No report tells both. -/
theorem report_tells_outcome (t : FileTree) (l : Linker) (a : Assay) :
    (∀ f, a.run t l = .error f →
      f.grammar = a.name ∧
        ("Error loading " ++ a.name ++ " grammar: ").toList <+: f.message.toList) ∧
    ((a.report t).run l).1.grammar = a.name ∧
    ((a.report t).run l).1.source = a.loader.origin.display ∧
    ((∃ h m, (a.perform t).run l = (.ok h, a.afterSample h.source m) ∧
        a.Passes t l h.source h.library m ∧
        ((a.report t).run l).1.TellsPass (h.facts (a.afterSample h.source m).memory) ∧
        (a.KeepsTables h.source m →
          13 ≤ (h.facts (a.afterSample h.source m).memory).version ∧
            (h.facts (a.afterSample h.source m).memory).version ≤ 14 ∧
            0 < (h.facts (a.afterSample h.source m).memory).nodeKindCount)) ∨
      ∃ f, a.run t l = .error f ∧ ((a.report t).run l).1.TellsFault f) ∧
    ∀ r : Report, ∀ facts f, r.TellsPass facts → ¬ r.TellsFault f := by
  refine ⟨fun f => grammar_of_run_eq_error, grammar_report t a l, source_report t a l, ?_, ?_⟩
  · rcases violates_or_passes t l a with ⟨c, hviolates⟩ | ⟨s, library, m, hpass⟩
    · have hrun := run_of_violates hviolates
      exact Or.inr ⟨⟨a.name, c⟩, hrun, tellsFault_report hrun⟩
    · exact Or.inl ⟨⟨a.name, s, library⟩, m, perform_of_passes hpass, hpass,
        tellsPass_report hpass, facts_of_passes hpass⟩
  · intro r facts f hpass hfault
    have hok : true = false := hpass.ok.symm.trans hfault.ok
    cases hok

/-- An assay without profile whose entry point returns tables with a root. -/
def rooted : Assay :=
  ⟨"Toy", .entryPoint "toy" (Language.withRoot? 14 "program" [] []), none⟩

theorem report_tells_outcome_rooted :
    ∃ facts : Language.Facts,
      ((rooted.report (.fresh [] ⟨[slash]⟩)).run Linker.start).1.TellsPass facts ∧
        13 ≤ facts.version ∧ facts.version ≤ 14 ∧ 0 < facts.nodeKindCount := by
  obtain ⟨-, -, -, houtcome, -⟩ := report_tells_outcome (.fresh [] ⟨[slash]⟩) Linker.start rooted
  have hsource : ((rooted.run (.fresh [] ⟨[slash]⟩) Linker.start).toOption.map Handle.source) =
      (Language.withRoot? 14 "program" [] []).map .written := by
    rfl
  rcases houtcome with ⟨h, m, -, -, hpass, hrange⟩ | ⟨f, hrun, -⟩
  · exact ⟨_, hpass, hrange (keepsTables_of_sample_eq_none rfl _ _)⟩
  · rw [hrun] at hsource
    cases hsource

end Assay
end GrammarAssay
