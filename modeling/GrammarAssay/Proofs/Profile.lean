import GrammarAssay.Profile

/-!
# Outcomes of a profile's check

**Results.**
* `run_check`, `run_checkSample`: how the check ends, in terms of what it looks up and parses.
* `check_eq_error_iff`: the check fails for want of a kind, for want of a field, or for another root.
* `check_eq_ok_iff`: it succeeds if all kinds and fields are found and the sample has its root.
* `getD_noTree_eq_iff`: a root that is told is the one of a tree, or tells that there is none.
-/

namespace GrammarAssay
namespace Profile

variable (p : Profile) (s : LanguageSource) (parser : Parser) (l : Linker)

/-- How the parse of the sample ends. -/
theorem run_checkSample :
    (p.checkSample parser).run l =
      match p.sample with
      | none => (.ok (), l)
      | some sample =>
        (checkRoot sample ((parser.parse sample.source).run l).1,
          ((parser.parse sample.source).run l).2) := by
  unfold checkSample
  cases p.sample with
  | none => rfl
  | some sample => rfl

/-- How the check ends. -/
theorem run_check :
    (p.check s parser).run l =
      match p.missingKind? l.memory s, p.missingField? l.memory s with
      | some k, _ => (.error (.undefinedKind k), l)
      | none, some f => (.error (.undefinedField f), l)
      | none, none => (p.checkSample parser).run l := by
  unfold check
  rw [StateT.run_bind, StateT.run_get, pure_bind]
  dsimp only
  generalize p.missingKind? l.memory s = kind
  generalize p.missingField? l.memory s = field
  cases kind with
  | some k => rfl
  | none =>
      cases field with
      | some f => rfl
      | none => rfl

variable {p s parser l}

theorem checkRoot_eq_error_iff {sample : Sample} {root : Option String} {c : Cause} :
    checkRoot sample root = .error c ↔
      root.getD noTree ≠ sample.rootKind ∧ c = .wrongRoot sample.rootKind (root.getD noTree) := by
  simp only [checkRoot]
  split
  · next h => simp [h]
  · next h => simp [h, eq_comm]

theorem checkSample_eq_error_iff {c : Cause} :
    ((p.checkSample parser).run l).1 = .error c ↔
      ∃ sample, p.sample = some sample ∧
        checkRoot sample ((parser.parse sample.source).run l).1 = .error c := by
  rw [run_checkSample]
  cases p.sample with
  | none => simp
  | some sample => simp

/-- The check fails for want of a kind, or else for want of a field, or else for another root. -/
theorem check_eq_error_iff {c : Cause} :
    ((p.check s parser).run l).1 = .error c ↔
      (∃ kind, p.missingKind? l.memory s = some kind ∧ c = .undefinedKind kind) ∨
      p.missingKind? l.memory s = none ∧
        ((∃ field, p.missingField? l.memory s = some field ∧ c = .undefinedField field) ∨
        p.missingField? l.memory s = none ∧ ∃ sample, p.sample = some sample ∧
          checkRoot sample ((parser.parse sample.source).run l).1 = .error c) := by
  rw [run_check, ← checkSample_eq_error_iff]
  cases hkind : p.missingKind? l.memory s with
  | some kind => simp [eq_comm]
  | none =>
      cases hfield : p.missingField? l.memory s with
      | some field => simp [eq_comm]
      | none => simp

theorem cause_of_check {c : Cause} (h : ((p.check s parser).run l).1 = .error c) :
    (∃ kind, c = .undefinedKind kind) ∨ (∃ field, c = .undefinedField field) ∨
      ∃ expected found, c = .wrongRoot expected found := by
  rcases check_eq_error_iff.mp h with
    ⟨kind, -, hc⟩ | ⟨-, ⟨field, -, hc⟩ | ⟨-, sample, -, hroot⟩⟩
  · exact Or.inl ⟨kind, hc⟩
  · exact Or.inr (Or.inl ⟨field, hc⟩)
  · exact Or.inr (Or.inr ⟨_, _, (checkRoot_eq_error_iff.mp hroot).2⟩)

theorem missingKind?_eq_none_iff {m : Memory} :
    p.missingKind? m s = none ↔ ∀ kind ∈ p.kinds, s.hasKind m kind = true := by
  simp [missingKind?]

theorem missingField?_eq_none_iff {m : Memory} :
    p.missingField? m s = none ↔ ∀ field ∈ p.fields, s.hasField m field = true := by
  simp [missingField?]

/-- A root or the text for a missing tree. The text can be the required root too. -/
theorem getD_noTree_eq_iff {root : Option String} {kind : String} :
    root.getD noTree = kind ↔ root = some kind ∨ root = none ∧ kind = noTree := by
  cases root with
  | none => simp [eq_comm]
  | some root => simp

theorem getD_noTree_eq_iff_of_ne {root : Option String} {kind : String} (h : kind ≠ noTree) :
    root.getD noTree = kind ↔ root = some kind := by
  simp [getD_noTree_eq_iff, h]

theorem checkRoot_eq_ok_iff {sample : Sample} {root : Option String} :
    checkRoot sample root = .ok () ↔ root.getD noTree = sample.rootKind := by
  simp only [checkRoot]
  split
  · next h => exact iff_of_true rfl h
  · next h => exact iff_of_false (by simp) h

/-- The check of the sample succeeds if its tree has the required root. -/
theorem checkSample_eq_ok_iff :
    ((p.checkSample parser).run l).1 = .ok () ↔
      ∀ sample, p.sample = some sample →
        ((parser.parse sample.source).run l).1.getD noTree = sample.rootKind := by
  rw [run_checkSample]
  cases p.sample with
  | none => simp
  | some sample => simp [checkRoot_eq_ok_iff]

/-- The check succeeds if all kinds and fields are found and the tree of the sample has the required root. -/
theorem check_eq_ok_iff :
    ((p.check s parser).run l).1 = .ok () ↔
      (∀ kind ∈ p.kinds, s.hasKind l.memory kind = true) ∧
      (∀ field ∈ p.fields, s.hasField l.memory field = true) ∧
      ∀ sample, p.sample = some sample →
        ((parser.parse sample.source).run l).1.getD noTree = sample.rootKind := by
  rw [run_check, ← missingKind?_eq_none_iff, ← missingField?_eq_none_iff, ← checkSample_eq_ok_iff]
  cases hkind : p.missingKind? l.memory s with
  | some kind => simp
  | none =>
      cases hfield : p.missingField? l.memory s with
      | some field => simp
      | none => simp

/-- When the check succeeds, only the parse of the sample has changed anything. -/
theorem snd_check_of_eq_ok (h : ((p.check s parser).run l).1 = .ok ()) :
    ((p.check s parser).run l).2 = ((p.checkSample parser).run l).2 := by
  rw [run_check] at h ⊢
  split at h
  · cases h
  · cases h
  · rfl

end Profile
end GrammarAssay
