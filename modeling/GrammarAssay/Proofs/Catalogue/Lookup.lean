import GrammarAssay.Catalogue
import GrammarAssay.Proofs.Text.LowerCase

/-!
# What a user may call a built-in grammar

**Input.** A text in which a user names a grammar.

**Algorithm.** The text is compared without the blanks around it and in lower case. No form stands for two
grammars. The forms are small letters and signs of ASCII, so they are met by themselves in any case of ASCII
letters, by the sign for kelvins in the place of a `k`, and by nothing else.

**Results.**
* `ofId_eq_ok_iff`, `ofId_eq_error_iff`: what a lookup gives, by the form that is compared.
* `ofId_id_and_name`: the identifier and the name of a grammar mean it.
* `key_congr`: neither the case of ASCII letters nor blanks around a text count.
* `key_mem_iff_spells`: how the texts are spelled that mean a grammar.
* `ofId_eq_error_empty_iff`: when there is nothing to look up.
* `lookup_ignores_case_and_blanks`: a lookup ignores case and blanks, and nothing else.
-/

namespace GrammarAssay

open Text Text.Casing

/-- Is a text a spelling of a name, character by character? -/
def Spells (s name : String) : Prop :=
  List.Forall₂ StandsFor s.toList name.toList

instance (s name : String) : Decidable (Spells s name) :=
  inferInstanceAs (Decidable (List.Forall₂ StandsFor s.toList name.toList))

namespace LookupFault

theorem unknown_append_ne (key : String) :
    "Unknown compiled-in grammar: " ++ key ≠ "Empty grammar identifier" := by
  have hunknown : "Unknown compiled-in grammar: ".toList.head? = some 'U' := by
    decide
  have hempty : "Empty grammar identifier".toList.head? = some 'E' := by
    decide
  intro heq
  have hhead := congrArg (fun text : String => text.toList.head?) heq
  simp only [String.toList_append, List.head?_append, hunknown, hempty, Option.some_or] at hhead
  exact absurd hhead (by decide)

/-- The text of a failed lookup tells whether there was anything to look up. -/
theorem message_eq_iff {fault : LookupFault} :
    fault.message = "Empty grammar identifier" ↔ fault = .empty := by
  cases fault with
  | empty => exact iff_of_true rfl rfl
  | unknown key =>
      refine iff_of_false (unknown_append_ne key) ?_
      intro h
      cases h

end LookupFault

namespace BuiltIn

theorem mem_all (g : BuiltIn) : g ∈ all := by
  cases g <;> decide

section Finding

variable {s : String} {g : BuiltIn}

/-- A text means the grammar that has its key for an identifier or an alias. -/
theorem ofId_eq_ok_of_mem (h : key s ∈ g.id :: g.aliases) : ofId s = .ok g := by
  -- No key stands for two grammars.
  have hfind : ∀ g ∈ all, ∀ k ∈ g.id :: g.aliases,
      (all.find? fun other => (other.id :: other.aliases).contains k) = some g := by
    decide
  unfold ofId
  rw [hfind g (mem_all g) (key s) h]

/-- A text that has no key of a grammar means none. -/
theorem ofId_of_forall_notMem (h : ∀ g : BuiltIn, key s ∉ g.id :: g.aliases) :
    ofId s = .error (if key s = "" then .empty else .unknown (key s)) := by
  have hnone : (all.find? fun g => (g.id :: g.aliases).contains (key s)) = none := by
    refine List.find?_eq_none.mpr fun g _ => ?_
    rw [List.contains_iff_mem]
    exact h g
  unfold ofId
  rw [hnone, apply_ite Except.error]

theorem ofId_eq_ok_iff : ofId s = .ok g ↔ key s ∈ g.id :: g.aliases := by
  constructor
  · intro h
    by_contra hnot
    by_cases hother : ∃ other : BuiltIn, key s ∈ other.id :: other.aliases
    · obtain ⟨other, hmem⟩ := hother
      rw [ofId_eq_ok_of_mem hmem, Except.ok.injEq] at h
      rw [h] at hmem
      exact hnot hmem
    · rw [ofId_of_forall_notMem (not_exists.mp hother)] at h
      cases h
  · exact ofId_eq_ok_of_mem

theorem ofId_eq_error_iff {fault : LookupFault} :
    ofId s = .error fault ↔
      (∀ g : BuiltIn, key s ∉ g.id :: g.aliases) ∧
        (if key s = "" then .empty else .unknown (key s)) = fault := by
  constructor
  · intro h
    have hnone : ∀ g : BuiltIn, key s ∉ g.id :: g.aliases := by
      intro g hmem
      rw [ofId_eq_ok_of_mem hmem] at h
      cases h
    rw [ofId_of_forall_notMem hnone, Except.error.injEq] at h
    exact ⟨hnone, h⟩
  · rintro ⟨hnone, rfl⟩
    exact ofId_of_forall_notMem hnone

/-- The identifier and the name of a grammar both mean the grammar. -/
theorem ofId_id_and_name (g : BuiltIn) : ofId g.id = .ok g ∧ ofId g.name = .ok g := by
  have hkeys : key g.id ∈ g.id :: g.aliases ∧ key g.name ∈ g.id :: g.aliases := by
    cases g <;> decide +kernel
  exact ⟨ofId_eq_ok_of_mem hkeys.1, ofId_eq_ok_of_mem hkeys.2⟩

end Finding

section Spelling

variable {s s' a b core name : String} {g : BuiltIn}

/-- Neither the case of ASCII letters nor blanks around a text count. -/
theorem key_congr (h : Recased s s') (ha : AllBlank a) (hb : AllBlank b) :
    key (a ++ s' ++ b) = key s := by
  unfold key
  rw [trim_append ha hb, lowerText_congr h.trim]

/-- The forms of names are small letters and signs of ASCII, without blanks. -/
theorem isSmall_of_mem_names (hname : name ∈ g.id :: g.aliases) :
    ∀ d ∈ name.toList, IsSmall d ∧ isBlank d = false := by
  have hnames : ∀ g ∈ all, ∀ name ∈ g.id :: g.aliases,
      (name.toList.all fun d => decide (IsSmall d ∧ isBlank d = false)) = true := by
    decide
  intro d hd
  exact of_decide_eq_true (List.all_eq_true.mp (hnames g (mem_all g) name hname) d hd)

theorem isBlank_of_standsFor {c d : Char} (h : StandsFor c d) (hd : isBlank d = false) :
    isBlank c = false := by
  rcases h with hletter | ⟨rfl, -⟩
  · rw [hletter.isBlank_eq, hd]
  · decide

/-- What stands for characters without a blank has none. -/
theorem isBlank_of_forall₂ {cs ds : List Char} (h : List.Forall₂ StandsFor cs ds)
    (hds : ∀ d ∈ ds, isBlank d = false) : ∀ c ∈ cs, isBlank c = false := by
  induction h with
  | nil => exact List.forall_mem_nil _
  | cons hcd _ ih =>
      rw [List.forall_mem_cons] at hds ⊢
      exact ⟨isBlank_of_standsFor hcd hds.1, ih hds.2⟩

/-- How the texts are spelled that mean a grammar: as one of its names, between blanks. -/
theorem key_mem_iff_spells :
    key s ∈ g.id :: g.aliases ↔
      ∃ a core b name, AllBlank a ∧ AllBlank b ∧ s = a ++ core ++ b ∧
        name ∈ g.id :: g.aliases ∧ Spells core name := by
  constructor
  · intro hmem
    obtain ⟨⟨a, b, ha, hb, hsplit⟩, -, -⟩ := trims_trim s
    refine ⟨a, trim s, b, key s, ha, hb, hsplit, hmem, ?_⟩
    exact (lowerText_eq_iff fun d hd => (isSmall_of_mem_names hmem d hd).1).mp rfl
  · rintro ⟨a, core, b, name, ha, hb, rfl, hmem, hspells⟩
    have hname := isSmall_of_mem_names hmem
    have hcore : trim core = core :=
      trim_eq_self (isBlank_of_forall₂ hspells fun d hd => (hname d hd).2)
    have hkey : key (a ++ core ++ b) = name := by
      rw [key, trim_append ha hb, hcore]
      exact (lowerText_eq_iff fun d hd => (hname d hd).1).mpr hspells
    rwa [hkey]

/-- Nothing is left to compare exactly of blanks. -/
theorem key_eq_empty_iff : key s = "" ↔ AllBlank s := by
  have hempty : ∀ d ∈ "".toList, IsSmall d := by
    rw [String.toList_empty]
    exact List.forall_mem_nil _
  rw [key, lowerText_eq_iff hempty, ← trim_eq_empty_iff]
  show List.Forall₂ StandsFor (trim s).toList [] ↔ trim s = ""
  rw [List.forall₂_nil_right_iff, String.toList_eq_nil_iff]

theorem empty_notMem_names (g : BuiltIn) : "" ∉ g.id :: g.aliases := by
  cases g <;> decide

/-- There is nothing to look up exactly in a text of blanks. -/
theorem ofId_eq_error_empty_iff : ofId s = .error .empty ↔ AllBlank s := by
  rw [ofId_eq_error_iff, ← key_eq_empty_iff]
  constructor
  · rintro ⟨-, hfault⟩
    by_contra hne
    rw [if_neg hne] at hfault
    cases hfault
  · intro hempty
    refine ⟨?_, if_pos hempty⟩
    rw [hempty]
    exact empty_notMem_names

end Spelling

/-- **A lookup ignores case and blanks, and nothing else.** A text has the same outcome, with the same message,
in any case of its ASCII letters and between any blanks. What stands between its blanks is taken in lower case.
The lookup finds a grammar exactly if this is the identifier or an alias of the grammar; there is nothing to look
up exactly in a text of blanks; any other text is told in this form to be unknown. So the identifier and the name
of a grammar mean it in any case and between blanks. The texts that mean a grammar are spelled as its identifier
or an alias between blanks, in any case of ASCII letters, and with the sign for kelvins for any `k`. -/
theorem lookup_ignores_case_and_blanks :
    (∀ s s' a b, Recased s s' → AllBlank a → AllBlank b → ofId (a ++ s' ++ b) = ofId s) ∧
    (∀ s, ∃ core low, Trims s core ∧ LowerCase core low ∧
      (∀ g, ofId s = .ok g ↔ low ∈ g.id :: g.aliases) ∧
      ((∃ fault, ofId s = .error fault ∧ fault.message = "Empty grammar identifier") ↔ AllBlank s) ∧
      (¬ AllBlank s → (∀ g : BuiltIn, low ∉ g.id :: g.aliases) →
        ∃ fault, ofId s = .error fault ∧
          fault.message = "Unknown compiled-in grammar: " ++ low)) ∧
    (∀ (g : BuiltIn) s a b, Recased g.id s ∨ Recased g.name s → AllBlank a → AllBlank b →
      ofId (a ++ s ++ b) = .ok g) ∧
    ∀ s g, ofId s = .ok g ↔
      ∃ a core b name, AllBlank a ∧ AllBlank b ∧ s = a ++ core ++ b ∧
        name ∈ g.id :: g.aliases ∧ Spells core name := by
  have hignores : ∀ s s' a b, Recased s s' → AllBlank a → AllBlank b →
      ofId (a ++ s' ++ b) = ofId s := by
    intro s s' a b hcase ha hb
    unfold ofId
    rw [key_congr hcase ha hb]
  refine ⟨hignores, ?_, ?_, ?_⟩
  · intro s
    refine ⟨trim s, key s, trims_trim s, lowerCase_iff.mpr rfl, fun g => ofId_eq_ok_iff, ?_, ?_⟩
    · simp only [LookupFault.message_eq_iff, exists_eq_right, ofId_eq_error_empty_iff]
    · intro hblank hnone
      refine ⟨.unknown (key s), ?_, rfl⟩
      rw [ofId_of_forall_notMem hnone, if_neg (mt key_eq_empty_iff.mp hblank)]
  · rintro g s a b (hid | hname) ha hb
    · rw [hignores _ _ a b hid ha hb, (ofId_id_and_name g).1]
    · rw [hignores _ _ a b hname ha hb, (ofId_id_and_name g).2]
  · intro s g
    rw [ofId_eq_ok_iff, key_mem_iff_spells]

/-- A name in mixed case between blanks, a name with the sign for kelvins, a text that ends in a capital sigma,
and blanks. -/
theorem lookup_ignores_case_and_blanks_kotlin :
    ofId ("\u3000" ++ "KoTLIN" ++ "\t") = .ok .kotlin ∧
    ofId "\u212aotlin" = .ok .kotlin ∧
    ofId ("" ++ "AΣ" ++ "\n") = ofId "aΣ" ∧
    (∃ fault, ofId "aΣ" = .error fault ∧ fault.message = "Unknown compiled-in grammar: " ++ "aς") ∧
    ∃ fault, ofId "\u0085 " = .error fault ∧ fault.message = "Empty grammar identifier" := by
  obtain ⟨hignores, hlooks, hnames, hspelled⟩ := lookup_ignores_case_and_blanks
  refine ⟨?_, ?_, ?_, ?_, ?_⟩
  · exact hnames .kotlin _ _ _ (Or.inr (by decide)) (by decide) (by decide)
  · exact (hspelled _ _).mpr ⟨"", "\u212aotlin", "", "kotlin", by decide, by decide, by decide, by decide,
      by decide⟩
  · exact hignores _ _ _ _ (by decide) (by decide) (by decide)
  · obtain ⟨core, low, hcore, hlow, -, -, hunknown⟩ := hlooks "aΣ"
    rw [trims_iff] at hcore
    rw [hcore, lowerCase_iff] at hlow
    have hsigma : lowerText (trim "aΣ") = "aς" := by
      decide
    rw [hlow, hsigma] at hunknown
    refine hunknown (by decide) fun g => ?_
    cases g <;> decide
  · obtain ⟨-, -, -, -, -, hempty, -⟩ := hlooks "\u0085 "
    exact hempty.mpr (by decide)

end BuiltIn
end GrammarAssay
