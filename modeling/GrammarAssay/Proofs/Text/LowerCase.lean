import GrammarAssay.Proofs.Text.Trim
import GrammarAssay.Text.Casing
import GrammarAssay.Text.Utf8.RoundTrip
import Mathlib.Data.List.Forall2

/-!
# Lower case, place by place

**Input.** Any text.

**Algorithm.** What a character becomes depends on the character, and for the capital sigma on the text before it
and behind it. So the lower case of a text is stated with the whole text before every place, where the scan
carries one truth value. Capital and small letters of ASCII count the same for every sigma, and one character
outside ASCII alone becomes an ASCII letter, the sign for kelvins.

**Results.**
* `SameLetter`, `Recased`: characters and texts that differ at most in the case of ASCII letters.
* `LowerCase`, `lowerCase_iff`: the lower case of a text, and that it is what the scan gives.
* `lowerText_congr`, `Recased.trim`: the case of ASCII letters does not count.
* `StandsFor`, `lowerText_eq_iff`: the texts that become an ASCII text.
-/

namespace GrammarAssay
namespace Text
namespace Casing

section Letters

variable {c d : Char}

/-- One character, or a capital letter of ASCII and its small letter, in either order. -/
def SameLetter (c d : Char) : Prop :=
  c = d ∨ (isAsciiUpper c = true ∧ d.toNat = c.toNat + 32) ∨
    (isAsciiUpper d = true ∧ c.toNat = d.toNat + 32)

instance (c d : Char) : Decidable (SameLetter c d) :=
  inferInstanceAs (Decidable (c = d ∨ (isAsciiUpper c = true ∧ d.toNat = c.toNat + 32) ∨
    (isAsciiUpper d = true ∧ c.toNat = d.toNat + 32)))

theorem isAsciiUpper_iff : isAsciiUpper c = true ↔ 65 ≤ c.toNat ∧ c.toNat ≤ 90 := by
  simp [isAsciiUpper, Char.le_def, UInt32.le_iff_toNat_le]

theorem isAsciiLower_iff : isAsciiLower c = true ↔ 97 ≤ c.toNat ∧ c.toNat ≤ 122 := by
  simp [isAsciiLower, Char.le_def, UInt32.le_iff_toNat_le]

/-- What is the same for a capital letter and its small letter is the same in either order. -/
theorem SameLetter.congr {α : Type} {f : Char → α}
    (hf : ∀ c d, isAsciiUpper c = true → d.toNat = c.toNat + 32 → f c = f d)
    (h : SameLetter c d) : f c = f d := by
  rcases h with rfl | ⟨hc, hd⟩ | ⟨hd, hc⟩
  · rfl
  · exact hf c d hc hd
  · exact (hf d c hd hc).symm

/-- No letter of ASCII is a blank. -/
theorem isBlank_of_letter (h : 65 ≤ c.toNat) (h' : c.toNat ≤ 122) : isBlank c = false := by
  have hranges : ∀ r ∈ blankRanges, r.2 < 65 ∨ 122 < r.1 := by
    decide
  rw [isBlank, inRanges, List.any_eq_false]
  intro r hr
  have hrange := hranges r hr
  rw [Bool.and_eq_true, decide_eq_true_iff, decide_eq_true_iff]
  omega

/-- No letter of ASCII is passed over. -/
theorem isIgnorable_of_letter (h : isAsciiUpper c = true ∨ isAsciiLower c = true) :
    isIgnorable c = false := by
  rw [isAsciiUpper_iff, isAsciiLower_iff] at h
  have hmarks : ∀ n ∈ ['\'', '.', ':', '^', '\x60'].map Char.toNat, n < 65 ∨ 90 < n ∧ n < 97 := by
    decide
  have hlow : c.toNat < 0x80 := by
    omega
  rw [isIgnorable, if_pos hlow, ← Bool.not_eq_true, List.contains_iff_mem]
  intro hmem
  have hmark := hmarks c.toNat (List.mem_map_of_mem hmem)
  omega

theorem isCased_of_letter (h : isAsciiUpper c = true ∨ isAsciiLower c = true) :
    isCased c = true := by
  have hlow : c.toNat < 0x80 := by
    rw [isAsciiUpper_iff, isAsciiLower_iff] at h
    omega
  rw [isCased, if_pos hlow, Bool.or_eq_true]
  exact h

theorem isAsciiLower_of_toNat_eq (hc : isAsciiUpper c = true) (hd : d.toNat = c.toNat + 32) :
    isAsciiLower d = true := by
  rw [isAsciiUpper_iff] at hc
  rw [isAsciiLower_iff]
  omega

theorem SameLetter.isBlank_eq (h : SameLetter c d) : isBlank c = isBlank d := by
  refine h.congr fun c d hc hd => ?_
  rw [isAsciiUpper_iff] at hc
  rw [isBlank_of_letter (by omega) (by omega), isBlank_of_letter (by omega) (by omega)]

theorem SameLetter.isIgnorable_eq (h : SameLetter c d) : isIgnorable c = isIgnorable d := by
  refine h.congr fun c d hc hd => ?_
  rw [isIgnorable_of_letter (Or.inl hc),
    isIgnorable_of_letter (Or.inr (isAsciiLower_of_toNat_eq hc hd))]

theorem SameLetter.isCased_eq (h : SameLetter c d) : isCased c = isCased d := by
  refine h.congr fun c d hc hd => ?_
  rw [isCased_of_letter (Or.inl hc), isCased_of_letter (Or.inr (isAsciiLower_of_toNat_eq hc hd))]

theorem lowerChar_of_isAsciiUpper (hc : isAsciiUpper c = true) :
    lowerChar c = [Char.ofNat (c.toNat + 32)] := by
  have hlow : c.toNat < 0x80 := by
    rw [isAsciiUpper_iff] at hc
    omega
  rw [lowerChar, if_pos hlow, if_pos hc]

theorem lowerChar_of_not_isAsciiUpper (hlow : c.toNat < 0x80) (hc : isAsciiUpper c = false) :
    lowerChar c = [c] := by
  rw [lowerChar, if_pos hlow, hc, if_neg Bool.false_ne_true]

theorem isAsciiUpper_eq_false_of_isAsciiLower (h : isAsciiLower c = true) :
    isAsciiUpper c = false := by
  rw [isAsciiLower_iff] at h
  rw [← Bool.not_eq_true, isAsciiUpper_iff]
  omega

theorem SameLetter.lowerChar_eq (h : SameLetter c d) : lowerChar c = lowerChar d := by
  refine h.congr fun c d hc hd => ?_
  have hsmall := isAsciiLower_of_toNat_eq hc hd
  have hlow : d.toNat < 0x80 := by
    rw [isAsciiLower_iff] at hsmall
    omega
  rw [lowerChar_of_isAsciiUpper hc, ← hd, Char.ofNat_toNat,
    lowerChar_of_not_isAsciiUpper hlow (isAsciiUpper_eq_false_of_isAsciiLower hsmall)]

theorem SameLetter.eq_sigma_iff (h : SameLetter c d) : c = 'Σ' ↔ d = 'Σ' := by
  refine iff_of_eq (h.congr (f := fun c => c = 'Σ') fun c d hc hd => ?_)
  have hsigma : ('Σ').toNat = 931 := by
    decide
  rw [isAsciiUpper_iff] at hc
  rw [eq_iff_iff, ← Char.toNat_inj, ← Char.toNat_inj, hsigma]
  omega

end Letters

section Places

variable {before cs ds skipped rest low : List Char}

/-- Is the nearest character that is not passed over a cased one? -/
def NearCased (cs : List Char) : Prop :=
  ∃ skipped c rest, cs = skipped ++ c :: rest ∧ (∀ d ∈ skipped, isIgnorable d = true) ∧
    isIgnorable c = false ∧ isCased c = true

/-- The lower case of characters behind others. A capital sigma becomes the final one if a cased letter stands
before it and none behind it. -/
inductive Lowers : List Char → List Char → List Char → Prop
  | nil {before : List Char} : Lowers before [] []
  | plain {before after low : List Char} {c : Char} :
      c ≠ 'Σ' →
      Lowers (before ++ [c]) after low →
      Lowers before (c :: after) (lowerChar c ++ low)
  | final {before after low : List Char} :
      NearCased before.reverse →
      ¬ NearCased after →
      Lowers (before ++ ['Σ']) after low →
      Lowers before ('Σ' :: after) ('ς' :: low)
  | medial {before after low : List Char} :
      ¬ (NearCased before.reverse ∧ ¬ NearCased after) →
      Lowers (before ++ ['Σ']) after low →
      Lowers before ('Σ' :: after) ('σ' :: low)

theorem startsCased_iff : startsCased cs = true ↔ NearCased cs := by
  constructor
  · intro h
    unfold startsCased at h
    cases hnear : cs.dropWhile isIgnorable with
    | nil =>
        rw [hnear] at h
        cases h
    | cons c rest =>
        rw [hnear] at h
        have hnot := List.head?_dropWhile_not isIgnorable cs
        rw [hnear] at hnot
        refine ⟨cs.takeWhile isIgnorable, c, rest, ?_, fun d hd => List.mem_takeWhile_imp hd, hnot, h⟩
        rw [← hnear, List.takeWhile_append_dropWhile]
  · rintro ⟨skipped, c, rest, rfl, hskipped, hcounts, hcased⟩
    rw [startsCased, List.dropWhile_append_of_pos hskipped, List.dropWhile_cons, hcounts,
      if_neg Bool.false_ne_true]
    exact hcased

/-- What the scan carries over a character: the nearest cased one is this one, or as before. -/
theorem startsCased_reverse_concat (before : List Char) (c : Char) :
    startsCased (before ++ [c]).reverse =
      if isIgnorable c then startsCased before.reverse else isCased c := by
  rw [List.reverse_append, List.reverse_singleton, List.singleton_append, startsCased,
    List.dropWhile_cons]
  cases isIgnorable c with
  | true => rfl
  | false => rfl

/-- The place of a final sigma, as the scan tells it. -/
theorem isFinal_iff : (startsCased before && !startsCased cs) = true ↔ NearCased before ∧ ¬ NearCased cs := by
  rw [Bool.and_eq_true, Bool.not_eq_true', ← Bool.not_eq_true, startsCased_iff, startsCased_iff]

/-- The scan carries what stands before it. -/
theorem lowers_iff : Lowers before cs low ↔ low = lowerFrom (startsCased before.reverse) cs := by
  constructor
  · intro h
    induction h with
    | nil => rfl
    | plain hc _ ih => rw [lowerFrom, if_neg hc, ih, startsCased_reverse_concat]
    | final hbefore hafter _ ih =>
        rw [lowerFrom, if_pos rfl, if_pos (isFinal_iff.mpr ⟨hbefore, hafter⟩), ih,
          startsCased_reverse_concat]
        rfl
    | medial hplace _ ih =>
        rw [lowerFrom, if_pos rfl, if_neg (mt isFinal_iff.mp hplace), ih, startsCased_reverse_concat]
        rfl
  · rintro rfl
    induction cs generalizing before with
    | nil => exact .nil
    | cons c after ih =>
        have hrest : Lowers (before ++ [c]) after
            (lowerFrom (if isIgnorable c then startsCased before.reverse else isCased c) after) := by
          rw [← startsCased_reverse_concat]
          exact ih
        rw [lowerFrom]
        by_cases hc : c = 'Σ'
        · subst hc
          rw [if_pos rfl]
          by_cases hplace : NearCased before.reverse ∧ ¬ NearCased after
          · rw [if_pos (isFinal_iff.mpr hplace)]
            exact .final hplace.1 hplace.2 hrest
          · rw [if_neg (mt isFinal_iff.mp hplace)]
            exact .medial hplace hrest
        · rw [if_neg hc]
          exact .plain hc hrest

/-- The lower case of a text. -/
def LowerCase (s low : String) : Prop :=
  Lowers [] s.toList low.toList

theorem lowerCase_iff {s low : String} : LowerCase s low ↔ low = lowerText s := by
  rw [LowerCase, lowers_iff, ← String.toList_inj, lowerText, String.toList_ofList]
  rfl

end Places

section Recasing

variable {cs ds : List Char} {s s' : String}

/-- Two texts that differ at most in the case of ASCII letters. -/
def Recased (s s' : String) : Prop :=
  List.Forall₂ SameLetter s.toList s'.toList

instance (s s' : String) : Decidable (Recased s s') :=
  inferInstanceAs (Decidable (List.Forall₂ SameLetter s.toList s'.toList))

/-- What is passed over at the front has the same places in both. -/
theorem forall₂_dropWhile {p : Char → Bool} (hp : ∀ {c d}, SameLetter c d → p c = p d)
    (h : List.Forall₂ SameLetter cs ds) :
    List.Forall₂ SameLetter (cs.dropWhile p) (ds.dropWhile p) := by
  induction h with
  | nil => exact .nil
  | cons hcd hrest ih =>
      rw [List.dropWhile_cons, List.dropWhile_cons, hp hcd]
      split
      · exact ih
      · exact .cons hcd hrest

theorem startsCased_congr (h : List.Forall₂ SameLetter cs ds) : startsCased cs = startsCased ds := by
  have hnear := forall₂_dropWhile SameLetter.isIgnorable_eq h
  unfold startsCased
  generalize cs.dropWhile isIgnorable = near at hnear ⊢
  generalize ds.dropWhile isIgnorable = near' at hnear ⊢
  cases hnear with
  | nil => rfl
  | cons hcd _ => exact hcd.isCased_eq

/-- The case of ASCII letters does not count, for the letters and for every sigma. -/
theorem lowerFrom_congr (h : List.Forall₂ SameLetter cs ds) (afterCased : Bool) :
    lowerFrom afterCased cs = lowerFrom afterCased ds := by
  induction h generalizing afterCased with
  | nil => rfl
  | cons hcd hrest ih =>
      rw [lowerFrom, lowerFrom, ih, startsCased_congr hrest, hcd.lowerChar_eq, hcd.isIgnorable_eq,
        hcd.isCased_eq]
      simp only [hcd.eq_sigma_iff]

theorem lowerText_congr (h : Recased s s') : lowerText s = lowerText s' := by
  rw [lowerText, lowerText, lowerFrom_congr h]

/-- Taking the blanks off goes with changing the case. -/
theorem Recased.trim (h : Recased s s') : Recased (trim s) (trim s') := by
  rw [Recased, toList_trim, toList_trim, trimChars, trimChars, List.forall₂_reverse_iff]
  refine forall₂_dropWhile SameLetter.isBlank_eq ?_
  rw [List.forall₂_reverse_iff]
  exact forall₂_dropWhile SameLetter.isBlank_eq h

end Recasing

section Ascii

variable {c d : Char} {cs ds : List Char}

/-- A character of ASCII that is its own lower case. -/
def IsSmall (d : Char) : Prop :=
  d.toNat < 0x80 ∧ isAsciiUpper d = false

instance (d : Char) : Decidable (IsSmall d) :=
  inferInstanceAs (Decidable (d.toNat < 0x80 ∧ isAsciiUpper d = false))

/-- A character in either case, or the sign for kelvins in the place of a `k`. -/
def StandsFor (c d : Char) : Prop :=
  SameLetter c d ∨ c = '\u212a' ∧ d = 'k'

instance (c d : Char) : Decidable (StandsFor c d) :=
  inferInstanceAs (Decidable (SameLetter c d ∨ c = '\u212a' ∧ d = 'k'))

/-- Outside ASCII, the lower case of the sign for kelvins alone is in ASCII. -/
theorem lowerRuns_outside_ascii :
    ∀ r ∈ lowerRuns, r.first = 0x212a ∧ r.last = 0x212a ∨
      (128 ≤ r.first + r.offset ∧ r.last + r.offset < 0xd800) ∨
      (0xdfff < r.first + r.offset ∧ r.last + r.offset < 0x110000) := by
  decide +kernel

theorem lowerChar_kelvin : lowerChar '\u212a' = ['k'] := by
  decide

/-- Any other character outside ASCII becomes something outside ASCII. -/
theorem exists_mem_lowerChar (hhigh : 0x80 ≤ c.toNat) (hkelvin : c ≠ '\u212a') :
    ∃ d ∈ lowerChar c, 0x80 ≤ d.toNat := by
  rw [lowerChar, if_neg (Nat.not_lt.mpr hhigh)]
  by_cases hdot : c = '\u0130'
  · rw [if_pos hdot]
    exact ⟨'\u0307', by decide, by decide⟩
  · rw [if_neg hdot]
    cases hrun : lowerRuns.find? (·.holds c.toNat) with
    | none => exact ⟨c, List.mem_singleton_self c, hhigh⟩
    | some r =>
        refine ⟨_, List.mem_singleton_self _, ?_⟩
        have hholds := List.find?_some hrun
        simp only [CaseRun.holds, Bool.and_eq_true, decide_eq_true_iff] at hholds
        have hne : c.toNat ≠ 0x212a := by
          intro heq
          exact hkelvin (Char.toNat_inj.mp heq)
        have hvalid : ((c.toNat + r.offset).toNat < 0xd800 ∨
            0xdfff < (c.toNat + r.offset).toNat ∧ (c.toNat + r.offset).toNat < 0x110000) ∧
            0x80 ≤ (c.toNat + r.offset).toNat := by
          have hrange := lowerRuns_outside_ascii r (List.mem_of_find?_eq_some hrun)
          omega
        have hval := Utf8.toNat_ofNat_of_isValidChar hvalid.1
        rw [Char.toNat_val] at hval
        rw [hval]
        exact hvalid.2

/-- A capital sigma becomes none of ASCII, wherever it stands. -/
theorem exists_mem_lowerFrom (hhigh : 0x80 ≤ c.toNat) (hkelvin : c ≠ '\u212a') (afterCased : Bool)
    (cs : List Char) : ∃ d ∈ lowerFrom afterCased (c :: cs), 0x80 ≤ d.toNat := by
  rw [lowerFrom]
  by_cases hsigma : c = 'Σ'
  · rw [if_pos hsigma]
    split
    · exact ⟨'ς', List.mem_cons_self, by decide⟩
    · exact ⟨'σ', List.mem_cons_self, by decide⟩
  · rw [if_neg hsigma]
    obtain ⟨d, hd, hd'⟩ := exists_mem_lowerChar hhigh hkelvin
    exact ⟨d, List.mem_append_left _ hd, hd'⟩

/-- What becomes a small character of ASCII stands for it. -/
theorem standsFor_iff (hd : IsSmall d) : StandsFor c d ↔ lowerChar c = [d] := by
  constructor
  · rintro (hletter | ⟨rfl, rfl⟩)
    · rw [hletter.lowerChar_eq, lowerChar_of_not_isAsciiUpper hd.1 hd.2]
    · exact lowerChar_kelvin
  · intro hlower
    by_cases hlow : c.toNat < 0x80
    · cases hupper : isAsciiUpper c with
      | true =>
          rw [lowerChar_of_isAsciiUpper hupper, List.singleton_inj] at hlower
          rw [isAsciiUpper_iff] at hupper
          have hval := Utf8.toNat_ofNat_of_isValidChar (n := c.toNat + 32) (by omega)
          rw [hlower, Char.toNat_val] at hval
          exact Or.inl (Or.inr (Or.inl ⟨isAsciiUpper_iff.mpr hupper, hval⟩))
      | false =>
          rw [lowerChar_of_not_isAsciiUpper hlow hupper, List.singleton_inj] at hlower
          exact Or.inl (Or.inl hlower)
    · by_cases hkelvin : c = '\u212a'
      · rw [hkelvin, lowerChar_kelvin, List.singleton_inj] at hlower
        exact Or.inr ⟨hkelvin, hlower.symm⟩
      · obtain ⟨k, hk, hhigh⟩ := exists_mem_lowerChar (Nat.not_lt.mp hlow) hkelvin
        rw [hlower, List.mem_singleton] at hk
        have hsmall := hd.1
        rw [hk] at hhigh
        omega

theorem exists_lowerChar_eq (h : c.toNat < 0x80 ∨ c = '\u212a') :
    c ≠ 'Σ' ∧ ∃ k, lowerChar c = [k] := by
  rcases h with hlow | rfl
  · refine ⟨?_, _, by rw [lowerChar, if_pos hlow]⟩
    rintro rfl
    exact absurd hlow (by decide)
  · exact ⟨by decide, 'k', lowerChar_kelvin⟩

theorem ne_sigma_of_lowerChar (hd : IsSmall d) (h : lowerChar c = [d]) : c ≠ 'Σ' := by
  rintro rfl
  have hsigma : lowerChar 'Σ' = ['σ'] := by
    decide
  rw [hsigma, List.singleton_inj] at h
  rw [← h] at hd
  exact absurd hd (by decide)

/-- The characters that become small ones of ASCII, one for each. -/
theorem lowerFrom_eq_iff (hds : ∀ d ∈ ds, IsSmall d) (afterCased : Bool) :
    lowerFrom afterCased cs = ds ↔ List.Forall₂ StandsFor cs ds := by
  induction cs generalizing afterCased ds with
  | nil => rw [lowerFrom, List.forall₂_nil_left_iff, eq_comm]
  | cons c cs ih =>
      constructor
      · intro hlower
        have hascii : c.toNat < 0x80 ∨ c = '\u212a' := by
          by_contra hnot
          rw [not_or, Nat.not_lt] at hnot
          obtain ⟨d, hd, hhigh⟩ := exists_mem_lowerFrom hnot.1 hnot.2 afterCased cs
          rw [hlower] at hd
          have hsmall := (hds d hd).1
          omega
        obtain ⟨hsigma, k, hk⟩ := exists_lowerChar_eq hascii
        rw [lowerFrom, if_neg hsigma, hk, List.singleton_append] at hlower
        subst hlower
        have hrest := (ih (fun d hd => hds d (List.mem_cons_of_mem k hd)) _).mp rfl
        exact .cons ((standsFor_iff (hds k List.mem_cons_self)).mpr hk) hrest
      · intro h
        cases h with
        | @cons _ d _ ds hcd hrest =>
            have hd := hds d List.mem_cons_self
            have hlower := (standsFor_iff hd).mp hcd
            rw [lowerFrom, if_neg (ne_sigma_of_lowerChar hd hlower), hlower, List.singleton_append,
              (ih (fun e he => hds e (List.mem_cons_of_mem d he)) _).mpr hrest]

/-- The texts that become a text of small characters of ASCII. -/
theorem lowerText_eq_iff {s name : String} (hname : ∀ d ∈ name.toList, IsSmall d) :
    lowerText s = name ↔ List.Forall₂ StandsFor s.toList name.toList := by
  rw [← String.toList_inj, lowerText, String.toList_ofList, lowerFrom_eq_iff hname]

end Ascii

end Casing
end Text
end GrammarAssay
