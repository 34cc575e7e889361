import GrammarAssay.Text.Blank
import Mathlib.Data.List.DropRight

/-!
# Texts without the blanks around them

**Input.** Any text.

**Algorithm.** What stands between the blanks at the two ends of a text is stated by a split of the text. The
blanks are taken off from the front, and then from the back of what is left.

**Results.**
* `AllBlank`, `Trims`: a text of blanks only, and what stands between the blanks of a text.
* `trimChars_split`: what stands between blanks is what is left.
* `trims_iff`: a text has one such part.
* `trim_append`: blanks around a text do not count.
* `trim_eq_empty_iff`: nothing is left exactly of blanks.
-/

namespace GrammarAssay
namespace Text

/-- Does a text consist of blanks only? -/
def AllBlank (s : String) : Prop :=
  ∀ c ∈ s.toList, isBlank c = true

-- By name: a search may find the instance that goes through all characters there are.
instance (s : String) : Decidable (AllBlank s) :=
  List.decidableBAll (fun c => isBlank c = true) s.toList

/-- What stands in a text between blanks, and neither begins nor ends with one. -/
structure Trims (s core : String) : Prop where
  split : ∃ a b, AllBlank a ∧ AllBlank b ∧ s = a ++ core ++ b
  opens : ∀ c, core.toList.head? = some c → isBlank c = false
  closes : ∀ c, core.toList.getLast? = some c → isBlank c = false

section Characters

variable {cs front back : List Char}

theorem dropWhile_isBlank_of_opens (h : ∀ c, cs.head? = some c → isBlank c = false) :
    cs.dropWhile isBlank = cs := by
  cases cs with
  | nil => rfl
  | cons c rest => simp [h c rfl]

/-- What stands between blanks is what is left. -/
theorem trimChars_split (hfront : ∀ c ∈ front, isBlank c = true)
    (hback : ∀ c ∈ back, isBlank c = true)
    (hopens : ∀ c, cs.head? = some c → isBlank c = false)
    (hcloses : ∀ c, cs.getLast? = some c → isBlank c = false) :
    trimChars (front ++ cs ++ back) = cs := by
  have hback' : ∀ c ∈ back.reverse, isBlank c = true := by
    intro c hc
    exact hback c (List.mem_reverse.mp hc)
  have hend : cs.reverse.dropWhile isBlank = cs.reverse := by
    refine dropWhile_isBlank_of_opens ?_
    rw [List.head?_reverse]
    exact hcloses
  have hleft : (cs ++ back).dropWhile isBlank = cs ++ back ∨ cs = [] := by
    cases cs with
    | nil => exact Or.inr rfl
    | cons c rest => exact Or.inl (dropWhile_isBlank_of_opens hopens)
  rw [trimChars, List.append_assoc, List.dropWhile_append_of_pos hfront]
  rcases hleft with hleft | rfl
  · rw [hleft, List.reverse_append, List.dropWhile_append_of_pos hback', hend, List.reverse_reverse]
  · rw [List.nil_append, List.dropWhile_eq_nil_iff.mpr hback]
    rfl

/-- What is left stands between blanks. -/
theorem exists_split_trimChars (cs : List Char) :
    ∃ front back, (∀ c ∈ front, isBlank c = true) ∧ (∀ c ∈ back, isBlank c = true) ∧
      cs = front ++ trimChars cs ++ back := by
  refine ⟨cs.takeWhile isBlank, (cs.dropWhile isBlank).rtakeWhile isBlank,
    fun c hc => List.mem_takeWhile_imp hc, fun c hc => List.mem_rtakeWhile_imp hc, ?_⟩
  have hleft : trimChars cs = (cs.dropWhile isBlank).rdropWhile isBlank := by
    rfl
  rw [hleft, List.append_assoc, List.rdropWhile_append_rtakeWhile, List.takeWhile_append_dropWhile]

theorem opens_dropWhile (cs : List Char) (c : Char)
    (h : (cs.dropWhile isBlank).head? = some c) : isBlank c = false := by
  have hnot := List.head?_dropWhile_not isBlank cs
  rw [h] at hnot
  exact hnot

theorem opens_trimChars (cs : List Char) (c : Char) (h : (trimChars cs).head? = some c) :
    isBlank c = false := by
  obtain ⟨rest, hrest⟩ : trimChars cs <+: cs.dropWhile isBlank := List.rdropWhile_prefix _ _
  refine opens_dropWhile cs c ?_
  rw [← hrest, List.head?_append, h, Option.some_or]

theorem closes_trimChars (cs : List Char) (c : Char) (h : (trimChars cs).getLast? = some c) :
    isBlank c = false := by
  rw [trimChars, List.getLast?_reverse] at h
  exact opens_dropWhile _ c h

end Characters

section Texts

variable {s core a b : String}

theorem toList_trim (s : String) : (trim s).toList = trimChars s.toList := by
  rw [trim, String.toList_ofList]

theorem trims_trim (s : String) : Trims s (trim s) := by
  obtain ⟨front, back, hfront, hback, hsplit⟩ := exists_split_trimChars s.toList
  refine ⟨⟨String.ofList front, String.ofList back, ?_, ?_, ?_⟩, ?_, ?_⟩
  · rwa [AllBlank, String.toList_ofList]
  · rwa [AllBlank, String.toList_ofList]
  · rw [← String.toList_inj, String.toList_append, String.toList_append, toList_trim,
      String.toList_ofList, String.toList_ofList]
    exact hsplit
  · rw [toList_trim]
    exact opens_trimChars s.toList
  · rw [toList_trim]
    exact closes_trimChars s.toList

/-- A text has one part that stands between its blanks. -/
theorem trims_iff : Trims s core ↔ core = trim s := by
  constructor
  · rintro ⟨⟨a, b, ha, hb, rfl⟩, hopens, hcloses⟩
    rw [← String.toList_inj, toList_trim, String.toList_append, String.toList_append,
      trimChars_split ha hb hopens hcloses]
  · rintro rfl
    exact trims_trim s

theorem AllBlank.append (ha : AllBlank a) (hb : AllBlank b) : AllBlank (a ++ b) := by
  intro c hc
  rw [String.toList_append, List.mem_append] at hc
  rcases hc with hc | hc
  · exact ha c hc
  · exact hb c hc

/-- Blanks around a text do not count. -/
theorem trim_append (ha : AllBlank a) (hb : AllBlank b) (s : String) : trim (a ++ s ++ b) = trim s := by
  obtain ⟨⟨front, back, hfront, hback, hsplit⟩, hopens, hcloses⟩ := trims_trim s
  have htrims : Trims (a ++ s ++ b) (trim s) := by
    refine ⟨⟨a ++ front, back ++ b, ha.append hfront, hback.append hb, ?_⟩, hopens, hcloses⟩
    calc a ++ s ++ b = a ++ (front ++ trim s ++ back) ++ b := by rw [← hsplit]
      _ = a ++ front ++ trim s ++ (back ++ b) := by simp only [String.append_assoc]
  exact (trims_iff.mp htrims).symm

/-- A text without blanks is left as it is. -/
theorem trim_eq_self (h : ∀ c ∈ s.toList, isBlank c = false) : trim s = s := by
  refine (trims_iff.mp ⟨⟨"", "", ?_, ?_, ?_⟩, ?_, ?_⟩).symm
  · decide
  · decide
  · rw [String.empty_append, String.append_empty]
  · exact fun c hc => h c (List.mem_of_head? hc)
  · exact fun c hc => h c (List.mem_of_getLast? hc)

/-- Nothing is left exactly of blanks. -/
theorem trim_eq_empty_iff : trim s = "" ↔ AllBlank s := by
  constructor
  · intro hempty
    obtain ⟨⟨a, b, ha, hb, hsplit⟩, -, -⟩ := trims_trim s
    rw [hsplit, hempty, String.append_empty]
    exact ha.append hb
  · intro hblank
    have hpadded := trim_append hblank (by decide : AllBlank "") ""
    rw [String.append_empty, String.append_empty] at hpadded
    rw [hpadded]
    rfl

end Texts

end Text
end GrammarAssay
