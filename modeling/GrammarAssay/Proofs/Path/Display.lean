import GrammarAssay.Proofs.Library.FileName

/-!
# Paths as they are displayed

**Input.** A path, which need not be UTF-8.

**Algorithm.** Every damaged stretch of a path is displayed as U+FFFD. An ASCII byte ends every stretch in front
of it, so what stands behind a slash is displayed by itself, and a name that is UTF-8 is displayed as it is.

**Results.**
* `scan_append_ascii`: what stands in front of an ASCII byte scans by itself.
* `lossy_append_slash`: what stands in front of a slash is displayed by itself.
* `ofString_display_eq_iff`: a displayed path spells the path exactly if the path is UTF-8.
* `fileName?_ofString_display`: it ends in the name in which the path ends, if the name is UTF-8.
* `grammarOfPath?_ofString_display`: so it tells the same grammar.
-/

namespace GrammarAssay
namespace Text.Utf8

section Ascii

variable {b : UInt8} (hb : b.toNat < 0x80)
include hb

theorem admits_ascii {a : Nat} {l : Lead} (hl : lead? a = some l) : l.admits b = false := by
  have hlow : 0x80 ≤ l.low := by
    rcases lead?_eq_some hl with h | h | h <;> omega
  simp only [Lead.admits, Bool.and_eq_false_iff, decide_eq_false_iff_not]
  omega

theorem isTail_ascii : isTail b = false := by
  simp only [isTail, Bool.and_eq_false_iff, decide_eq_false_iff_not]
  omega

/-- What stands in front of an ASCII byte scans by itself. -/
theorem scan_append_ascii (a r : Bytes) : scan (a ++ b :: r) = scan a ++ scan (b :: r) := by
  have htail := isTail_ascii hb
  fun_induction scan a with
  | case1 => rfl
  -- The first bytes are a character.
  | case2 a rest ha ih => simp only [List.cons_append, scan_one ha, ih]
  | case6 a ha l hl c rest hc h1 ih =>
    simp only [List.cons_append, scan_two ha hl (by simpa using hc) h1, ih]
  | case9 a ha l hl c hc h1 d rest hd h2 ih =>
    simp only [List.cons_append, scan_three ha hl (by simpa using hc) h2 (by simpa using hd), ih]
  | case12 a ha l hl c hc h1 d hd h2 e rest he ih =>
    have h3 : l.tails = 3 := by
      rcases lead?_eq_some hl with h | h | h <;> omega
    simp only [List.cons_append,
      scan_four ha hl (by simpa using hc) h3 (by simpa using hd) (by simpa using he), ih]
  -- The first bytes are a damaged stretch that another byte ends.
  | case3 a rest ha hl ih => simp [scan.eq_2 a, ha, hl, ih]
  | case5 a ha l hl c rest hc ih =>
    rw [List.cons_append] at ih
    simp [scan.eq_2 a, ha, hl, hc, ih]
  | case8 a ha l hl c hc h1 d rest hd ih =>
    rw [List.cons_append] at ih
    simp [scan.eq_2 a, ha, hl, hc, h1, hd, ih]
  | case11 a ha l hl c hc h1 d hd h2 e rest he ih =>
    rw [List.cons_append] at ih
    simp [scan.eq_2 a, ha, hl, hc, h1, hd, h2, he, ih]
  -- They are a damaged stretch that the ASCII byte ends.
  | case4 a ha l hl => simp [scan.eq_2 a, ha, hl, admits_ascii hb hl]
  | case7 a ha l hl c hc h1 => simp [scan.eq_2 a, ha, hl, hc, h1, htail]
  | case10 a ha l hl c hc h1 d hd h2 => simp [scan.eq_2 a, ha, hl, hc, h1, hd, h2, htail]

end Ascii

/-- What stands in front of a slash is displayed by itself. -/
theorem lossy_append_slash (a r : Bytes) :
    lossy (a ++ slash :: r) = lossy a ++ "/" ++ lossy r := by
  have hslash : scan (slash :: r) = some '/' :: scan r := scan_one (by decide) r
  rw [← String.toList_inj]
  simp [lossy, scan_append_ascii (show slash.toNat < 0x80 by decide), hslash]

end Text.Utf8

namespace Path

@[simp] theorem display_ofString (text : String) : (ofString text).display = text :=
  Text.Utf8.lossy_encode text

/-- A displayed path spells the path exactly if the path is UTF-8. -/
theorem ofString_display_eq_iff {p : Path} :
    ofString p.display = p ↔ ∃ text, p = ofString text := by
  constructor
  · intro h
    exact ⟨p.display, h.symm⟩
  · rintro ⟨text, rfl⟩
    rw [display_ofString]

/-- A name below a directory stands alone, or behind a slash. -/
theorem bytes_join_name (dir : Path) (n : Name) :
    dir.join ⟨n.bytes⟩ = ⟨n.bytes⟩ ∨ ∃ front, dir.join ⟨n.bytes⟩ = ⟨front ++ slash :: n.bytes⟩ := by
  rw [join_name]
  split
  · next h =>
    rw [Bool.or_eq_true, List.isEmpty_iff, beq_iff_eq] at h
    rcases h with h | h
    · rw [h]
      exact Or.inl rfl
    · obtain ⟨front, hfront⟩ := List.getLast?_eq_some_iff.mp h
      exact Or.inr ⟨front, by rw [hfront, List.append_assoc, List.singleton_append]⟩
  · exact Or.inr ⟨dir.bytes, rfl⟩

/-- What is displayed of a path to a name that is UTF-8 ends in the name. -/
theorem fileName?_ofString_display (dir : Path) {n : Name} {text : String}
    (hn : n.bytes = Text.Utf8.encode text) :
    (ofString (dir.join ⟨n.bytes⟩).display).fileName? = some n := by
  have hname : Text.Utf8.encode (Text.Utf8.lossy n.bytes) = n.bytes := by
    rw [hn, Text.Utf8.lossy_encode]
  have hslash : Text.Utf8.encode "/" = [slash] := by
    decide
  rcases bytes_join_name dir n with h | ⟨front, h⟩
  · rw [h, display, ofString, hname, fileName?, moves_name]
    rfl
  · rw [h, display, ofString, Text.Utf8.lossy_append_slash, Text.Utf8.encode_append,
      Text.Utf8.encode_append, hname, hslash, List.append_assoc, List.singleton_append, fileName?,
      moves_append, moves_name, List.getLast?_concat]

end Path

namespace Search

/-- What is displayed of the path of a library tells the grammar. -/
theorem grammarOfPath?_ofString_display (dir : Path) {name : String} (hne : name ≠ "")
    (hslash : '/' ∉ name.toList) :
    Loader.grammarOfPath? (Path.ofString (candidate dir name).display) = some name := by
  rw [Loader.grammarOfPath?_eq_some_iff, candidate_eq_join dir hslash]
  exact ⟨hne, _, Path.fileName?_ofString_display dir rfl, rfl⟩

end Search
end GrammarAssay
