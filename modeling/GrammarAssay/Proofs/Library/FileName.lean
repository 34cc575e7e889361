import GrammarAssay.Loader
import GrammarAssay.Path.Join
import GrammarAssay.Text.Utf8.RoundTrip
import Mathlib.Data.List.Basic

/-!
# File names of libraries

**Input.** The name of a grammar, a file name, or a path.

**Results.**
* `mem_encode_iff`: a text has an ASCII character exactly if its bytes have the byte of it.
* `grammarName?_eq_some_iff`: a file name tells a grammar exactly if it is that of its library.
* `nameOf`: the file name of a library as that of a directory entry.
* `grammarOfPath?_eq_some_iff`: a path tells a grammar exactly if it ends in the file name of its library.
* `grammarOfPath?_candidate`: so does the path of a library below a directory.
-/

namespace GrammarAssay
namespace Text.Utf8

/-- A byte below 128 among the bytes of a character tells the character. -/
theorem toNat_eq_of_mem_utf8EncodeChar {c : Char} {b : UInt8}
    (hb : b ∈ String.utf8EncodeChar c) (hlow : b.toNat < 128) : c.toNat = b.toNat := by
  have hv : c.val.toNat < 0xD800 ∨ 0xDFFF < c.val.toNat ∧ c.val.toNat < 0x110000 := c.valid
  show c.val.toNat = b.toNat
  unfold String.utf8EncodeChar at hb
  generalize c.val.toNat = n at *
  simp only at hb
  split at hb
  · rw [List.mem_singleton] at hb
    rw [hb, toNat_byte (by omega)]
  -- The bytes of a longer encoding are all 128 or more.
  · have hlong : ∃ k, 128 ≤ k ∧ k < 256 ∧ b = UInt8.ofNat k := by
      split at hb
      · simp only [List.mem_cons, List.not_mem_nil, or_false] at hb
        rcases hb with rfl | rfl
        · exact ⟨_, by omega, by omega, rfl⟩
        · exact ⟨_, by omega, by omega, rfl⟩
      · split at hb
        · simp only [List.mem_cons, List.not_mem_nil, or_false] at hb
          rcases hb with rfl | rfl | rfl
          · exact ⟨_, by omega, by omega, rfl⟩
          · exact ⟨_, by omega, by omega, rfl⟩
          · exact ⟨_, by omega, by omega, rfl⟩
        · simp only [List.mem_cons, List.not_mem_nil, or_false] at hb
          rcases hb with rfl | rfl | rfl | rfl
          · exact ⟨_, by omega, by omega, rfl⟩
          · exact ⟨_, by omega, by omega, rfl⟩
          · exact ⟨_, by omega, by omega, rfl⟩
          · exact ⟨_, by omega, by omega, rfl⟩
    obtain ⟨k, hk, hk', rfl⟩ := hlong
    rw [toNat_byte hk'] at hlow
    omega

/-- A text has an ASCII character exactly if its bytes have the byte of it. -/
theorem mem_encode_iff {c : Char} (hc : c.toNat < 128) (s : String) :
    UInt8.ofNat c.toNat ∈ encode s ↔ c ∈ s.toList := by
  have hbyte : (UInt8.ofNat c.toNat).toNat = c.toNat := toNat_byte (by omega)
  unfold encode
  rw [List.mem_flatMap]
  constructor
  · rintro ⟨d, hd, hb⟩
    have hdc : d.toNat = c.toNat := by
      rw [toNat_eq_of_mem_utf8EncodeChar hb (by omega), hbyte]
    rwa [← Char.toNat_inj.mp hdc]
  · intro h
    refine ⟨c, h, ?_⟩
    have hone : c.val.toNat ≤ 0x7F := by
      show c.toNat ≤ 0x7F
      omega
    unfold String.utf8EncodeChar
    rw [if_pos hone]
    exact List.mem_singleton.mpr rfl

end Text.Utf8

namespace Library

/-- A file name tells a grammar exactly if it is that of its library. -/
theorem grammarName?_eq_some_iff {file name : String} :
    grammarName? file = some name ↔ name ≠ "" ∧ file = fileName name := by
  have hfile : file = fileName name ↔
      file.toList = fileFront.toList ++ (name.toList ++ fileBack.toList) := by
    rw [← String.toList_inj]
    simp [fileName]
  rw [hfile]
  simp only [grammarName?, Option.bind_eq_bind, Option.bind_eq_some_iff,
    List.isPrefixOf?_eq_some_iff_append_eq, List.isSuffixOf?_eq_some_iff_append_eq]
  constructor
  · rintro ⟨rest, hrest, chars, hchars, hname⟩
    split at hname
    · cases hname
    · next hne =>
        cases hname
        refine ⟨?_, by rw [String.toList_ofList, hchars, hrest]⟩
        intro hempty
        rw [String.ofList_eq_empty_iff] at hempty
        exact hne (by simp [hempty])
  · rintro ⟨hne, hsplit⟩
    refine ⟨_, hsplit.symm, _, rfl, ?_⟩
    have hchars : name.toList ≠ [] := by
      simpa using hne
    simp [hchars]

/-- The file name of a library has a slash exactly if the name of the grammar has one. -/
theorem slash_mem_encode_fileName {name : String} :
    slash ∈ Text.Utf8.encode (fileName name) ↔ '/' ∈ name.toList := by
  have hslash : slash = UInt8.ofNat ('/').toNat := by rfl
  rw [hslash, Text.Utf8.mem_encode_iff (by decide)]
  simp [fileName, fileFront, fileBack]

theorem length_encode_fileName (name : String) :
    3 ≤ (Text.Utf8.encode (fileName name)).length := by
  have hback : (Text.Utf8.encode fileBack).length = 3 := by decide
  unfold fileName
  rw [Text.Utf8.encode_append, List.length_append, hback]
  omega

/-- The file name of a library as that of a directory entry. -/
def nameOf (name : String) (h : '/' ∉ name.toList) : Name where
  bytes := Text.Utf8.encode (fileName name)
  legal := by
    have hlong : ∀ short : Bytes, short.length < 3 → Text.Utf8.encode (fileName name) ≠ short := by
      intro short hshort heq
      have hlength := length_encode_fileName name
      rw [heq] at hlength
      omega
    have hslash : slash ∉ Text.Utf8.encode (fileName name) := by
      rwa [slash_mem_encode_fileName]
    exact ⟨hlong [] (by decide), hlong [dot] (by decide), hlong [dot, dot] (by decide), hslash⟩

theorem eq_nameOf {file : Name} {name : String}
    (h : file.bytes = Text.Utf8.encode (fileName name)) :
    ∃ hslash, file = nameOf name hslash := by
  refine ⟨?_, ?_⟩
  · rw [← slash_mem_encode_fileName, ← h]
    exact file.legal.2.2.2
  · cases file
    cases h
    rfl

end Library

namespace Loader

/-- A directory entry tells a grammar exactly if it is the file of its library. -/
theorem grammarOfName?_eq_some_iff {file : Name} {name : String} :
    file.text?.bind Library.grammarName? = some name ↔
      name ≠ "" ∧ file.bytes = Text.Utf8.encode (Library.fileName name) := by
  rw [Option.bind_eq_some_iff]
  constructor
  · rintro ⟨text, htext, hname⟩
    obtain ⟨hne, rfl⟩ := Library.grammarName?_eq_some_iff.mp hname
    exact ⟨hne, Text.Utf8.decode?_eq_some_iff.mp htext⟩
  · rintro ⟨hne, hbytes⟩
    exact ⟨_, Text.Utf8.decode?_eq_some_iff.mpr hbytes,
      Library.grammarName?_eq_some_iff.mpr ⟨hne, rfl⟩⟩

/-- A path tells a grammar exactly if it ends in the file name of its library. -/
theorem grammarOfPath?_eq_some_iff {path : Path} {name : String} :
    grammarOfPath? path = some name ↔
      name ≠ "" ∧ ∃ file, path.fileName? = some file ∧
        file.bytes = Text.Utf8.encode (Library.fileName name) := by
  unfold grammarOfPath?
  rw [Option.bind_assoc, Option.bind_eq_some_iff]
  simp only [grammarOfName?_eq_some_iff]
  constructor
  · rintro ⟨file, hfile, hne, hbytes⟩
    exact ⟨hne, file, hfile, hbytes⟩
  · rintro ⟨hne, file, hfile, hbytes⟩
    exact ⟨file, hfile, hne, hbytes⟩

end Loader

namespace Search

/-- Where a search path would hold the library of a grammar. -/
theorem candidate_eq_join (dir : Path) {name : String} (h : '/' ∉ name.toList) :
    candidate dir name = dir.join ⟨(Library.nameOf name h).bytes⟩ := by
  rfl

/-- The path of a library below a directory tells the grammar. -/
theorem grammarOfPath?_candidate (dir : Path) {name : String} (hne : name ≠ "")
    (hslash : '/' ∉ name.toList) :
    Loader.grammarOfPath? (candidate dir name) = some name := by
  rw [Loader.grammarOfPath?_eq_some_iff, candidate_eq_join dir hslash]
  exact ⟨hne, _, Path.fileName?_join dir _, rfl⟩

end Search
end GrammarAssay
