import GrammarAssay.Proofs.Library.FileName

/-!
# Paths of libraries

**Input.** A path, with any bytes, and the name of a grammar.

**Algorithm.** A path is read from its last slash backwards. The piece behind a slash enters the directory
entry of that name, goes up, or stays. A path ends in the name of the last piece that does not stay, unless
that one goes up.

**Results.**
* `moves_append_idle`: what stays may stand behind a path.
* `fileName?_eq_some_iff`: how the paths are spelled that end in a name.
* `ofPath?_eq_some_iff`: the paths that have a loader.
* `fileName_tells_name`: which file names and which paths tell a grammar.
-/

namespace GrammarAssay

open Text.Utf8 (encode)

namespace Path

section Idling

variable {trail : Bytes}

/-- What may stand behind the last name of a path: slashes, each with one stop behind it or none. -/
inductive Idle : Bytes → Prop
  | nil : Idle []
  | slash {rest : Bytes} : Idle rest → Idle (slash :: rest)
  | stop {rest : Bytes} : Idle rest → Idle (slash :: dot :: rest)

theorem Idle.append {more : Bytes} (h : Idle trail) (hmore : Idle more) : Idle (trail ++ more) := by
  induction h with
  | nil => exact hmore
  | slash _ ih => exact .slash ih
  | stop _ ih => exact .stop ih

/-- What stays may stand behind a path. -/
theorem moves_append_idle (front : Bytes) (h : Idle trail) :
    moves ⟨front ++ trail⟩ = moves ⟨front⟩ := by
  induction h generalizing front with
  | nil => rw [List.append_nil]
  | @slash rest _ ih =>
      have hrest : moves ⟨rest⟩ = [] := ih []
      rw [moves_append, hrest, List.append_nil]
  | @stop rest _ ih =>
      have hrest : moves ⟨dot :: rest⟩ = [] := ih [dot]
      rw [moves_append, hrest, List.append_nil]

end Idling

section LastPiece

variable {b piece : Bytes}

/-- What stands behind the last slash. -/
theorem slash_notMem_or_exists_last (b : Bytes) :
    slash ∉ b ∨ ∃ front piece, b = front ++ slash :: piece ∧ slash ∉ piece := by
  by_cases hslash : slash ∈ b
  · obtain ⟨back, front, hsplit, hback⟩ :=
      List.eq_append_cons_of_mem (List.mem_reverse.mpr hslash)
    refine Or.inr ⟨front.reverse, back.reverse, ?_, by simpa using hback⟩
    rw [← List.reverse_reverse b, hsplit]
    simp
  · exact Or.inl hslash

/-- A piece without a slash stays, goes up or enters. -/
theorem moves_piece (h : slash ∉ piece) :
    (piece = [] ∨ piece = [dot]) ∧ moves ⟨piece⟩ = [] ∨
      moves ⟨piece⟩ = [.up] ∨
      ∃ n : Name, piece = n.bytes ∧ moves ⟨piece⟩ = [.enter n] := by
  by_cases hempty : piece = []
  · exact Or.inl ⟨Or.inl hempty, by rw [hempty]; rfl⟩
  by_cases hstop : piece = [dot]
  · exact Or.inl ⟨Or.inr hstop, by rw [hstop]; rfl⟩
  by_cases hup : piece = [dot, dot]
  · exact Or.inr (Or.inl (by rw [hup]; rfl))
  · exact Or.inr (Or.inr ⟨⟨piece, hempty, hstop, hup, h⟩, rfl, moves_name ⟨piece, _⟩⟩)

end LastPiece

section EndsIn

variable {p : Path} {n : Name}

/-- A path that is spelled with this name last: the name stands at the beginning or behind a slash, and what
stands behind it stays. -/
inductive EndsIn : Path → Bytes → Prop
  | alone {last trail : Bytes} : slash ∉ last → Idle trail → EndsIn ⟨last ++ trail⟩ last
  | below {lead last trail : Bytes} :
      slash ∉ last → Idle trail → EndsIn ⟨lead ++ slash :: (last ++ trail)⟩ last

theorem EndsIn.append {b last more : Bytes} (h : EndsIn ⟨b⟩ last) (hmore : Idle more) :
    EndsIn ⟨b ++ more⟩ last := by
  cases h with
  | alone hlast htrail =>
      rw [List.append_assoc]
      exact .alone hlast (htrail.append hmore)
  | below hlast htrail =>
      rw [List.append_assoc, List.cons_append, List.append_assoc]
      exact .below hlast (htrail.append hmore)

theorem fileName?_eq_some_iff_getLast? :
    p.fileName? = some n ↔ p.moves.getLast? = some (.enter n) := by
  unfold fileName?
  cases p.moves.getLast? with
  | none => simp
  | some step =>
      cases step with
      | _ => simp

theorem fileName?_of_endsIn (h : p.EndsIn n.bytes) : p.fileName? = some n := by
  rw [fileName?_eq_some_iff_getLast?]
  cases h with
  | alone _ htrail => rw [moves_append_idle _ htrail, moves_name, List.getLast?_singleton]
  | below _ htrail => rw [moves_append, moves_append_idle _ htrail, moves_name, List.getLast?_concat]

/-- By induction on the length: a last piece that stays is taken off. -/
theorem endsIn_of_fileName? (b : Bytes) (h : fileName? ⟨b⟩ = some n) : EndsIn ⟨b⟩ n.bytes := by
  rw [fileName?_eq_some_iff_getLast?] at h
  rcases slash_notMem_or_exists_last b with hslash | ⟨front, piece, rfl, hslash⟩
  · have halone : EndsIn ⟨b ++ []⟩ b := .alone hslash .nil
    rw [List.append_nil] at halone
    rcases moves_piece hslash with ⟨-, hmoves⟩ | hmoves | ⟨n', rfl, hmoves⟩
    · rw [hmoves] at h
      cases h
    · rw [hmoves] at h
      cases h
    · rw [hmoves] at h
      cases h
      exact halone
  · have hbelow : EndsIn ⟨front ++ slash :: (piece ++ [])⟩ piece := .below hslash .nil
    rw [List.append_nil] at hbelow
    rw [moves_append] at h
    rcases moves_piece hslash with ⟨hpiece, hmoves⟩ | hmoves | ⟨n', rfl, hmoves⟩
    · have hidle : Idle (slash :: piece) := by
        rcases hpiece with rfl | rfl
        · exact .slash .nil
        · exact .stop .nil
      rw [hmoves, List.append_nil, ← fileName?_eq_some_iff_getLast?] at h
      exact (endsIn_of_fileName? front h).append hidle
    · rw [hmoves, List.getLast?_concat] at h
      cases h
    · rw [hmoves, List.getLast?_concat] at h
      cases h
      exact hbelow
termination_by b.length

/-- How the paths are spelled that end in a name. -/
theorem fileName?_eq_some_iff : p.fileName? = some n ↔ p.EndsIn n.bytes := by
  constructor
  · exact endsIn_of_fileName? p.bytes
  · exact fileName?_of_endsIn

theorem EndsIn.slash_notMem {last : Bytes} (h : p.EndsIn last) : slash ∉ last := by
  cases h with
  | alone hlast _ => exact hlast
  | below hlast _ => exact hlast

end EndsIn

end Path

namespace Loader

variable {path : Path} {name : String}

/-- A path tells a grammar exactly if it is spelled with the file name of the library last. -/
theorem grammarOfPath?_eq_some_iff_endsIn :
    grammarOfPath? path = some name ↔
      name ≠ "" ∧ path.EndsIn (encode (Library.fileName name)) := by
  rw [grammarOfPath?_eq_some_iff]
  refine and_congr_right fun _ => ?_
  constructor
  · rintro ⟨file, hfile, hbytes⟩
    rw [← hbytes]
    exact Path.fileName?_eq_some_iff.mp hfile
  · intro hends
    have hslash : '/' ∉ name.toList := by
      rw [← Library.slash_mem_encode_fileName]
      exact hends.slash_notMem
    exact ⟨Library.nameOf name hslash, Path.fileName?_eq_some_iff.mpr hends, rfl⟩

/-- The paths that have a loader, and the loaders that they have. -/
theorem ofPath?_eq_some_iff {l : Loader} :
    ofPath? path = some l ↔
      ∃ name, name ≠ "" ∧ l = .library name path ∧ path.EndsIn (encode (Library.fileName name)) := by
  rw [ofPath?, Option.map_eq_some_iff]
  simp only [grammarOfPath?_eq_some_iff_endsIn]
  constructor
  · rintro ⟨name, ⟨hne, hends⟩, rfl⟩
    exact ⟨name, hne, rfl, hends⟩
  · rintro ⟨name, hne, rfl, hends⟩
    exact ⟨name, ⟨hne, hends⟩, rfl⟩

/-- **What the file name of a library tells.** A file name tells a grammar exactly if the grammar has a name and
this is the file name of its library. Below any directory, the file of a grammar whose name has no slash has a
loader with that name, and its origin is the path as it is spelled. A path has a loader exactly if it is spelled
with the file name of the library last, where only slashes and stops may stand behind it; the loader has the
name that the file name tells and the path as it is spelled. -/
theorem fileName_tells_name :
    (∀ file name, Library.grammarName? file = some name ↔
      name ≠ "" ∧ file = Library.fileName name) ∧
    (∀ (dir : Path) (name : String), name ≠ "" → '/' ∉ name.toList →
      ∃ l, ofPath? (dir.join (.ofString (Library.fileName name))) = some l ∧
        l = .library name (dir.join (.ofString (Library.fileName name))) ∧
        l.origin = .library name (dir.join (.ofString (Library.fileName name)))) ∧
    ∀ path l, ofPath? path = some l ↔
      ∃ name, name ≠ "" ∧ l = .library name path ∧
        path.EndsIn (encode (Library.fileName name)) := by
  refine ⟨fun file name => Library.grammarName?_eq_some_iff, ?_,
    fun path l => ofPath?_eq_some_iff⟩
  intro dir name hne hslash
  have hgrammar : grammarOfPath? (dir.join (.ofString (Library.fileName name))) = some name :=
    Search.grammarOfPath?_candidate dir hne hslash
  refine ⟨_, ?_, rfl, rfl⟩
  rw [ofPath?, hgrammar, Option.map_some]

/-- A name that is itself the end of a file name, below a directory that is not UTF-8 and goes up; a path with
slashes and a stop behind the name; a file name without a name in it. -/
theorem fileName_tells_name_dotSo :
    ofPath? (Path.join ⟨[0xFF, slash, dot, dot]⟩ (.ofString (Library.fileName ".so"))) =
      some (.library ".so" (Path.join ⟨[0xFF, slash, dot, dot]⟩ (.ofString "libtree-sitter-.so.so"))) ∧
    ofPath? (.ofString "/a/libtree-sitter-x.so//./") =
      some (.library "x" (.ofString "/a/libtree-sitter-x.so//./")) ∧
    Library.grammarName? "libtree-sitter-.so" = none := by
  obtain ⟨hcodec, hbelow, hspelled⟩ := fileName_tells_name
  refine ⟨?_, ?_, ?_⟩
  · obtain ⟨l, hl, rfl, -⟩ := hbelow ⟨[0xFF, slash, dot, dot]⟩ ".so" (by decide) (by decide)
    exact hl
  · have hidle : Path.Idle (encode "//./") := .slash (.stop (.slash .nil))
    have hends : Path.EndsIn ⟨encode "/a" ++ slash :: (encode "libtree-sitter-x.so" ++ encode "//./")⟩
        (encode (Library.fileName "x")) :=
      .below (by decide) hidle
    exact (hspelled _ _).mpr ⟨"x", by decide, rfl, hends⟩
  · refine Option.eq_none_iff_forall_ne_some.mpr fun name hname => ?_
    obtain ⟨hne, hfile⟩ := (hcodec _ _).mp hname
    have hlength := congrArg String.length hfile
    rw [Library.fileName, String.length_append, String.length_append] at hlength
    have hname : name.length = 0 := by
      have hfront : Library.fileFront.length = 15 := by decide
      have hback : Library.fileBack.length = 3 := by decide
      have hshort : "libtree-sitter-.so".length = 18 := by decide
      omega
    exact hne (String.length_eq_zero_iff.mp hname)

end Loader
end GrammarAssay
