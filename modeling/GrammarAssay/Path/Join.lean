import GrammarAssay.Path

/-!
# Names below directories

**Input.** A directory as it is spelled, and a name.

**Results.**
* `join_name`: a name is joined to a directory behind a slash.
* `moves_join`: the path of a name below a directory first makes the directory's moves and then
  enters the name.
* `fileName?_join`: it ends in the name.
-/

namespace GrammarAssay
namespace Path

/-- A slash between two byte strings separates their pieces. -/
theorem pieces_append (a b : Bytes) :
    pieces ⟨a ++ slash :: b⟩ = pieces ⟨a⟩ ++ pieces ⟨b⟩ :=
  List.splitOn_append_cons_self a b

/-- A name is a piece of its own. -/
theorem pieces_name (n : Name) : pieces ⟨n.bytes⟩ = [n.bytes] :=
  List.splitOn_eq_singleton n.legal.2.2.2

/-- A name enters. -/
theorem ofPiece_name (n : Name) : Step.ofPiece n.bytes = .enter n := by
  simp [Step.ofPiece, Name.ofBytes?, n.legal]

/-- A name on its own is one move. -/
theorem moves_name (n : Name) : moves ⟨n.bytes⟩ = [.enter n] := by
  simp [moves, steps, pieces_name, ofPiece_name]

/-- The moves of two paths with a slash between them. -/
theorem moves_append (a b : Bytes) :
    moves ⟨a ++ slash :: b⟩ = moves ⟨a⟩ ++ moves ⟨b⟩ := by
  simp [moves, steps, pieces_append]

/-- The empty path has no moves. -/
theorem moves_empty : moves ⟨[]⟩ = [] :=
  rfl

/-- A name is joined to a directory, since it is not absolute. -/
theorem join_name (dir : Path) (n : Name) :
    dir.join ⟨n.bytes⟩ =
      if dir.bytes.isEmpty || dir.bytes.getLast? == some slash then ⟨dir.bytes ++ n.bytes⟩
      else ⟨dir.bytes ++ slash :: n.bytes⟩ := by
  have hrel : isAbsolute ⟨n.bytes⟩ = false := by
    obtain ⟨b, hb⟩ := n
    cases b with
    | nil => exact absurd rfl hb.1
    | cons c cs =>
      have : c ≠ slash := fun h => hb.2.2.2 (h ▸ List.mem_cons_self)
      simpa [isAbsolute] using this
  simp [join, hrel]

/-- The path of a name below a directory. -/
theorem moves_join (dir : Path) (n : Name) :
    (dir.join ⟨n.bytes⟩).moves = dir.moves ++ [.enter n] := by
  obtain ⟨d⟩ := dir
  rw [join_name]
  split
  · next h =>
    rw [Bool.or_eq_true, List.isEmpty_iff, beq_iff_eq] at h
    rcases h with h | h
    · subst h
      exact moves_name n
    · obtain ⟨front, rfl⟩ := List.getLast?_eq_some_iff.mp h
      have he : moves ⟨front ++ [slash]⟩ = moves ⟨front⟩ := by
        rw [moves_append, moves_empty, List.append_nil]
      rw [he, List.append_assoc, List.singleton_append, moves_append, moves_name]
  · rw [moves_append, moves_name]

/-- The path of a name below a directory ends in the name. -/
theorem fileName?_join (dir : Path) (n : Name) : (dir.join ⟨n.bytes⟩).fileName? = some n := by
  simp [fileName?, moves_join]

end Path
end GrammarAssay
