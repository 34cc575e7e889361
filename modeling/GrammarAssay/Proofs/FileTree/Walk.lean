import GrammarAssay.FileTree.Resolve
import GrammarAssay.Path.Join

/-!
# Walks to an entry of a directory

**Input.** A path to a directory, and the name of an entry.

**Algorithm.** A walk to the entry first takes the steps of the directory's path. Where it is still on
them it is the walk to the directory, so both go the same way, through the same links. A walk is compared
with the one that takes a step more, once for all such comparisons: by induction on its steps, and behind a
link by induction on the number of links.

**Results.**
* `walkLinks_relates`: how a walk and the same walk with one step more end.
* `walkLinks_enter`: a walk to a file first comes to a directory that holds its name.
* `walkLinks_stay`: a step that stays does not lead away from a directory.
* `mem_entries_of_isFile_join`: a file below a directory is one of its entries.
-/

namespace GrammarAssay
namespace Path

/-- The steps of a name below a directory are those of the directory, perhaps but for a last one that
stays, and then the name. -/
theorem steps_join (dir : Path) (n : Name) (hdir : dir.bytes ≠ []) :
    ∃ steps, (dir.steps = steps ∨ dir.steps = steps ++ [.stay]) ∧
      (dir.join ⟨n.bytes⟩).steps = steps ++ [.enter n] := by
  have hname : steps ⟨n.bytes⟩ = [.enter n] := by
    simp [steps, pieces_name, ofPiece_name]
  have happend : ∀ a b : Bytes, steps ⟨a ++ slash :: b⟩ = steps ⟨a⟩ ++ steps ⟨b⟩ := by
    intro a b
    simp [steps, pieces_append]
  obtain ⟨d⟩ := dir
  rw [join_name]
  by_cases hend : d.getLast? = some slash
  · obtain ⟨front, rfl⟩ := List.getLast?_eq_some_iff.mp hend
    refine ⟨steps ⟨front⟩, Or.inr ?_, ?_⟩
    · rw [happend]
      rfl
    · simp only [List.getLast?_append, List.getLast?_singleton, Option.some_or, beq_self_eq_true,
        Bool.or_true, if_true, List.append_assoc, List.singleton_append]
      rw [happend, hname]
  · refine ⟨steps ⟨d⟩, Or.inl rfl, ?_⟩
    have hopen : ¬ (d.isEmpty || d.getLast? == some slash) = true := by
      simpa [hend] using hdir
    rw [if_neg hopen, happend, hname]

/-- A walk to a name below a directory starts where one to the directory does. -/
theorem startOf_join (start : Location) {dir : Path} (n : Name) (hdir : dir.bytes ≠ []) :
    FileTree.startOf start (dir.join ⟨n.bytes⟩) = FileTree.startOf start dir := by
  obtain ⟨_ | ⟨b, rest⟩⟩ := dir
  · exact absurd rfl hdir
  · rw [join_name]
    split
    · rfl
    · rfl

theorem length_le_length_join (dir : Path) (n : Name) :
    dir.bytes.length ≤ (dir.join ⟨n.bytes⟩).bytes.length := by
  rw [join_name]
  split
  · simp
  · simp

end Path

namespace FileTree

variable (t : FileTree)

/-- A relation between the ends of a walk and of the same walk with one step more. It has to hold if the
walk comes to a directory, whatever becomes of links, and if it comes to nothing or to a file. -/
structure RelatesLastStep (last : Step) (R : Except Obstacle Spot → Except Obstacle Spot → Prop) :
    Prop where
  directory : ∀ follow dir, R (.ok (.directory dir)) (walk t follow dir [last])
  file : ∀ number c, R (.ok (.file number c)) (.error .notDirectory)
  obstacle : ∀ o, R (.error o) (.error o)

variable {last : Step} {R : Except Obstacle Spot → Except Obstacle Spot → Prop}

/-- The relation holds for all walks if it holds for those behind a link. -/
theorem walk_relates (hR : t.RelatesLastStep last R)
    {follow : Location → List Step → Except Obstacle Spot}
    (hfollow : ∀ steps dir, R (follow dir steps) (follow dir (steps ++ [last])))
    (steps : List Step) (dir : Location) :
    R (walk t follow dir steps) (walk t follow dir (steps ++ [last])) := by
  induction steps generalizing dir with
  | nil => exact hR.directory follow dir
  | cons step rest ih =>
      cases step with
      | stay => exact ih dir
      | up => exact ih dir.dropLast
      | enter m =>
          simp only [List.cons_append, walk]
          split
          · exact hR.obstacle _
          · cases t.node? (dir ++ [m]) with
            | none => exact hR.obstacle _
            | some node =>
                cases node with
                | directory => exact ih (dir ++ [m])
                | file number c =>
                    cases rest with
                    | nil => exact hR.file number c
                    | cons next rest => exact hR.obstacle _
                | link target =>
                    simp only
                    split
                    · exact hR.obstacle _
                    · rw [← List.append_assoc]
                      exact hfollow _ _

/-- The relation holds for all walks, however many links they may follow. -/
theorem walkLinks_relates (hR : t.RelatesLastStep last R) (links : Nat) (steps : List Step)
    (dir : Location) :
    R (walkLinks t links dir steps) (walkLinks t links dir (steps ++ [last])) := by
  induction links generalizing steps dir with
  | zero => exact walk_relates t hR (fun _ _ => hR.obstacle _) steps dir
  | succ links ih => exact walk_relates t hR ih steps dir

/-- A walk that enters a name last and comes to a file has come to a directory that holds the name. -/
theorem walkLinks_enter (n : Name) (links : Nat) (steps : List Step) (dir : Location) {number : Nat}
    {c : Content} (h : walkLinks t links dir (steps ++ [.enter n]) = .ok (.file number c)) :
    ∃ l, walkLinks t links dir steps = .ok (.directory l) ∧ n ∈ t.names l := by
  have hrelates : t.RelatesLastStep (.enter n) fun before after =>
      after = .ok (.file number c) → ∃ l, before = .ok (.directory l) ∧ n ∈ t.names l := by
    refine ⟨?_, ?_, ?_⟩
    · intro follow dir h
      refine ⟨dir, rfl, ?_⟩
      rw [mem_names_iff]
      simp only [walk] at h
      split at h
      · cases h
      · cases hnode : t.node? (dir ++ [n]) with
        | none =>
            rw [hnode] at h
            cases h
        | some node => rfl
    · intro number c h
      cases h
    · intro o h
      cases h
  exact walkLinks_relates t hrelates links steps dir h

/-- A step that stays does not lead away from a directory. -/
theorem walkLinks_stay (links : Nat) (steps : List Step) (dir : Location) {l : Location}
    (h : walkLinks t links dir steps = .ok (.directory l)) :
    walkLinks t links dir (steps ++ [.stay]) = .ok (.directory l) := by
  have hrelates : t.RelatesLastStep .stay fun before after =>
      before = .ok (.directory l) → after = .ok (.directory l) := by
    refine ⟨?_, ?_, ?_⟩
    · intro follow dir h
      exact h
    · intro number c h
      cases h
    · intro o h
      cases h
  exact walkLinks_relates t hrelates links steps dir h

variable {t} {dir : Path} {n : Name}

theorem isFile_iff {p : Path} :
    t.isFile p = true ↔ ∃ number c, t.resolve p = .ok (.file number c) := by
  unfold isFile
  constructor
  · intro h
    split at h
    · next number c hresolve => exact ⟨number, c, hresolve⟩
    · cases h
  · rintro ⟨number, c, hresolve⟩
    rw [hresolve]

/-- A file below a directory is one of its entries. -/
theorem mem_entries_of_isFile_join (hdir : dir.bytes ≠ [])
    (h : t.isFile (dir.join ⟨n.bytes⟩) = true) : n ∈ t.entries dir := by
  obtain ⟨number, c, hresolve⟩ := isFile_iff.mp h
  obtain ⟨steps, hsteps, hjoin⟩ := Path.steps_join dir n hdir
  unfold resolve at hresolve
  split at hresolve
  · cases hresolve
  · split at hresolve
    · cases hresolve
    · next hlength =>
        rw [hjoin, Path.startOf_join t.workingDirectory n hdir] at hresolve
        obtain ⟨l, hwalk, hmem⟩ := walkLinks_enter t n maxLinks _ _ hresolve
        have hdirectory : walkLinks t maxLinks (startOf t.workingDirectory dir) dir.steps =
            .ok (.directory l) := by
          rcases hsteps with hsteps | hsteps
          · rw [hsteps, hwalk]
          · rw [hsteps]
            exact walkLinks_stay t maxLinks _ _ hwalk
        have hle := Path.length_le_length_join dir n
        have hresolved : t.resolve dir = .ok (.directory l) := by
          unfold resolve
          rw [if_neg (by simpa using hdir), if_neg (by omega), hdirectory]
        simpa [entries, hresolved] using hmem

end FileTree
end GrammarAssay
