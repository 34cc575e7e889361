import GrammarAssay.Library
import GrammarAssay.Path

/-!
# File trees

**Input.** A file tree lists what stands at which location. A location is the list of names that
leads to it from the root; the root is always a directory.

**Results.**
* `FileTree.node?`: what stands at a location.
* `FileTree.names`: the entries of a directory.
* `FileTree.put`, `FileTree.erase`: the changes at a location.
* `node?_put`: what stands where after a change.
* `mem_names_iff`: a directory lists the names below which something stands.
-/

namespace GrammarAssay

/-- What stands at a location. Every regular file has a number of its own, which no file before or after
it has. -/
inductive Node where
  | directory
  | file (number : Nat) (content : Content)
  | link (target : Path)
deriving DecidableEq

/-- The names that lead from the root to a node. -/
abbrev Location := List Name

/-- The files that a run can see, the directory in which it works, the one from which its program was
started, and how many files were written so far. -/
structure FileTree where
  workingDirectory : Location
  programDirectory : Path
  nodes : List (Location × Node)
  written : Nat
deriving DecidableEq

namespace FileTree

/-- The locations passed on the way from the root to a location, the root left out. -/
def passed : Location → List Location
  | [] => []
  | n :: rest => [n] :: (passed rest).map (n :: ·)

/-- A tree that holds nothing but its working directory. -/
def fresh (workingDirectory : Location) (programDirectory : Path) : FileTree :=
  ⟨workingDirectory, programDirectory, (passed workingDirectory).map fun l => (l, .directory), 0⟩

/-- What stands at a location. -/
def node? (t : FileTree) (l : Location) : Option Node :=
  if l.isEmpty then some .directory else t.nodes.lookup l

/-- The name under which a directory holds a location. -/
def entryOf? (dir l : Location) : Option Name :=
  if l.dropLast = dir then l.getLast? else none

/-- The names that stand directly below a location. -/
def names (t : FileTree) (dir : Location) : List Name :=
  t.nodes.filterMap fun e => entryOf? dir e.1

/-- Puts a node at a location, in the place of what stood there. -/
def put (t : FileTree) (l : Location) (n : Node) : FileTree :=
  { t with nodes := (l, n) :: t.nodes.filter fun e => e.1 != l }

/-- Takes away what stands at a location and below it. -/
def erase (t : FileTree) (l : Location) : FileTree :=
  { t with nodes := t.nodes.filter fun e => !l.isPrefixOf e.1 }

/-- A directory lists the names below which something stands. -/
theorem mem_names_iff (t : FileTree) (dir : Location) (n : Name) :
    n ∈ t.names dir ↔ (t.node? (dir ++ [n])).isSome := by
  have he : (dir ++ [n]).isEmpty = false := by simp
  simp only [names, node?, he, Bool.false_eq_true, if_false, List.mem_filterMap]
  induction t.nodes with
  | nil => simp
  | cons e rest ih =>
    obtain ⟨k, m⟩ := e
    by_cases hk : dir ++ [n] = k
    · subst hk
      simp [entryOf?]
    · rw [List.lookup_cons, beq_false_of_ne hk]
      have hn : entryOf? dir k ≠ some n := by
        intro h
        unfold entryOf? at h
        split at h
        · next hd =>
          obtain ⟨front, rfl⟩ := List.getLast?_eq_some_iff.mp h
          rw [List.dropLast_concat] at hd
          exact hk (by rw [hd])
        · contradiction
      simp [hn, ih]

end FileTree
end GrammarAssay
