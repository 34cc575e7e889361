import GrammarAssay.FileTree.Resolve
import GrammarAssay.Library

/-!
# Searching directories for libraries

**Input.** A file tree and a list of search paths, the first of which counts most.

**Algorithm.** To locate a grammar, the file name of its library is looked for below one search path
after the other. To list the grammars, the entries of every search path that is a directory are
read; of several libraries of one grammar the first one counts, and the list is sorted by name.

**Results.**
* `Search.locate`: the library of one grammar.
* `Search.discover`: the libraries of all grammars.
* `mem_firstOfName_iff`, `pairwise_firstOfName`: of every name the first library is kept, once.
-/

namespace GrammarAssay
namespace Search

/-- Where a search path would hold the library of a grammar. -/
def candidate (dir : Path) (name : String) : Path :=
  dir.join (Path.ofString (Library.fileName name))

/-- The first regular file with the name of the grammar's library. -/
def locate (t : FileTree) (paths : List Path) (name : String) : Option Path :=
  (paths.map fun dir => candidate dir name).find? t.isFile

/-- A library that was found, with the grammar that its file name tells. -/
structure Found where
  name : String
  path : Path
deriving DecidableEq

/-- The library that a directory entry is, if it is one. -/
def found? (t : FileTree) (dir : Path) (entry : Name) : Option Found :=
  let path := dir.join ⟨entry.bytes⟩
  if t.isFile path then
    (entry.text?.bind Library.grammarName?).map fun name => ⟨name, path⟩
  else none

/-- The libraries in one search path. -/
def inDirectory (t : FileTree) (dir : Path) : List Found :=
  (t.entries dir).filterMap (found? t dir)

/-- The first library of every grammar, in list order. -/
def firstOfName : List Found → List Found
  | [] => []
  | f :: rest => f :: (firstOfName rest).filter fun g => g.name != f.name

/-- What is kept of a list is, for every name, its first library. -/
theorem mem_firstOfName_iff (l : List Found) (f : Found) :
    f ∈ firstOfName l ↔ l.find? (fun g => g.name == f.name) = some f := by
  induction l with
  | nil => simp [firstOfName]
  | cons g rest ih =>
    rw [firstOfName, List.mem_cons, List.mem_filter, List.find?_cons, ih]
    by_cases h : g.name = f.name
    · simp [h, eq_comm]
    · have hne : f ≠ g := fun e => h (e ▸ rfl)
      simp [hne, Ne.symm h, beq_false_of_ne h]

/-- No two kept libraries have one name. -/
theorem pairwise_firstOfName (l : List Found) :
    (firstOfName l).Pairwise fun f g => f.name ≠ g.name := by
  induction l with
  | nil => exact List.Pairwise.nil
  | cons g rest ih =>
    refine List.Pairwise.cons ?_ (ih.filter _)
    intro f hf
    have hf := (List.mem_filter.mp hf).2
    exact Ne.symm (by simpa using hf)

/-- Byte order of grammar names. -/
def nameLe (f g : Found) : Bool :=
  decide (Text.Utf8.encode f.name ≤ Text.Utf8.encode g.name)

/-- The libraries of all grammars, sorted by name. -/
def discover (t : FileTree) (paths : List Path) : List Found :=
  (firstOfName (paths.flatMap (inDirectory t))).mergeSort nameLe

end Search
end GrammarAssay
