import GrammarAssay.FileTree.Resolve

/-!
# Changing a file tree

**Input.** A file tree, a path, and what is to stand there.

**Algorithm.** The directories on the way to the last name are made where nothing stands, and links
to directories are followed. What stood at the last name is replaced, be it a link. A change that
is not possible, because a regular file stands in the way, leaves the tree as it is.

**Results.**
* `FileTree.makeDirectory`, `FileTree.write`, `FileTree.makeLink`, `FileTree.remove`.
-/

namespace GrammarAssay
namespace FileTree

/-- Takes steps from a directory and makes the directories that are missing. -/
def settle : FileTree → Location → List Step → Option (FileTree × Location)
  | t, dir, [] => some (t, dir)
  | t, dir, .stay :: rest => settle t dir rest
  | t, dir, .up :: rest => settle t dir.dropLast rest
  | t, dir, .enter n :: rest =>
    match t.node? (dir ++ [n]) with
    | none => settle (t.put (dir ++ [n]) .directory) (dir ++ [n]) rest
    | some _ =>
      match walkLinks t maxLinks dir [.enter n] with
      | .ok (.directory l) => settle t l rest
      | _ => none

/-- The directory in which the last name of a path stands, with that name. -/
def split? (t : FileTree) (p : Path) : Option (FileTree × Location × Name) :=
  match p.moves.getLast? with
  | some (.enter n) =>
    (settle t (startOf t.workingDirectory p) p.moves.dropLast).map fun r => (r.1, r.2, n)
  | _ => none

/-- Puts a node at the last name of a path. -/
def install (t : FileTree) (p : Path) (node : Node) : FileTree :=
  match t.split? p with
  | some (t, dir, n) => (t.erase (dir ++ [n])).put (dir ++ [n]) node
  | none => t

/-- Makes a directory and the ones above it. -/
def makeDirectory (t : FileTree) (p : Path) : FileTree :=
  match settle t (startOf t.workingDirectory p) p.moves with
  | some (t, _) => t
  | none => t

/-- Puts a new regular file at a path. -/
def write (t : FileTree) (p : Path) (c : Content) : FileTree :=
  { t.install p (.file t.written c) with written := t.written + 1 }

/-- Puts a link at a path. -/
def makeLink (t : FileTree) (p target : Path) : FileTree :=
  t.install p (.link target)

/-- Takes away what stands at a path; of a link, the link itself. -/
def remove (t : FileTree) (p : Path) : FileTree :=
  match t.split? p with
  | some (_, dir, n) => t.erase (dir ++ [n])
  | none => t

end FileTree
end GrammarAssay
