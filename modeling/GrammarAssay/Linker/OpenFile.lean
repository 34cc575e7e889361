import GrammarAssay.FileTree.Resolve
import GrammarAssay.Library.Image.Header

/-!
# Opening files as libraries

**Input.** A file tree and a path that is tried.

**Algorithm.** The path has to lead to a regular file whose header is right. A file for a machine with
another width of a word, or for another machine altogether, counts as if it were missing. A file that is
broken in another way ends the search for a library.

**Results.**
* `OpenedFile`, `OpenFault`: a file that was opened, and why none was.
* `Linker.openFile`: the file that a path leads to.
-/

namespace GrammarAssay

/-- A file that was opened as a library: the path under which it was, its number, and what it holds. -/
structure OpenedFile where
  path : Path
  number : Nat
  content : Content
deriving DecidableEq

/-- Why a file was not opened. -/
inductive OpenFault where
  | obstacle (o : Obstacle)
  /-- The file is for a machine with another width of a word. -/
  | wordSize
  /-- The file is broken, which ends the search. -/
  | broken (words : String)
deriving DecidableEq

namespace Linker

/-- The words in which a path is refused for a reason. -/
def refusal (path : Path) (reason : String) : String :=
  path.display ++ ": " ++ reason

/-- The words in which a name is refused that leads nowhere. -/
def notFound (name : Path) (o : Obstacle) : String :=
  refusal name ("cannot open shared object file: " ++ o.reason)

/-- What is wrong with the file that a path leads to, as its header tells. -/
def headerFault (path : Path) : ImageFault → OpenFault
  | .wordSize => .wordSize
  | .machine => .obstacle .missing
  | e => .broken (refusal path e.reason)

/-- Looks at the header of what a file holds. -/
def checkHeader (path : Path) : Content → Except OpenFault Unit
  | .library _ => .ok ()
  | .filler bytes =>
    match Header.fault? bytes with
    | none => .ok ()
    | some e => .error (headerFault path e)

/-- Opens the file that a path leads to. -/
def openFile (t : FileTree) (path : Path) : Except OpenFault OpenedFile :=
  match t.resolve path with
  | .error o => .error (.obstacle o)
  | .ok (.directory _) => .error (.broken (refusal path "cannot read file data: Is a directory"))
  | .ok (.file number content) => (checkHeader path content).map fun _ => ⟨path, number, content⟩

end Linker
end GrammarAssay
