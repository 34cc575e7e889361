import GrammarAssay.FileTree

/-!
# Where a path leads

**Input.** A file tree and a path.

**Algorithm.** A walk starts at the root or at the working directory and takes the steps of the path
one by one. A link is replaced by the steps of its target, seen from the directory that holds the
link. At most forty links are followed, so a loop of links leads nowhere. Behind a regular file no
step is possible, not even one that stays. The empty path leads nowhere, and so does one that is too
long to be passed to the system.

**Results.**
* `Obstacle`: why a path leads nowhere.
* `FileTree.resolve`: where a path leads.
* `FileTree.isFile`, `FileTree.entries`: what stands there.
-/

namespace GrammarAssay

/-- Where a path can lead: to a directory, or to a regular file. -/
inductive Spot where
  | directory (location : Location)
  | file (number : Nat) (content : Content)
deriving DecidableEq

/-- Why a path leads nowhere. -/
inductive Obstacle where
  | missing
  | notDirectory
  | tooManyLinks
  | tooLong
deriving DecidableEq

/-- How the system words an obstacle. -/
def Obstacle.reason : Obstacle → String
  | missing => "No such file or directory"
  | notDirectory => "Not a directory"
  | tooManyLinks => "Too many levels of symbolic links"
  | tooLong => "File name too long"

namespace FileTree

/-- Where a walk along a path starts when it is seen from a directory. -/
def startOf (dir : Location) (p : Path) : Location :=
  if p.isAbsolute then [] else dir

/-- How many links a path may lead through. -/
def maxLinks : Nat := 40

/-- How many bytes a path may have. -/
def maxPathLength : Nat := 4095

/-- How many bytes a name may have. -/
def maxNameLength : Nat := 255

/-- Takes steps from a directory. `follow` goes on behind a link. -/
def walk (t : FileTree) (follow : Location → List Step → Except Obstacle Spot) :
    Location → List Step → Except Obstacle Spot
  | dir, [] => .ok (.directory dir)
  | dir, .stay :: rest => walk t follow dir rest
  | dir, .up :: rest => walk t follow dir.dropLast rest
  | dir, .enter n :: rest =>
    if maxNameLength < n.bytes.length then .error .tooLong
    else
      match t.node? (dir ++ [n]) with
      | none => .error .missing
      | some .directory => walk t follow (dir ++ [n]) rest
      | some (.file number c) =>
        if rest.isEmpty then .ok (.file number c) else .error .notDirectory
      | some (.link target) =>
        if target.bytes.isEmpty then .error .missing
        else follow (startOf dir target) (target.steps ++ rest)

/-- Takes steps from a directory and follows at most a number of links. -/
def walkLinks (t : FileTree) : Nat → Location → List Step → Except Obstacle Spot
  | 0 => walk t fun _ _ => .error .tooManyLinks
  | links + 1 => walk t (walkLinks t links)

/-- Where a path leads. -/
def resolve (t : FileTree) (p : Path) : Except Obstacle Spot :=
  if p.bytes.isEmpty then .error .missing
  else if maxPathLength < p.bytes.length then .error .tooLong
  else walkLinks t maxLinks (startOf t.workingDirectory p) p.steps

/-- Does the path lead to a regular file? -/
def isFile (t : FileTree) (p : Path) : Bool :=
  match t.resolve p with
  | .ok (.file _ _) => true
  | _ => false

/-- The entries of the directory that the path leads to. -/
def entries (t : FileTree) (p : Path) : List Name :=
  match t.resolve p with
  | .ok (.directory l) => t.names l
  | _ => []

end FileTree
end GrammarAssay
