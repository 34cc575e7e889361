import GrammarAssay.Linker.OpenFile
import GrammarAssay.Path.Placeholder
import GrammarAssay.Platform

/-!
# Directories in which libraries are looked for

**Input.** A file tree, the name of a library, and a list of directories.

**Algorithm.** Every directory has places for the libraries for fast processors, which are tried first. An
absolute place where the file is not found and that is no directory is passed over from then on. The first
place with a file that opens, or with a broken one, ends the search. So does a directory in which the file
cannot be reached for another reason than that it, or a directory on the way to it, is missing.

**Results.**
* `Linker.directoriesOf`: the directories of a list that is written down in a library.
* `Trail`: how far a search has come.
* `Trail.follow`: the search in a list of directories.
-/

namespace GrammarAssay
namespace Linker

/-- The directory that a piece of a list names: with a slash at its end, or the working directory where
the piece is empty. -/
def directoryOf? (origin : Path) (piece : Bytes) : Option Path :=
  if piece.isEmpty then some ⟨[]⟩
  else
    let b := ((Path.mk piece).expand origin).bytes
    if b.isEmpty then none else some ⟨(b.reverse.dropWhile (· == slash)).reverse ++ [slash]⟩

/-- The directories of a list that stands in a library from the directory `origin`. -/
def directoriesOf (origin : Path) (list : Bytes) : List Path :=
  if list.isEmpty then []
  else ((list.splitOn colon).filterMap (directoryOf? origin)).eraseDups

/-- The places of a directory, with the directory itself at the end. -/
def places (directory : Path) : List Path :=
  (Platform.fastDirectories ++ [""]).map fun s => ⟨directory.bytes ++ Text.Utf8.encode s⟩

end Linker

/-- How far a search has come. -/
structure Trail where
  /-- The places that are passed over. -/
  missing : List Path
  /-- Was there a file for a machine with another width of a word? -/
  sawWordSize : Bool
  /-- Why the file was not found at the last place. -/
  obstacle : Obstacle
  /-- What ended the search. -/
  result : Option (Except String OpenedFile)

namespace Trail

/-- A search that has not begun. -/
def fresh (missing : List Path) : Trail :=
  ⟨missing, false, .missing, none⟩

/-- Is a place passed over? -/
def passes (r : Trail) (place : Path) : Bool :=
  place.isAbsolute && r.missing.contains place

/-- Why a place is no directory. -/
def placeObstacle? (t : FileTree) (place : Path) : Option Obstacle :=
  match t.resolve ⟨place.bytes.dropLast⟩ with
  | .ok (.directory _) => none
  | .ok (.file _ _) => some .notDirectory
  | .error o => some o

/-- Remembers that a file was not found at a place. -/
def note (t : FileTree) (r : Trail) (place : Path) (o : Obstacle) : Trail :=
  let r := { r with obstacle := o }
  if place.isAbsolute then
    match placeObstacle? t place with
    | none => r
    | some o => { r with missing := place :: r.missing, obstacle := o }
  else r

/-- Tries a place. -/
def tryPlace (t : FileTree) (name : Path) (r : Trail) (place : Path) : Trail :=
  if r.result.isSome || r.passes place then r
  else
    match Linker.openFile t ⟨place.bytes ++ name.bytes⟩ with
    | .ok f => { r with result := some (.ok f) }
    | .error (.broken words) => { r with result := some (.error words) }
    | .error .wordSize => { r.note t place .missing with sawWordSize := true }
    | .error (.obstacle o) => r.note t place o

/-- Tries the places of a directory. -/
def tryDirectory (t : FileTree) (name : Path) (r : Trail) (directory : Path) : Trail :=
  (Linker.places directory).foldl (tryPlace t name) r

/-- Does a directory end the search in its list? -/
def stops (r : Trail) (directory : Path) : Bool :=
  r.result.isSome ||
    ((Linker.places directory).any fun p => !r.passes p) && r.obstacle != .missing &&
      r.obstacle != .notDirectory

/-- Searches the directories of a list. -/
def follow (t : FileTree) (name : Path) : Trail → List Path → Trail
  | r, [] => r
  | r, directory :: rest =>
    if r.result.isSome then r
    else
      let r := r.tryDirectory t name directory
      if r.stops directory then r else follow t name r rest

end Trail
end GrammarAssay
