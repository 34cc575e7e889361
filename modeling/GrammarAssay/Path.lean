import GrammarAssay.Text.Utf8

/-!
# Paths

**Input.** A path is a byte string. Slashes separate its pieces.

**Algorithm.** Every piece is a step: an empty piece and `.` stay in the directory reached so far,
`..` goes up, and any other piece enters the entry of that name.

**Results.**
* `Path.steps`: what a walk along the path does.
* `Path.join`: a path below a directory.
* `Path.fileName?`: the name that the path ends in.
* `Path.display`: the path as text.
* `Path.same`: whether two paths have the same components.
-/

namespace GrammarAssay

/-- The byte that separates the pieces of a path. -/
def slash : UInt8 := 0x2F

/-- The byte of a full stop. -/
def dot : UInt8 := 0x2E

/-- The byte that separates the paths of a list. -/
def colon : UInt8 := 0x3A

/-- The name of a directory entry. -/
structure Name where
  bytes : Bytes
  legal : bytes ≠ [] ∧ bytes ≠ [dot] ∧ bytes ≠ [dot, dot] ∧ slash ∉ bytes
deriving DecidableEq

namespace Name

/-- The name with these bytes, if a directory entry can have it. -/
def ofBytes? (b : Bytes) : Option Name :=
  if h : b ≠ [] ∧ b ≠ [dot] ∧ b ≠ [dot, dot] ∧ slash ∉ b then some ⟨b, h⟩ else none

/-- The name as text, if it is UTF-8. -/
def text? (n : Name) : Option String :=
  Text.Utf8.decode? n.bytes

end Name

/-- What one piece of a path does. -/
inductive Step where
  | stay
  | up
  | enter (name : Name)
deriving DecidableEq

/-- The step of a piece between slashes. -/
def Step.ofPiece (piece : Bytes) : Step :=
  match Name.ofBytes? piece with
  | some n => .enter n
  | none => if piece = [dot, dot] then .up else .stay

/-- A path as it is spelled. -/
structure Path where
  bytes : Bytes
deriving DecidableEq

namespace Path

/-- The path that a text spells. -/
def ofString (s : String) : Path :=
  ⟨Text.Utf8.encode s⟩

/-- The path as text, with U+FFFD for what is not UTF-8. -/
def display (p : Path) : String :=
  Text.Utf8.lossy p.bytes

/-- Does the path start at the root? -/
def isAbsolute (p : Path) : Bool :=
  p.bytes.head? == some slash

/-- The pieces between slashes. -/
def pieces (p : Path) : List Bytes :=
  p.bytes.splitOn slash

/-- What a walk along the path does. -/
def steps (p : Path) : List Step :=
  p.pieces.map Step.ofPiece

/-- The steps that lead elsewhere. -/
def moves (p : Path) : List Step :=
  p.steps.filter (· != .stay)

/-- The name that the path ends in; slashes and `.` behind it do not count. -/
def fileName? (p : Path) : Option Name :=
  match p.moves.getLast? with
  | some (.enter n) => some n
  | _ => none

/-- The path `p` seen from the directory `dir`. An absolute `p` stands for itself, and no slash is
put behind an empty path or behind a slash. -/
def join (dir p : Path) : Path :=
  if p.isAbsolute then p
  else if dir.bytes.isEmpty || dir.bytes.getLast? == some slash then ⟨dir.bytes ++ p.bytes⟩
  else ⟨dir.bytes ++ slash :: p.bytes⟩

/-- Where the components of a path hang: from the root, from a leading `.`, or from nothing. -/
inductive Anchor where
  | root
  | here
  | none
deriving DecidableEq

/-- The anchor of a path. -/
def anchor (p : Path) : Anchor :=
  if p.isAbsolute then .root
  else if p.pieces.head? = some [dot] then .here
  else .none

/-- Do two paths have the same components? Repeated slashes, a slash at the end and a `.` that does
not lead are no components. -/
def same (p q : Path) : Bool :=
  p.anchor == q.anchor && p.moves == q.moves

end Path
end GrammarAssay
