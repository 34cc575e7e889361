import GrammarAssay.Language
import GrammarAssay.Text.Utf8

/-!
# Compiled grammar libraries

**Input.** A grammar called `name` is built into a library with the file name
`libtree-sitter-name.so`, which exports the entry point `tree_sitter_name`, every hyphen of the name
being written as an underscore.

**Results.**
* `Library`, `Filler`, `Content`: what a regular file can hold.
* `Library.fileName`, `Library.grammarName?`: the file name of a grammar, and back.
* `Library.entrySymbol`: the name of the entry point.
* `Library.soughtSymbol?`: the name that a lookup compares.
-/

namespace GrammarAssay

/-- The description of a compiled library: what it exports, and what each of its entry points returns, which
is nothing for a broken build. -/
structure Library where
  exports : List String
  entry : Option Language
deriving DecidableEq

/-- The bytes of a file: a piece and how often it is repeated. They can be those of a compiled library. -/
structure Filler where
  piece : Bytes
  repetitions : Nat
deriving DecidableEq

namespace Filler

/-- The number of bytes. -/
def size (f : Filler) : Nat :=
  f.piece.length * f.repetitions

/-- The byte at an offset; there is none behind the end. -/
def byte? (f : Filler) (offset : Nat) : Option UInt8 :=
  if offset < f.size then f.piece[offset % f.piece.length]? else none

/-- The number that `width` bytes from an offset on write, the lowest byte first. Bytes behind the
end count as zero. -/
def number (f : Filler) (offset : Nat) : Nat → Nat
  | 0 => 0
  | width + 1 => ((f.byte? offset).getD 0).toNat + 256 * f.number (offset + 1) width

end Filler

/-- What a regular file holds: bytes, or a library that is told by its description. -/
inductive Content where
  | filler (bytes : Filler)
  | library (lib : Library)
deriving DecidableEq

namespace Library

/-- How the file name of a library begins. -/
def fileFront : String := "libtree-sitter-"

/-- How the file name of a library ends. -/
def fileBack : String := ".so"

/-- The file name of the library of a grammar. -/
def fileName (name : String) : String :=
  fileFront ++ name ++ fileBack

/-- The grammar whose library has this file name. No grammar has an empty name. -/
def grammarName? (file : String) : Option String := do
  let rest ← fileFront.toList.isPrefixOf? file.toList
  let name ← fileBack.toList.isSuffixOf? rest
  if name.isEmpty then none else some (String.ofList name)

/-- The name of the entry point of a grammar. -/
def entrySymbol (name : String) : String :=
  "tree_sitter_" ++ String.ofList (name.toList.map fun c => if c = '-' then '_' else c)

/-- The name that a lookup compares: one NUL at its end does not count, and a name with a NUL
elsewhere cannot be looked up. -/
def soughtSymbol? (symbol : String) : Option String :=
  let cs := symbol.toList
  let sought := if cs.getLast? = some '\x00' then cs.dropLast else cs
  if sought.contains '\x00' then none else some (String.ofList sought)

end Library
end GrammarAssay
