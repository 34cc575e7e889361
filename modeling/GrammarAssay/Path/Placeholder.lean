import GrammarAssay.Path

/-!
# Placeholders in paths

**Input.** A path that is handed to the loader of libraries, and the directory of the running program.

**Algorithm.** Behind a dollar sign, three names stand for something else: for the directory of the
program, for the kind of the processor, and for the directory of the system's libraries, seen from the
root. A name stands bare, with no letter, digit or underscore behind it, or between braces. The loader
puts what they stand for in their place before it opens anything; a dollar sign with anything else behind
it is kept.

**Results.**
* `Path.expand`: the path that is opened.
* `expandBytes_of_notMem`: a path without a dollar sign is opened as it is spelled.
-/

namespace GrammarAssay

/-- What can stand behind a dollar sign. -/
inductive Placeholder where
  | program
  | processor
  | libraries
deriving DecidableEq

namespace Placeholder

/-- All placeholders. -/
def all : List Placeholder :=
  [program, processor, libraries]

/-- The name of a placeholder. -/
def name : Placeholder → Bytes
  | program => Text.Utf8.encode "ORIGIN"
  | processor => Text.Utf8.encode "PLATFORM"
  | libraries => Text.Utf8.encode "LIB"

/-- What a placeholder stands for in a program from a directory. -/
def value (directory : Path) : Placeholder → Bytes
  | program => directory.bytes
  | processor => Text.Utf8.encode "haswell"
  | libraries => Text.Utf8.encode "lib/x86_64-linux-gnu"

/-- Can a byte prolong a name: is it a letter, a digit or an underscore? -/
def isWordByte (b : UInt8) : Bool :=
  (0x30 ≤ b && b ≤ 0x39) || (0x41 ≤ b && b ≤ 0x5A) || (0x61 ≤ b && b ≤ 0x7A) || b == 0x5F

/-- Do bytes begin with a name between braces? -/
def opensBraced (name b : Bytes) : Bool :=
  (0x7B :: name ++ [0x7D]).isPrefixOf b

/-- Do bytes begin with a name that nothing prolongs? -/
def opensBare (name b : Bytes) : Bool :=
  name.isPrefixOf b && !(b.drop name.length).head?.any isWordByte

/-- How many bytes the placeholder takes that bytes begin with. -/
def length? (p : Placeholder) (b : Bytes) : Option Nat :=
  if opensBraced p.name b then some (p.name.length + 2)
  else if opensBare p.name b then some p.name.length
  else none

/-- The placeholder that bytes begin with, and how many of them it takes. -/
def read? (b : Bytes) : Option (Placeholder × Nat) :=
  all.findSome? fun p => (p.length? b).map fun length => (p, length)

end Placeholder

namespace Path

/-- The byte that placeholders follow. -/
def dollar : UInt8 := 0x24

/-- Passes over a number of bytes, and puts what they stand for in the place of all placeholders
behind them. -/
def expandBytes (directory : Path) : Nat → Bytes → Bytes
  | _, [] => []
  | skipped + 1, _ :: rest => expandBytes directory skipped rest
  | 0, b :: rest =>
    match if b = dollar then Placeholder.read? rest else none with
    | some (p, length) => p.value directory ++ expandBytes directory length rest
    | none => b :: expandBytes directory 0 rest

/-- The path that is opened when a path is handed over by a program from a directory. -/
def expand (p directory : Path) : Path :=
  ⟨expandBytes directory 0 p.bytes⟩

/-- Bytes without a dollar sign are kept. -/
theorem expandBytes_of_notMem (directory : Path) (b : Bytes) (h : dollar ∉ b) :
    expandBytes directory 0 b = b := by
  induction b with
  | nil => rfl
  | cons c rest ih =>
    rw [List.mem_cons, not_or] at h
    simp [expandBytes, Ne.symm h.1, ih h.2]

end Path
end GrammarAssay
