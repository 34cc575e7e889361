import GrammarAssay.Library.Image
import GrammarAssay.Library.Image.SymbolTable
import GrammarAssay.Path.Placeholder
import GrammarAssay.Platform
import GrammarAssay.Processor.Call

/-!
# The linker

**Input.** The libraries that a program holds in memory.

**Algorithm.** A library in memory has a number, all the names under which it was asked for, the number of
its file, and the libraries that it needs. One that was asked for by itself has a scope too: itself and
all that it needs. The program counts as the first library. It has no name, but stands also for the
libraries that it was started with. A described library has an address for each of its exports, and one
for the language that they return.

**Results.**
* `Module`, `Linker`: a library in memory, and all of them.
* `Module.define?`: what a name means in a library.
* `Linker.start`: the libraries of a program that has opened none.
* `Linker.named?`, `Linker.ofFile?`: the library with a name, or from a file.
* `Linker.look`: what a name stands for in a list of libraries.
* `Linker.kept`: what stays when only some libraries are held.
-/

namespace GrammarAssay

/-- What a library in memory consists of. -/
inductive Body where
  | described (lib : Library)
  /-- A compiled library: its link table, the segment that is sealed, and the data that every thread has
  for itself. -/
  | image (table : LinkTable) (sealed threadData : Option Segment)
deriving DecidableEq

/-- A library in memory. -/
structure Module where
  number : Nat
  /-- The path under which its file was opened. -/
  path : Path
  /-- The names under which it was asked for. -/
  names : List Path
  /-- The number of its file. -/
  file : Option Nat
  base : UInt64
  body : Body
  /-- The directory in which its file was found; of the program the file tree tells where it was started. -/
  directory : Path
  /-- The library that needed it first. -/
  user : Option Nat
  needs : List Nat
  /-- The libraries in which its symbols are looked up, if it was asked for by itself. -/
  scope : List Nat
deriving DecidableEq

/-- What a symbol leads to. -/
structure Binding where
  address : UInt64
  size : UInt64
  /-- Is it code that finds the code to call? -/
  isIndirect : Bool
  /-- Does the name stand for the same in all libraries? -/
  isUnique : Bool
deriving DecidableEq

namespace Module

/-- How far the exports of a described library are apart. -/
def stride : UInt64 := 16

/-- How much of the memory a described library takes for its exports. -/
def exportRoom : UInt64 := 0x1000000

/-- The address of an export of a described library. -/
def exportAddress (m : Module) (index : Nat) : UInt64 :=
  m.base + stride * UInt64.ofNat (index + 1)

/-- The address of the language that a described library returns. -/
def languageAddress (m : Module) : UInt64 :=
  m.base + exportRoom

/-- What a described library returns, if an address is that of its language. -/
def languageAt? (m : Module) (address : UInt64) : Option (Option Language) :=
  match m.body with
  | .described lib => if address = m.languageAddress then some lib.entry else none
  | .image _ _ _ => none

/-- The link table of the library, if it is compiled. -/
def table? (m : Module) : Option LinkTable :=
  match m.body with
  | .described _ => none
  | .image t _ _ => some t

/-- What a symbol of the library leads to. -/
def bindingOf (t : LinkTable) (e : SymbolEntry) : Binding :=
  { address := SymbolTable.addressOf t e
    size := e.size
    isIndirect := e.kind == SymbolEntry.indirect && e.part != SymbolEntry.nowhere
    isUnique := e.isUnique }

/-- What a name means in the library. -/
def define? (memory : Memory) (m : Module) (name : Bytes) (isCall : Bool) : Option Binding :=
  match m.body with
  | .described lib =>
    ((Text.Utf8.decode? name).bind fun s => lib.exports.idxOf? s).map fun i =>
      ⟨m.exportAddress i, 0, false, false⟩
  | .image t _ _ => (SymbolTable.find? memory t name isCall).map (bindingOf t)

/-- The libraries that the library needs, with its own directory in their names. -/
def wanted (memory : Memory) (m : Module) : List Need :=
  match m.body with
  | .described _ => []
  | .image t _ _ => (t.needs memory).map fun need => { need with name := need.name.expand m.directory }

/-- Does the library stay in memory when nothing holds it? -/
def isPermanent (m : Module) : Bool :=
  match m.body with
  | .described _ => false
  | .image t _ _ => t.isPermanent

/-- The data of the library that every thread has for itself. -/
def threadData? (m : Module) : Option Segment :=
  match m.body with
  | .described _ => none
  | .image _ _ threadData => threadData

end Module

/-- The libraries in memory, in the order in which they came there. -/
structure Linker where
  modules : List Module
  /-- The names that stand for the same in all libraries, with the library in which they were found first. -/
  unique : List (Bytes × Nat × Binding)
  machine : Machine
  /-- The number of the next library. -/
  opened : Nat
  /-- The first address that no library takes. -/
  free : UInt64
  /-- The directories that were missing when a library was looked for in them. -/
  missing : List Path

namespace Linker

/-- What memory holds. -/
def memory (l : Linker) : Memory :=
  l.machine.memory

/-- Replaces what memory holds. -/
def setMemory (l : Linker) (m : Memory) : Linker :=
  { l with machine := { l.machine with memory := m } }

/-- The program, with the libraries that it was started with. -/
def program : Module where
  number := 0
  path := ⟨[]⟩
  names := Platform.startNames
  file := none
  base := 0x10000
  body := .described Platform.startLibrary
  directory := ⟨[]⟩
  user := none
  needs := []
  scope := [0]

/-- The libraries of a program that has opened none. -/
def start : Linker :=
  { modules := [program]
    unique := []
    machine := .fresh
    opened := 1
    free := 0x100000000
    missing := [] }

/-- The library with a number. -/
def module? (l : Linker) (number : Nat) : Option Module :=
  l.modules.find? fun m => m.number == number

/-- The library with a name. -/
def named? (l : Linker) (name : Path) : Option Module :=
  l.modules.find? fun m => m.names.contains name

/-- The library from a file. -/
def ofFile? (l : Linker) (file : Nat) : Option Module :=
  l.modules.find? fun m => m.file == some file

/-- Changes the library with a number. -/
def change (l : Linker) (number : Nat) (f : Module → Module) : Linker :=
  { l with modules := l.modules.map fun m => if m.number = number then f m else m }

/-- Gives a library one more name. -/
def addName (l : Linker) (number : Nat) (name : Path) : Linker :=
  l.change number fun m => { m with names := m.names ++ [name] }

/-- The first library of a list that defines a name. -/
def define? (l : Linker) (scope : List Nat) (name : Bytes) (isCall : Bool) :
    Option (Module × Binding) :=
  scope.findSome? fun n => do
    let m ← l.module? n
    let b ← m.define? l.memory name isCall
    return (m, b)

/-- What a name stands for in a list of libraries. One that stands for the same in all libraries stays what
it was when it was looked up first. -/
def look (l : Linker) (scope : List Nat) (name : Bytes) (isCall : Bool) :
    Option (Module × Binding) × Linker :=
  match l.define? scope name isCall with
  | none => (none, l)
  | some (m, b) =>
    if b.isUnique then
      match l.unique.lookup name with
      | some (number, first) => ((l.module? number).map fun m => (m, first), l)
      | none => (some (m, b), { l with unique := (name, m.number, b) :: l.unique })
    else (some (m, b), l)

/-- Adds the libraries that the libraries of a list need, as often as a bound tells. -/
def reach (l : Linker) : Nat → List Nat → List Nat
  | 0, found => found
  | bound + 1, found =>
    let next := found.flatMap fun n => ((l.module? n).map Module.needs).getD []
    reach l bound (found ++ (next.eraseDups.filter fun n => !found.contains n))

/-- Takes the libraries out of memory whose numbers do not fit. -/
def select (l : Linker) (fits : Nat → Bool) : Linker :=
  let gone := l.modules.filter fun m => !fits m.number
  { l.setMemory (gone.foldl (fun memory m => memory.unmap m.base) l.memory) with
    modules := l.modules.filter fun m => fits m.number
    unique := l.unique.filter fun e => fits e.2.1 }

/-- The libraries that stay in memory when nothing holds them: those that ask for it, and those with a name
that stands for the same in all libraries. -/
def permanent (l : Linker) : List Nat :=
  (l.modules.filter Module.isPermanent).map Module.number ++ l.unique.map fun e => e.2.1

/-- The libraries that stay in memory when only some are held: these, the permanent ones, and all that they
need. -/
def kept (l : Linker) (held : List Nat) : List Nat :=
  l.reach l.modules.length (0 :: l.permanent ++ held)

end Linker
end GrammarAssay
