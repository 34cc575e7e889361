import GrammarAssay.Library.Image.Relocation
import GrammarAssay.Linker
import GrammarAssay.Platform.Function

/-!
# Calling functions of libraries

**Input.** The libraries in memory, the address of a function, and its arguments.

**Algorithm.** Most functions are code in memory, and the others are services. An export of a described
library gives the address of the library's language. An export of the program does what the function of the
system with its name does. A library whose calls are bound late calls the binder, with its own tag and the
number of the call on the stack: the symbol of the call is looked up, the place that leads to it is written
for good, and the function goes on there, with its arguments as they were.

**Results.**
* `Door`: a stretch of addresses behind which a service stands.
* `Linker.tagOf`, `Linker.binder`: what a library finds in its memory to call the binder with.
* `Linker.call`: the result of a function, and the libraries after it.
-/

namespace GrammarAssay

/-- A stretch of addresses, and the services that stand there, by their numbers. -/
structure Door where
  start : UInt64
  size : UInt64
  service : Nat → Service

namespace Door

/-- The service at an address. -/
def open? (doors : List Door) (address : UInt64) : Option Service :=
  match doors with
  | [] => none
  | d :: rest =>
    if address - d.start < d.size then some (d.service ((address - d.start) / Module.stride).toNat)
    else open? rest address

end Door

namespace Linker

open Execution

/-- The address of the binder. -/
def binder : UInt64 := 0x8000

/-- Where the tags of libraries begin. -/
def firstTag : UInt64 := 0x2200000

/-- The tag under which the binder knows a library. -/
def tagOf (number : Nat) : UInt64 :=
  firstTag + Module.stride * UInt64.ofNat number

/-- The library with a tag. -/
def ofTag? (l : Linker) (tag : UInt64) : Option Module :=
  l.module? ((tag - firstTag) / Module.stride).toNat

/-- The lists of libraries in which a library's symbols are looked up, one behind the other. -/
def scopesOf (l : Linker) (number : Nat) : List Nat :=
  (l.modules.filter fun m => m.number != 0 && m.scope.contains number).flatMap Module.scope

/-- What the symbol of a call leads to, as memory is now. -/
def lateBinding? (l : Linker) (memory : Memory) (m : Module) (t : LinkTable) (r : Relocation) :
    Option Binding :=
  let e := SymbolTable.entry memory t r.symbol
  if e.other % 4 != 0 then some (Module.bindingOf t e)
  else
    let first := if t.bindsToItself then [m.number] else []
    let scope := first ++ 0 :: l.scopesOf m.number
    ((l.setMemory memory).look scope (t.string memory e.name) true).1.map Prod.snd

/-- The call with a number in the list of late calls. -/
def lateCall (memory : Memory) (t : LinkTable) (index : Nat) : Relocation :=
  Relocation.read memory
    ((t.address? .lazyRelocations).getD 0 + Relocation.entrySize * UInt64.ofNat index)

/-- The address that a symbol leads to, with all registers as they were. -/
def lateAddress (run : Runner) (b : Binding) : Execution UInt64 := do
  if b.isIndirect then
    let before ← get
    let address ← callBack run b.address []
    let memory := (← get).memory
    set { before with memory := memory }
    return address
  else return b.address

/-- Binds a call late, and goes on where it leads. -/
def bindLate (l : Linker) : Service := fun run => do
  let tag ← pop .eight
  let index ← pop .eight
  match (l.ofTag? (UInt64.ofNat tag)).bind fun m => m.table?.map fun t => (m, t) with
  | none => failure
  | some (m, t) =>
    let memory := (← get).memory
    let r := lateCall memory t index
    match l.lateBinding? memory m t r with
    | none => failure
    | some b =>
      let address ← lateAddress run b
      writeMemory (m.base + r.offset) address.toNat 8
      jump address

/-- What an export of a described library does. -/
def exportService (m : Module) (lib : Library) (index : Nat) : Service :=
  if m.number = 0 then
    match Platform.exportNames[index]? with
    | some name => Platform.service name
    | none => fun _ => failure
  else fun _ => answer (if lib.entry.isSome then m.languageAddress else 0)

/-- The door to the exports of a described library. -/
def exportDoor? (m : Module) : Option Door :=
  match m.body with
  | .described lib => some ⟨m.exportAddress 0, Module.exportRoom - Module.stride, exportService m lib⟩
  | .image _ _ _ => none

/-- All doors. -/
def doors (l : Linker) : List Door :=
  ⟨binder, Module.stride, fun _ => l.bindLate⟩ :: l.modules.filterMap exportDoor?

/-- The result of a function, and the libraries after it, with more doors. -/
def callWith (l : Linker) (more : List Door) (address : UInt64) (arguments : List UInt64) :
    UInt64 × Linker :=
  let doors := l.doors ++ more
  let (value, machine) := l.machine.call (Door.open? doors) address arguments
  (value, { l with machine := machine })

/-- The result of a function, and the libraries after it. -/
def call (l : Linker) (address : UInt64) (arguments : List UInt64) : UInt64 × Linker :=
  l.callWith [] address arguments

end Linker
end GrammarAssay
