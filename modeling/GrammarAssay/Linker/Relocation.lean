import GrammarAssay.Linker.Call
import GrammarAssay.Linker.Fetch

/-!
# Relocations

**Input.** A library in memory, and the libraries in which its symbols are looked up.

**Algorithm.** A relocation tells a place in memory and what is to be written there; its kind tells how that
is reckoned from an address, a size and an addend. Its symbol is looked up before its kind is looked at. A
symbol that only the library sees stands for the library's own; all others are looked up in the libraries of
the program first. A weak symbol may be missing. The relocations of calls are put off, if the library allows
it: then only the base is added, or the code is told that calls the binder, where the library was laid out
with such code. Relocations whose address is found by code of the library come last among their like. At last
the segment is sealed that is to be sealed.

**Results.**
* `Linker.bind`: what a symbol of a library stands for.
* `Linker.relocate`: carries out the relocations of a library.
-/

namespace GrammarAssay

namespace Linker

/-- What the symbol of a relocation stands for, and in which library. A weak one can stand for
nothing. -/
def bind (l : Linker) (m : Module) (t : LinkTable) (scope : List Nat) (r : Relocation) :
    Except ImageFault (Option (Module × Binding)) × Linker :=
  let e := SymbolTable.entry l.memory t r.symbol
  let own := (m, Module.bindingOf t e)
  if e.isLocal || e.isHidden then (.ok (some own), l)
  else
    let name := t.string l.memory e.name
    let first := if t.bindsToItself then [m.number] else []
    match l.look (first ++ 0 :: scope) name r.isCall with
    | (some found, l) =>
      (.ok (some (if e.isProtected && found.1.number != m.number then own else found)), l)
    | (none, l) =>
      (if e.isWeak then .ok none else .error (.undefined (Text.Utf8.lossy name)), l)

/-- The address that a symbol stands for. -/
def addressOf : Option (Module × Binding) → StateM Linker UInt64
  | none => return 0
  | some (_, b) =>
    if b.isIndirect then modifyGet fun l => l.call b.address [] else return b.address

/-- The size of what a symbol stands for. -/
def extentOf (b : Option (Module × Binding)) : UInt64 :=
  (b.map fun b => b.2.size).getD 0

/-- Writes a number of `width` bytes. -/
def store (address n : UInt64) (width : Nat) : StateM Linker Unit :=
  modify fun l => l.setMemory (l.memory.putNumber address n.toNat width)

/-- Writes the result of a function of a library. -/
def storeResult (place function : UInt64) : StateM Linker Unit := do
  let value ← modifyGet fun l => l.call function []
  store place value 8

/-- How many libraries of the program have data for every thread. -/
def programThreadModules : Nat := 2

/-- The number of a library among those with data for every thread, or zero if it has none. -/
def threadModule (l : Linker) (m : Module) : UInt64 :=
  if m.threadData?.isSome then
    let before := l.modules.filter fun other => other.threadData?.isSome && other.number < m.number
    UInt64.ofNat (programThreadModules + before.length + 1)
  else 0

/-- Writes what a relocation asks for about the data of a thread. -/
def writeThread (r : Relocation) (place : UInt64) (home : Module) (b : Binding) :
    RelocationKind → StateM Linker Unit
  | .threadModule => do store place (threadModule (← get) home) 8
  | .threadOffset => store place (b.address - home.base + r.addend) 8
  | .threadPlace =>
    let size := (home.threadData?.map Segment.memorySize).getD 0
    store place (b.address - home.base + r.addend - size) 8
  | _ => return

/-- Writes what a kind of relocation asks for. -/
def write (m : Module) (r : Relocation) (own : UInt64) (b : Option (Module × Binding)) :
    RelocationKind → StateM Linker Unit :=
  let place := m.base + r.offset
  fun
  | .none | .threadDescriptor => return
  | .base => store place (m.base + r.addend) 8
  | .indirect => storeResult place (m.base + r.addend)
  | .address => do store place ((← addressOf b) + r.addend) 8
  | .reference | .call => do store place (← addressOf b) 8
  | .shortAddress => do store place ((← addressOf b) + r.addend) 4
  | .distance => do store place ((← addressOf b) + r.addend - place) 4
  | .size => store place (extentOf b + r.addend) 8
  | .shortSize => store place (extentOf b + r.addend) 4
  | .copy => do
    let source ← addressOf b
    let count := min (min (extentOf b) own).toNat Relocation.most
    modify fun l => l.setMemory (l.memory.copy source place count)
  | kind =>
    match b with
    | none => return
    | some (home, b) => writeThread r place home b kind

/-- Fails with a fault of a library. -/
def refuse {α : Type} (m : Module) (e : ImageFault) : Linking α :=
  throw (refusal m.path e.reason)

/-- How much room there is for data that have a fixed place among those of a thread, and how they can be
aligned there. -/
def threadRoom : UInt64 × UInt64 :=
  (1720, 64)

/-- Fails if a relocation wants a fixed place for data of a thread that are too large for it. -/
def checkThreadPlace (kind : RelocationKind) (b : Option (Module × Binding)) : Linking Unit :=
  match kind, b with
  | .threadPlace, some (home, _) =>
    match home.threadData? with
    | some s =>
      if threadRoom.1 < s.memorySize || threadRoom.2 < s.alignment then refuse home .unplaceable
      else return
    | none => return
  | _, _ => return

/-- Carries out a relocation. -/
def relocateNow (m : Module) (t : LinkTable) (scope : List Nat) (r : Relocation) : Linking Unit := do
  match r.kind? with
  | some .none => return
  | some .base => write m r 0 none .base
  | kind? =>
    let own := (SymbolTable.entry (← getThe Linker).memory t r.symbol).size
    let bound ← modifyGetThe Linker fun l => l.bind m t scope r
    match bound, kind? with
    | .error e, _ => refuse m e
    | .ok _, none => refuse m (.unknownRelocation r.kind false)
    | .ok b, some kind =>
      checkThreadPlace kind b
      write m r own b kind

/-- Where the code of late calls stands that a library was laid out with, and the first place that leads
there. -/
structure LateCode where
  code : UInt64
  places : UInt64

/-- Tells a library with late calls where the binder is, and the tag under which the binder knows it. -/
def announceBinder (m : Module) (t : LinkTable) : Linking (Option LateCode) := do
  match t.address? .lazyRelocations, t.address? .lazyPlaces with
  | some _, some places =>
    if t.bindsAtOnce then return none
    else
      let code := (← getThe Linker).memory.word (places + 8)
      store (places + 8) (tagOf m.number) 8
      store (places + 16) binder 8
      return if code = 0 then none else some ⟨code + m.base, places + 24⟩
  | _, _ => return none

/-- Puts a relocation off, as far as its kind allows it. -/
def relocateLater (m : Module) (t : LinkTable) (scope : List Nat) (late : Option LateCode)
    (r : Relocation) : Linking Unit := do
  match r.kind with
  | 7 =>
    let place := m.base + r.offset
    match late with
    | some late => store place (late.code + (place - late.places) * 2) 8
    | none => store place ((← getThe Linker).memory.word place + m.base) 8
  | 36 => relocateNow m t scope r
  | 37 => write m r 0 none .indirect
  | number => refuse m (.unknownRelocation number true)

/-- Carries out a list of relocations. -/
def relocateList (m : Module) (t : LinkTable) (scope : List Nat) (late : Option LateCode)
    (list : RelocationList) : Linking Unit := do
  let relocate := if list.isLazy then relocateLater m t scope late else relocateNow m t scope
  (list.read (← getThe Linker).memory).forM relocate

/-- Adds the base to the 64 bits at an address. -/
def addBase (base place : UInt64) : StateM Linker Unit := do
  store place ((← get).memory.word place + base) 8

/-- Carries out packed relocations. An even entry tells a place. An odd one tells by its bits which of the
63 places are meant that follow the last ones. -/
def relocatePacked (base : UInt64) : UInt64 → List UInt64 → StateM Linker Unit
  | _, [] => return
  | next, entry :: rest => do
    if entry &&& 1 = 0 then
      addBase base (base + entry)
      relocatePacked base (base + entry + 8) rest
    else
      (List.range 63).forM fun i => do
        if entry.toNat.testBit (i + 1) then addBase base (next + 8 * UInt64.ofNat i)
      relocatePacked base (next + 8 * 63) rest

/-- The words from an address on that `size` bytes hold. -/
def wordsFrom (m : Memory) (address size : UInt64) : List UInt64 :=
  (List.range (min ((size.toNat + 7) / 8) Relocation.most)).map fun i =>
    m.word (address + 8 * UInt64.ofNat i)

/-- Fails if the segment of a library cannot be sealed that is to be sealed. -/
def checkSeal (m : Module) (s : Option Segment) : Linking Unit := do
  let file? := (← getThe Linker).memory.files.find? fun f => f.base == m.base
  if (s.bind fun s => file?.map fun f => Image.leaves f s) == some true then refuse m .unsealable

/-- Carries out the relocations of a library and seals it. -/
def relocate (scope : List Nat) (m : Module) : Linking Unit :=
  match m.body with
  | .described _ => return
  | .image t s _ => do
    let late ← announceBinder m t
    match t.address? .packed with
    | some address =>
      let size := (t.value? .packedSize).getD 0
      relocatePacked m.base 0 (wordsFrom (← getThe Linker).memory address size)
    | none => pure ()
    (RelocationList.ofTable t).forM (relocateList m t scope late)
    checkSeal m s

end Linker
end GrammarAssay
