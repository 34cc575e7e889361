import GrammarAssay.Library.Image.LinkTable

/-!
# Lists of relocations

**Input.** Memory that holds a library, and its link table.

**Algorithm.** A relocation takes 24 bytes: a place, a kind, the number of a symbol, and an addend. A library
has up to two lists of them. Those of calls stand in a list of their own and can be put off.

**Results.**
* `Relocation`, `RelocationKind`: what is to be written where, and how that is reckoned.
* `RelocationList.ofTable`: the lists of a library.
* `RelocationList.read`: the relocations of a list.
-/

namespace GrammarAssay

/-- What is to be written where. -/
structure Relocation where
  /-- The place, reckoned from the base of the library. -/
  offset : UInt64
  kind : Nat
  /-- The number of the symbol. -/
  symbol : UInt64
  addend : UInt64
deriving DecidableEq

/-- How a relocation reckons what it writes. -/
inductive RelocationKind where
  | none
  /-- The address of the symbol with the addend. -/
  | address
  /-- The address of the symbol alone. -/
  | reference
  /-- The address of the symbol alone, for a call. -/
  | call
  /-- The distance of the symbol from the place, in 32 bits. -/
  | distance
  /-- The contents of the symbol. -/
  | copy
  /-- The base of the library. -/
  | base
  /-- The address of the symbol, in 32 bits. -/
  | shortAddress
  /-- The number of the library among those with data for every thread. -/
  | threadModule
  /-- Where the symbol stands among the data that its library has for every thread. -/
  | threadOffset
  /-- Where the symbol stands among the data of a thread. -/
  | threadPlace
  /-- How to find the symbol among the data of a thread. -/
  | threadDescriptor
  | shortSize
  | size
  /-- The result of a function of the library. -/
  | indirect
deriving DecidableEq

namespace RelocationKind

/-- The kind with a number. -/
def ofNumber? : Nat → Option RelocationKind
  | 0 => some none
  | 1 => some address
  | 6 => some reference
  | 7 => some call
  | 2 => some distance
  | 5 => some copy
  | 8 | 38 => some base
  | 10 => some shortAddress
  | 16 => some threadModule
  | 17 => some threadOffset
  | 18 => some threadPlace
  | 32 => some shortSize
  | 33 => some size
  | 36 => some threadDescriptor
  | 37 => some indirect
  | _ => Option.none

end RelocationKind

namespace Relocation

def entrySize : UInt64 := 24

/-- The most entries that are read. -/
def most : Nat := 0x10000

/-- The relocation at an address. -/
def read (m : Memory) (address : UInt64) : Relocation where
  offset := m.word address
  kind := m.number (address + 8) 4
  symbol := UInt64.ofNat (m.number (address + 12) 4)
  addend := m.word (address + 16)

/-- How the relocation reckons what it writes. -/
def kind? (r : Relocation) : Option RelocationKind :=
  RelocationKind.ofNumber? r.kind

/-- Must the symbol of the relocation not be a mere reference? -/
def isCall (r : Relocation) : Bool :=
  match r.kind? with
  | some .call | some .threadModule | some .threadOffset | some .threadPlace
  | some .threadDescriptor => true
  | _ => false

end Relocation

/-- Relocations that stand one behind the other. -/
structure RelocationList where
  start : UInt64
  size : UInt64
  /-- Are they put off? -/
  isLazy : Bool
deriving DecidableEq

namespace RelocationList

/-- The relocations, those last that are found by code. -/
def read (m : Memory) (l : RelocationList) : List Relocation :=
  let count := min ((l.size.toNat + 23) / 24) Relocation.most
  let all := (List.range count).map fun i =>
    Relocation.read m (l.start + Relocation.entrySize * UInt64.ofNat i)
  all.filter (fun r => r.kind? != some .indirect) ++ all.filter fun r => r.kind? == some .indirect

/-- The lists of a library. The one of calls can be a part of the other at its end, or go on where the
other ends. -/
def ofTable (t : LinkTable) : List RelocationList :=
  let first : RelocationList :=
    match t.address? .relocations with
    | some start => ⟨start, (t.value? .relocationSize).getD 0, false⟩
    | none => ⟨0, 0, false⟩
  match t.value? .lazyKind with
  | none => [first]
  | some _ =>
    let start := (t.address? .lazyRelocations).getD 0
    let size := (t.value? .lazySize).getD 0
    let rest :=
      if first.start + first.size = start + size then first.size - size else first.size
    if t.bindsAtOnce && first.start + rest = start then [⟨first.start, rest + size, false⟩]
    else [⟨first.start, rest, false⟩, ⟨start, size, !t.bindsAtOnce⟩]

end RelocationList

end GrammarAssay
