import GrammarAssay.Memory
import GrammarAssay.Path

/-!
# Link tables

**Input.** Memory that holds a library, and the address of the table that tells how it is linked.

**Algorithm.** An entry of the table is a tag and a value of 64 bits each, and a tag of zero ends it. Of
two entries with the same tag the last counts, but every entry that names a need names another library. Names stand among the strings of the library, where they are told by their offset. All addresses
are reckoned from the base of the library.

**Results.**
* `LinkTable.read`: the table at an address.
* `LinkTable.value?`, `LinkTable.address?`: what the table tells under a tag.
* `LinkTable.needs`, `LinkTable.ownName?`, `LinkTable.directories?`: the libraries that are needed, the
  name that the library calls itself, and where needs are looked for.
* `LinkTable.functionPlaces`: the lists of functions that run first and last.
* `LinkTable.bindsAtOnce`, `LinkTable.bindsToItself`, `LinkTable.isRefused`: how the library wants to be
  loaded.
-/

namespace GrammarAssay

/-- How a library is needed. -/
inductive NeedKind where
  /-- It has to be there, and comes behind. -/
  | plain
  /-- It may be missing, and comes in front of the library that needs it. -/
  | auxiliary
  /-- It has to be there, and comes in front of the library that needs it. -/
  | filter
deriving DecidableEq

/-- A library that is needed, by its name. -/
structure Need where
  kind : NeedKind
  name : Path
deriving DecidableEq

/-- What is told under which tag, and the base of the addresses. -/
structure LinkTable where
  entries : List (Nat × UInt64)
  base : UInt64
deriving DecidableEq

namespace LinkTable

/-- The tags of entries. -/
inductive Tag where
  | need
  | lazySize
  | lazyPlaces
  | hashes
  | strings
  | symbols
  | relocations
  | relocationSize
  | initializer
  | finalizer
  | ownName
  | firstDirectories
  | bindsToItself
  | lazyKind
  | lazyRelocations
  | bindsAtOnce
  | initializers
  | finalizers
  | initializerSize
  | finalizerSize
  | directories
  | flags
  | packedSize
  | packed
  | quickHashes
  | moreFlags
  | auxiliary
  | filter
deriving DecidableEq

def Tag.number : Tag → Nat
  | need => 1
  | lazySize => 2
  | lazyPlaces => 3
  | hashes => 4
  | strings => 5
  | symbols => 6
  | relocations => 7
  | relocationSize => 8
  | initializer => 12
  | finalizer => 13
  | ownName => 14
  | firstDirectories => 15
  | bindsToItself => 16
  | lazyKind => 20
  | lazyRelocations => 23
  | bindsAtOnce => 24
  | initializers => 25
  | finalizers => 26
  | initializerSize => 27
  | finalizerSize => 28
  | directories => 29
  | flags => 30
  | packedSize => 35
  | packed => 36
  | quickHashes => 0x6FFFFEF5
  | moreFlags => 0x6FFFFFFB
  | auxiliary => 0x7FFFFFFD
  | filter => 0x7FFFFFFF

/-- The most entries that are read. -/
def longest : Nat := 0x10000

/-- The entries from an address on, up to a bound. -/
def entriesUpTo (m : Memory) : Nat → UInt64 → List (Nat × UInt64)
  | 0, _ => []
  | bound + 1, address =>
    let tag := m.number address 8
    if tag = 0 then []
    else (tag, m.word (address + 8)) :: entriesUpTo m bound (address + 16)

/-- The table at an address, of a library with a base. -/
def read (m : Memory) (base address : UInt64) : LinkTable :=
  ⟨entriesUpTo m longest address, base⟩

/-- The values of all entries with a tag. -/
def values (t : LinkTable) (tag : Tag) : List UInt64 :=
  (t.entries.filter fun e => e.1 == tag.number).map Prod.snd

/-- The value of the last entry with a tag. -/
def value? (t : LinkTable) (tag : Tag) : Option UInt64 :=
  (t.values tag).getLast?

/-- The address that the last entry with a tag tells. -/
def address? (t : LinkTable) (tag : Tag) : Option UInt64 :=
  (t.value? tag).map (t.base + ·)

/-- The string at an offset. -/
def string (m : Memory) (t : LinkTable) (offset : UInt64) : Bytes :=
  match t.address? .strings with
  | some address => m.text (address + offset)
  | none => []

/-- The string that the last entry with a tag tells. -/
def string? (m : Memory) (t : LinkTable) (tag : Tag) : Option Bytes :=
  (t.value? tag).map (t.string m)

/-- The places of the addresses in a list of functions, whose address and size two tags tell. -/
def functionPlaces (t : LinkTable) (list size : Tag) : List UInt64 :=
  match t.address? list with
  | some address =>
    let count := min (((t.value? size).getD 0).toNat / 8) longest
    (List.range count).map fun i => address + 8 * UInt64.ofNat i
  | none => []

/-- Is one of the bits of a number among the flags under a tag? -/
def hasFlag (t : LinkTable) (tag : Tag) (bit : UInt64) : Bool :=
  ((t.value? tag).getD 0) &&& bit != 0

/-- The kind of need that a tag tells, if it tells one. -/
def needKind? (tag : Nat) : Option NeedKind :=
  if tag = Tag.need.number then some .plain
  else if tag = Tag.auxiliary.number then some .auxiliary
  else if tag = Tag.filter.number then some .filter
  else none

/-- The libraries that are needed, in the order of the table. -/
def needs (m : Memory) (t : LinkTable) : List Need :=
  t.entries.filterMap fun e =>
    (needKind? e.1).map fun kind => ⟨kind, ⟨t.string m e.2⟩⟩

/-- The name that the library calls itself. -/
def ownName? (m : Memory) (t : LinkTable) : Option Path :=
  (t.string? m .ownName).map Path.mk

/-- The list of directories in which the library alone looks for its needs. -/
def directories? (m : Memory) (t : LinkTable) : Option Bytes :=
  t.string? m .directories

/-- The list of directories in which the library looks for its needs, and the libraries that it needs
look for theirs. A list for the library alone sets it aside. -/
def inheritedDirectories? (m : Memory) (t : LinkTable) : Option Bytes :=
  if (t.value? .directories).isSome then none else t.string? m .firstDirectories

/-- Does the library want all symbols at once that it could ask for when they are called? -/
def bindsAtOnce (t : LinkTable) : Bool :=
  (t.value? .bindsAtOnce).isSome || t.hasFlag .flags 8 || t.hasFlag .moreFlags 1

/-- Does the library look for symbols in itself first? -/
def bindsToItself (t : LinkTable) : Bool :=
  (t.value? .bindsToItself).isSome || t.hasFlag .flags 2

/-- Is the library a program that can stand anywhere in memory? -/
def isProgram (t : LinkTable) : Bool :=
  t.hasFlag .moreFlags 0x8000000

/-- Does the library refuse to be opened by a program that runs already? -/
def isRefused (t : LinkTable) : Bool :=
  t.hasFlag .moreFlags 0x40

/-- Does the library look for its needs nowhere among the libraries of the system? -/
def avoidsSystem (t : LinkTable) : Bool :=
  t.hasFlag .moreFlags 0x800

/-- Does the library stay in memory when nothing holds it? -/
def isPermanent (t : LinkTable) : Bool :=
  t.hasFlag .moreFlags 8

end LinkTable
end GrammarAssay
