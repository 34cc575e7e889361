import GrammarAssay.Library.Image.LinkTable

/-!
# Symbol tables

**Input.** Memory that holds a library, its link table, and the name of a symbol.

**Algorithm.** An entry of the symbol table takes 24 bytes. A table of hashes leads from a name to the
entries that can have it. There are two kinds of such tables. The plain one has a list of entries for
every bucket. The quick one has a filter in front, which knows most names that are missing, and keeps the
hashes of all names beside the lists, the last of each with its lowest bit set; it is used where both are
there. The first entry with the name that defines something counts, and it has to be one that others may
see.

**Results.**
* `SymbolTable.entry`: the entry with a number.
* `SymbolTable.find?`: the definition of a name.
-/

namespace GrammarAssay

/-- An entry of a symbol table. -/
structure SymbolEntry where
  name : UInt64
  info : Nat
  other : Nat
  /-- The section in which the symbol stands. -/
  part : Nat
  value : UInt64
  size : UInt64
deriving DecidableEq

namespace SymbolEntry

/-- What the symbol is: data, code, and so on. -/
def kind (e : SymbolEntry) : Nat :=
  e.info % 16

/-- How the symbol is bound. -/
def binding (e : SymbolEntry) : Nat :=
  e.info / 16

/-- The kind of code that finds the code to call. -/
def indirect : Nat := 10

/-- The section of a symbol that stands nowhere in the library. -/
def nowhere : Nat := 0

/-- The section of a symbol that is no address. -/
def absolute : Nat := 0xFFF1

/-- Can only the library itself see the symbol? -/
def isHidden (e : SymbolEntry) : Bool :=
  e.other % 4 == 1 || e.other % 4 == 2

/-- Must a reference of the library to the symbol lead to its own definition? -/
def isProtected (e : SymbolEntry) : Bool :=
  e.other % 4 == 3

/-- Is the symbol bound within the library? -/
def isLocal (e : SymbolEntry) : Bool :=
  e.binding == 0

/-- May a symbol be missing? -/
def isWeak (e : SymbolEntry) : Bool :=
  e.binding == 2

/-- Does the symbol stand for the same in all libraries? -/
def isUnique (e : SymbolEntry) : Bool :=
  e.binding == 10

/-- Is the symbol bound for all libraries? -/
def isGlobal (e : SymbolEntry) : Bool :=
  e.binding == 1 || e.isWeak || e.isUnique

/-- Does the entry define something that can be looked up? A reference from a table of calls must not lead
to another reference. -/
def isDefinition (e : SymbolEntry) (isCall : Bool) : Bool :=
  (e.value != 0 || e.part == absolute || e.kind == 6) &&
    !(isCall && e.part == nowhere) &&
    (e.kind ≤ 2 || e.kind == 5 || e.kind == 6 || e.kind == indirect)

end SymbolEntry

namespace SymbolTable

def entrySize : UInt64 := 24

/-- The most entries that are looked at for one name. -/
def longestList : Nat := 0x10000

/-- The entry with a number. -/
def entry (m : Memory) (t : LinkTable) (index : UInt64) : SymbolEntry :=
  let address := (t.address? .symbols).getD 0 + index * entrySize
  { name := UInt64.ofNat (m.number address 4)
    info := m.number (address + 4) 1
    other := m.number (address + 5) 1
    part := m.number (address + 6) 2
    value := m.word (address + 8)
    size := m.word (address + 16) }

/-- Where a symbol of the library stands. -/
def addressOf (t : LinkTable) (e : SymbolEntry) : UInt64 :=
  if e.part = SymbolEntry.absolute then e.value else t.base + e.value

/-- The 32 bits with an index behind an address. -/
def half (m : Memory) (address : UInt64) (index : UInt64) : UInt32 :=
  UInt32.ofNat (m.number (address + 4 * index) 4)

/-- The hash of a name in the plain table. -/
def hash (name : Bytes) : UInt32 :=
  name.foldl (fun h b =>
    let h := h * 16 + b.toUInt32
    let high := h &&& 0xF0000000
    (h ^^^ (high >>> 24)) &&& 0x0FFFFFFF) 0

/-- The hash of a name in the quick table. -/
def quickHash (name : Bytes) : UInt32 :=
  name.foldl (fun h b => h * 33 + b.toUInt32) 5381

/-- Looks for an entry in a list of the plain table, from a number on. -/
def searchFrom (m : Memory) (chains : UInt64) (fits : UInt64 → Bool) : Nat → UInt64 → Option UInt64
  | 0, _ => none
  | bound + 1, index =>
    if index = 0 then none
    else if fits index then some index
    else searchFrom m chains fits bound (half m chains index).toUInt64

/-- Looks for an entry with a name by the plain table at an address. -/
def search (m : Memory) (address : UInt64) (name : Bytes) (fits : UInt64 → Bool) : Option UInt64 :=
  let count := (half m address 0).toUInt64
  if count = 0 then none
  else
    let bucket := (hash name).toUInt64 % count
    searchFrom m (address + 8 + 4 * count) fits longestList (half m (address + 8) bucket).toUInt64

/-- Looks for an entry with a hash in a list of the quick table, from a number on. -/
def quickSearchFrom (m : Memory) (hashes : UInt64) (h : UInt32) (fits : UInt64 → Bool) :
    Nat → UInt64 → Option UInt64
  | 0, _ => none
  | bound + 1, index =>
    let found := half m hashes index
    if (found ^^^ h) >>> 1 = 0 && fits index then some index
    else if found &&& 1 = 0 then quickSearchFrom m hashes h fits bound (index + 1)
    else none

/-- Looks for an entry with a name by the quick table at an address. -/
def quickSearch (m : Memory) (address : UInt64) (name : Bytes) (fits : UInt64 → Bool) :
    Option UInt64 :=
  let count := (half m address 0).toUInt64
  let first := (half m address 1).toUInt64
  let filterSize := (half m address 2).toUInt64
  let h := quickHash name
  let word := m.word (address + 16 + 8 * ((h.toUInt64 / 64) &&& (filterSize - 1)))
  let isIn := (word >>> (h.toUInt64 % 64)) &&& (word >>> ((h >>> half m address 3).toUInt64 % 64)) &&& 1
  let buckets := address + 16 + 8 * filterSize
  if count = 0 || isIn = 0 then none
  else
    let bucket := (half m buckets (h.toUInt64 % count)).toUInt64
    if bucket = 0 then none
    else quickSearchFrom m (buckets + 4 * count - 4 * first) h fits longestList bucket

/-- Does the entry with a number define a name? -/
def defines (m : Memory) (t : LinkTable) (name : Bytes) (isCall : Bool) (index : UInt64) : Bool :=
  let e := entry m t index
  e.isDefinition isCall && t.string m e.name == name

/-- The definition of a name that others may see. -/
def find? (m : Memory) (t : LinkTable) (name : Bytes) (isCall : Bool) : Option SymbolEntry :=
  let fits := defines m t name isCall
  let index? :=
    match t.address? .quickHashes, t.address? .hashes with
    | some address, _ => quickSearch m address name fits
    | none, some address => search m address name fits
    | none, none => none
  (index?.map (entry m t)).filter fun e => !e.isHidden && e.isGlobal

end SymbolTable
end GrammarAssay
