import GrammarAssay.Language
import GrammarAssay.Memory
import GrammarAssay.Text.Utf8

/-!
# Languages in memory

**Input.** Memory, and the address of the tables that an entry point returned.

**Algorithm.** The sizes of the tables stand in front, in 32 bits each, and the addresses of the tables
behind them. The lookup of a node kind stops at the first findable symbol with the name, which counts if it
has a public number. The lookup of a field stops where a name that is sought differs from a field for the
first time in a byte that is smaller by one, since fields are sorted. Both compare as many bytes as the
sought name has, and then want a zero.

**Results.**
* `Layout.facts`: what the tables tell about themselves.
* `Layout.hasKind`, `Layout.hasField`: what the lookups find.
* `Layout.symbolName`: the name of a symbol.
-/

namespace GrammarAssay
namespace Layout

/-- The 32 bits at a distance from an address. -/
def count (m : Memory) (address distance : UInt64) : UInt32 :=
  UInt32.ofNat (m.number (address + distance) 4)

/-- How many symbols there are. -/
def symbolCount (m : Memory) (address : UInt64) : UInt32 :=
  count m address 4 + count m address 8

/-- What the tables tell about themselves. -/
def facts (m : Memory) (address : UInt64) : Language.Facts where
  version := (count m address 0).toUInt64
  nodeKindCount := (symbolCount m address).toUInt64
  fieldCount := (count m address 32).toUInt64

/-- How many symbols or fields a lookup goes through, at most. -/
def lookupCount (count : UInt32) : Nat :=
  count.toNat % 65536

/-- The difference of the first two bytes that differ, of a text and of as much of the text at an address.
A zero ends both. -/
def difference (m : Memory) : Bytes → UInt64 → Int
  | [], _ => 0
  | b :: rest, address =>
    let c := m.byte address
    if b != c then (b.toNat : Int) - c.toNat
    else if b = 0 then 0
    else difference m rest (address + 1)

/-- Stands a text at an address, as the lookups compare? -/
def isText (m : Memory) (text : Bytes) (address : UInt64) : Bool :=
  difference m text address == 0 && m.byte (address + UInt64.ofNat text.length) == 0

/-- The address of the name of a symbol. -/
def symbolPlace (m : Memory) (address symbol : UInt64) : UInt64 :=
  m.word (m.word (address + 72) + 8 * symbol)

def symbolName (m : Memory) (address symbol : UInt64) : Bytes :=
  m.text (symbolPlace m address symbol)

/-- Can a lookup by name find the symbol that three bytes describe? -/
def isFindable (m : Memory) (about : UInt64) : Bool :=
  m.byte (about + 1) == 1 && (m.byte about != 0 || m.byte (about + 2) != 0)

/-- The first findable symbol with a name. -/
def findSymbol? (m : Memory) (address : UInt64) (name : Bytes) : Option UInt64 :=
  let about := m.word (address + 104)
  ((List.range (lookupCount (symbolCount m address))).map UInt64.ofNat).find? fun i =>
    isFindable m (about + 3 * i) && isText m name (symbolPlace m address i)

/-- Does the lookup of a named node kind find a text? -/
def hasKind (m : Memory) (address : UInt64) (kind : String) : Bool :=
  Language.matchesError kind.toList ||
    (findSymbol? m address (Text.Utf8.encode kind)).any fun i =>
      m.number (m.word (address + 112) + 2 * i) 2 != 0

/-- Does the lookup of a field find a name among the fields at a list of addresses? -/
def findsField (m : Memory) (name : Bytes) : List UInt64 → Bool
  | [] => false
  | field :: rest =>
    if isText m name field then true
    else if difference m name field = -1 then false
    else findsField m name rest

/-- Does the lookup of a field find a text? -/
def hasField (m : Memory) (address : UInt64) (field : String) : Bool :=
  let names := m.word (address + 80)
  findsField m (Text.Utf8.encode field)
    ((List.range (lookupCount (count m address 32))).map fun i =>
      m.word (names + 8 * UInt64.ofNat (i + 1)))

end Layout
end GrammarAssay
