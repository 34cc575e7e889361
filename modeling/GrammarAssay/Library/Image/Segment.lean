import GrammarAssay.Library

/-!
# Segments

**Input.** An entry of the segment table takes 56 bytes of a file.

**Algorithm.** All numbers of an entry but its kind and its flags have 64 bits, and so have the
addresses reckoned from them: they wrap around. Memory comes in pages, so a segment is mapped from the
start of the page that holds its first byte to the end of the page that holds its last.

**Results.**
* `Segment.read`: the segment that an entry describes.
* `Segment.start`, `Segment.mappedEnd`: the pages that a segment takes from the file.
* `Segment.dataEnd`, `Segment.memoryEnd`: where its data end, and where the zeros behind them end.
* `Segment.holds`: whether the pages of a segment hold an address.
* `Segment.isCongruent`: whether a segment can be mapped by pages.
-/

namespace GrammarAssay

/-- The size of a page of memory. -/
def pageSize : UInt64 := 4096

/-- The start of the page that holds an address. -/
def pageStart (address : UInt64) : UInt64 :=
  address - address % pageSize

/-- The first start of a page that is not below an address. -/
def pageEnd (address : UInt64) : UInt64 :=
  pageStart (address + (pageSize - 1))

/-- What a library asks to have in memory. -/
structure Segment where
  kind : Nat
  flags : Nat
  /-- Where the data begin in the file. -/
  offset : UInt64
  /-- Where the data begin in memory. -/
  address : UInt64
  fileSize : UInt64
  memorySize : UInt64
  alignment : UInt64
deriving DecidableEq

namespace Segment

def entrySize : Nat := 56

/-- The 64 bits from an offset on. -/
def word (f : Filler) (offset : Nat) : UInt64 :=
  UInt64.ofNat (f.number offset 8)

/-- The segment that the entry at an offset describes. -/
def read (f : Filler) (entry : Nat) : Segment where
  kind := f.number entry 4
  flags := f.number (entry + 4) 4
  offset := word f (entry + 8)
  address := word f (entry + 16)
  fileSize := word f (entry + 32)
  memorySize := word f (entry + 40)
  alignment := word f (entry + 48)

/-- Is the segment to be put into memory? -/
def isLoaded (s : Segment) : Bool :=
  s.kind == 1

/-- Does the segment hold the table that tells how the library is linked? -/
def isDynamic (s : Segment) : Bool :=
  s.kind == 2

/-- Is the segment to be sealed when the library is linked? -/
def isSealed (s : Segment) : Bool :=
  s.kind == 0x6474E552

/-- Does the segment hold the data that every thread has for itself? -/
def isThreadData (s : Segment) : Bool :=
  s.kind == 7

/-- May the program write to the segment? -/
def isWritable (s : Segment) : Bool :=
  s.flags / 2 % 2 == 1

/-- Has the first byte the same place in its page of memory as in its page of the file? -/
def isCongruent (s : Segment) : Bool :=
  (s.address - s.offset) % pageSize == 0

/-- The start of the first page in memory. -/
def start (s : Segment) : UInt64 :=
  pageStart s.address

/-- The start of the first page in the file. -/
def source (s : Segment) : UInt64 :=
  pageStart s.offset

/-- The address behind the data. -/
def dataEnd (s : Segment) : UInt64 :=
  s.address + s.fileSize

/-- The end of the pages that hold data. -/
def mappedEnd (s : Segment) : UInt64 :=
  pageEnd s.dataEnd

/-- The address behind the zeros that follow the data. -/
def memoryEnd (s : Segment) : UInt64 :=
  s.address + s.memorySize

/-- Do the pages of the segment hold an address? -/
def holds (s : Segment) (address : UInt64) : Bool :=
  s.start ≤ address && address < max s.mappedEnd (pageEnd s.memoryEnd)

end Segment
end GrammarAssay
