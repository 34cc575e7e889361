import GrammarAssay.Library.Image.Header
import GrammarAssay.Library.Image.LinkTable
import GrammarAssay.Library.Image.Mapping

/-!
# Images of libraries

**Input.** The bytes of a regular file with a right header, which is opened as a library.

**Algorithm.** The table of segments is read: the segments that are to be put into memory have to fit the
pages, there has to be one, the file must not be a program, and it has to tell how it is linked. Then the
segments are put into memory. At last its link table may forbid to load it. The first thing that is wrong
tells why the file cannot be loaded.

**Results.**
* `Image.mappingFault?`: what keeps the file from being put into memory.
* `Image.map`: the file in memory.
* `Image.table`, `Image.tableFault?`: its link table, and what the table forbids.
* `Image.sealed`, `Image.threadData`: the segment that is sealed after the relocation, and the one that
  every thread has for itself.
-/

namespace GrammarAssay
namespace Image

/-- The address of the table that tells how the library is linked. Of several such tables the last
counts, and none may be empty. -/
def linkage? (segments : List Segment) : Option UInt64 :=
  let tables := segments.filter Segment.isDynamic
  if tables.all fun s => s.fileSize != 0 then
    (tables.getLast?.map Segment.address).filter (· != 0)
  else none

/-- What keeps the segments of a file from being put into memory. -/
def segmentsFault? (kind : Nat) (segments : List Segment) : Option ImageFault :=
  let loaded := segments.filter Segment.isLoaded
  if !loaded.all Segment.isCongruent then some .misaligned
  else if loaded.isEmpty then some .noSegments
  else if kind ≠ Header.shared then some .executable
  else if (linkage? segments).isNone then some .noDynamicSection
  else Mapping.fault? loaded

/-- What keeps a file from being put into memory. -/
def mappingFault? (f : Filler) : Option ImageFault :=
  segmentsFault? (Header.kind f) (Header.segments f)

/-- The file in memory, at the first address that is free and has the alignment that the file asks
for. -/
def map (f : Filler) (free : UInt64) : MappedFile :=
  let loaded := (Header.segments f).filter Segment.isLoaded
  let alignment := max pageSize (Mapping.alignment loaded)
  let first := free + (alignment - 1)
  .ofFiller f loaded (first - first % alignment - (loaded.head?.map Segment.start).getD 0)

/-- The link table of a file that was put into memory at a base. -/
def table (m : Memory) (f : Filler) (base : UInt64) : LinkTable :=
  .read m base (base + (linkage? (Header.segments f)).getD 0)

/-- What a link table forbids. -/
def tableFault? (t : LinkTable) : Option ImageFault :=
  if t.isProgram then some .movableProgram
  else if t.isRefused then some .refused
  else none

/-- The segment that is sealed after the relocation. -/
def sealed (f : Filler) : Option Segment :=
  ((Header.segments f).filter Segment.isSealed).getLast?

/-- The data that every thread has for itself, if there are any. -/
def threadData (f : Filler) : Option Segment :=
  ((Header.segments f).filter fun s => s.isThreadData && s.memorySize != 0).getLast?

/-- Does a sealed segment leave the file that it belongs to? Only whole pages are sealed. -/
def leaves (f : MappedFile) (s : Segment) : Bool :=
  let first := pageStart (f.base + s.address) - f.start
  let last := pageStart (f.base + s.memoryEnd) - f.start
  s.memorySize != 0 && first != last && (last < first || f.extent < last)

end Image
end GrammarAssay
