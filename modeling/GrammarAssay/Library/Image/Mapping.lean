import GrammarAssay.Library.Image.Fault
import GrammarAssay.Library.Image.Segment

/-!
# Segments in memory

**Input.** The segments of a library that are to be put into memory.

**Algorithm.** One region is taken that reaches from the first segment to the end of the last. It is
mapped from the file where the first segment begins, with room to spare when a segment asks for more
than the alignment of a page. If the segments leave gaps, the region is closed from the end of the
first to the start of the last. Then every other segment is mapped into the region, and behind the data
of each segment the pages are filled with zeros.

The region lies wherever the system finds room. A segment may reach beyond its end, over what stands
there, and fails to be mapped only where it leaves the address space.

**Results.**
* `Mapping.fault?`: what goes wrong.
-/

namespace GrammarAssay

/-- The addresses that a library takes, before it is known where they lie. -/
structure Region where
  start : UInt64
  length : UInt64
deriving DecidableEq

namespace Region

/-- The longest stretch of addresses that is free in every run. -/
def longest : Nat := 0x555555550000

/-- How far the address space goes on behind a region. -/
def room : Nat := 0x10000000000

/-- The least length of a writable stretch that the system does not promise memory for. -/
def unpromised : Nat := 0x800000000

/-- How many bytes a file can have. -/
def fileLimit : Nat := 0x8000000000000000

/-- Is there a stretch of a length? -/
def isFree (length : UInt64) (writable : Bool) : Bool :=
  length.toNat ≤ longest && !(writable && unpromised ≤ length.toNat)

/-- Can a stretch be mapped from an offset of a file on? -/
def isMappable (length source : UInt64) (writable : Bool) : Bool :=
  length != 0 && isFree length writable && source.toNat + length.toNat ≤ fileLimit

/-- Does a stretch that begins at an address leave the address space, wherever the region lies? -/
def overruns (r : Region) (first length : UInt64) : Bool :=
  (pageEnd r.length).toNat + room ≤ (first - r.start).toNat + length.toNat

end Region

namespace Mapping

/-- The region of segments. -/
def region (first last : Segment) : Region :=
  ⟨first.start, last.memoryEnd - first.start⟩

/-- Is a number a power of two, or zero? -/
def isPowerOfTwo (n : UInt64) : Bool :=
  n &&& (n - 1) == 0

/-- The largest alignment that a segment asks for; only powers of two count. -/
def alignment (segments : List Segment) : UInt64 :=
  ((segments.map Segment.alignment).filter isPowerOfTwo).foldl max 0

/-- The length of a stretch in which a region can be put at a multiple of an alignment. -/
def alignedLength (length alignment : UInt64) : UInt64 :=
  if alignment ≤ length then length + alignment else alignment + alignment

/-- Is there room for a region at an alignment? -/
def hasRoom (r : Region) (alignment : UInt64) : Bool :=
  alignment ≤ pageSize ||
    (alignedLength r.length alignment != 0 && Region.isFree (alignedLength r.length alignment) false)

/-- Do the segments leave gaps between them, or overlap? -/
def hasGaps (segments : List Segment) : Bool :=
  (segments.zip segments.tail).any fun pair => pair.1.mappedEnd != pair.2.start

/-- What goes wrong when the gaps between the segments are closed. -/
def gapFault? (r : Region) (first last : Segment) : Option ImageFault :=
  if last.start < first.mappedEnd then some .misaligned
  else if last.start ≠ first.mappedEnd ∧
      r.start.toNat + (pageEnd r.length).toNat < last.start.toNat then
    some .unprotectable
  else none

/-- Can the data of a segment be mapped into the region? -/
def fitsData (r : Region) (s : Segment) : Bool :=
  s.mappedEnd ≤ s.start ||
    (!r.overruns s.start (s.mappedEnd - s.start) &&
      Region.isMappable (s.mappedEnd - s.start) s.source s.isWritable)

/-- Can the pages behind the data of a segment be filled with zeros? -/
def fitsZeros (r : Region) (s : Segment) : Bool :=
  s.memoryEnd ≤ s.dataEnd || s.memoryEnd ≤ s.mappedEnd ||
    (!r.overruns s.mappedEnd (s.memoryEnd - s.mappedEnd) &&
      Region.isFree (s.memoryEnd - s.mappedEnd) s.isWritable)

/-- What goes wrong when one more segment is mapped into the region. -/
def segmentFault? (r : Region) (s : Segment) : Option ImageFault :=
  if !fitsData r s then some .unmappable
  else if !fitsZeros r s then some .unfillable
  else none

/-- What goes wrong when the region is taken. -/
def regionFault? (first last : Segment) (segments : List Segment) : Option ImageFault :=
  let r := region first last
  if !hasRoom r (alignment segments) then some .unmappable
  else if !Region.isMappable r.length first.source first.isWritable then some .unmappable
  else if hasGaps segments then gapFault? r first last
  else none

/-- What goes wrong when segments are put into memory. -/
def fault? : List Segment → Option ImageFault
  | [] => some .noSegments
  | first :: rest =>
    let last := rest.getLast?.getD first
    match regionFault? first last (first :: rest) with
    | some e => some e
    | none =>
      if !fitsZeros (region first last) first then some .unfillable
      else rest.findSome? (segmentFault? (region first last))

end Mapping
end GrammarAssay
