import GrammarAssay.Library.Image.Fault
import GrammarAssay.Library.Image.Segment

/-!
# Headers of images

**Input.** The bytes of a regular file.

**Algorithm.** The header of a library takes 64 bytes. It begins with an identification: a signature,
the width of a word, the byte order, the version, the interface and its version, unused bytes. Behind it
come the kind of the file, the machine, the version again, and the place of the table of segments. The
first thing that is wrong counts, with one exception: when the identification is wrong behind the width
of a word, a file for another machine is passed over, whatever else is wrong. The table may lie in the
first piece that is read of the file; otherwise it is read by itself and has to be there.

**Results.**
* `Header.segments`: the segments that the table lists.
* `Header.fault?`: what is wrong with the header of a file.
-/

namespace GrammarAssay
namespace Header

/-- The size of the header. -/
def size : Nat := 64

/-- The signature, as a number of four bytes. -/
def signature : Nat := 0x464C457F

/-- The number of the machine. -/
def machine : Nat := 62

/-- The kind of a program. -/
def program : Nat := 2

/-- The kind of a library. -/
def shared : Nat := 3

/-- The number of the interface that fixes versions of its own. -/
def versionedInterface : Nat := 3

/-- How many bytes the first read of a file takes. -/
def firstRead : Nat := 832

/-- The first offset that no read can ask for. -/
def offsetLimit : Nat := 0x8000000000000000

/-- Is a version of an interface known? Version 0 is known of all, and one interface has three more. -/
def knowsInterface (number version : Nat) : Bool :=
  version == 0 || (number == versionedInterface && version < 4)

/-- Is the file for this machine? -/
def isForMachine (f : Filler) : Bool :=
  f.number 18 2 == machine

/-- The number of the kind of the file. -/
def kind (f : Filler) : Nat :=
  f.number 16 2

/-- Where the table begins. -/
def tableOffset (f : Filler) : Nat :=
  f.number 32 8

/-- How many segments the table lists. -/
def segmentCount (f : Filler) : Nat :=
  f.number 56 2

def tableSize (f : Filler) : Nat :=
  segmentCount f * Segment.entrySize

/-- The segments that the table lists. -/
def segments (f : Filler) : List Segment :=
  (List.range (segmentCount f)).map fun i => Segment.read f (tableOffset f + i * Segment.entrySize)

/-- What is wrong with the identification behind the width of a word. -/
def identificationFault? (f : Filler) : Option ImageFault :=
  if f.number 5 1 ≠ 1 then some .byteOrder
  else if f.number 6 1 ≠ 1 then some .identVersion
  else if f.number 7 1 ≠ 0 ∧ f.number 7 1 ≠ versionedInterface then some .interface
  else if !knowsInterface (f.number 7 1) (f.number 8 1) then some .interfaceVersion
  else if f.number 9 7 ≠ 0 then some .padding
  else none

/-- Does the table lie in the first piece that is read? -/
def isTableRead (f : Filler) : Bool :=
  (tableOffset f + tableSize f) % UInt64.size ≤ min f.size firstRead

/-- What is wrong with the place of the table. -/
def tableFault? (f : Filler) : Option ImageFault :=
  if isTableRead f then none
  else if offsetLimit ≤ tableOffset f then some .unreachable
  else if tableSize f ≠ 0 ∧ f.size < tableOffset f + tableSize f then some .truncated
  else none

/-- What is wrong behind a right identification. -/
def bodyFault? (f : Filler) : Option ImageFault :=
  if f.number 20 4 ≠ 1 then some .version
  else if !isForMachine f then some .machine
  else if kind f ≠ program ∧ kind f ≠ shared then some .kind
  else if f.number 54 2 ≠ Segment.entrySize then some .segmentSize
  else tableFault? f

/-- What is wrong with the header of a file. -/
def fault? (f : Filler) : Option ImageFault :=
  if f.size < size then some .tooShort
  else if f.number 0 4 ≠ signature then some .signature
  else if f.number 4 1 ≠ 2 then some .wordSize
  else
    match identificationFault? f with
    | some e => some (if isForMachine f then e else .machine)
    | none => bodyFault? f

end Header
end GrammarAssay
