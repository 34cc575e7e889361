import GrammarAssay.Library.Image.Segment
import Std.Data.HashMap

/-!
# Memory

**Input.** Files that were put into memory, and the bytes that were written since.

**Algorithm.** The addresses of a file are reckoned from its base. A byte of memory belongs to the last
segment whose pages hold its address. It is a byte of the file where the segment has data, and zero behind
them; what no segment holds continues the data of the first. What belongs to no file is zero until it is
written. Memory is kept in blocks of 256 bytes. A block that was written hides the bytes of the files, and
the first blocks of a file are written when it is put into memory. Numbers have their lowest byte first.

**Results.**
* `Memory.byte`, `Memory.number`, `Memory.word`, `Memory.text`: what memory holds.
* `Memory.put`, `Memory.putNumber`: writing.
* `get_block`: blocks have the bytes of memory.
-/

namespace GrammarAssay

/-- A file in memory: its bytes as a piece that is repeated up to a size, the segments that were mapped,
and what is added to all addresses. -/
structure MappedFile where
  piece : Array UInt8
  size : Nat
  segments : List Segment
  base : UInt64
deriving DecidableEq

namespace MappedFile

/-- Maps the segments of a file. -/
def ofFiller (f : Filler) (segments : List Segment) (base : UInt64) : MappedFile :=
  ⟨f.piece.toArray, f.size, segments, base⟩

/-- The byte of the file at an offset; bytes behind the end count as zero. -/
def fileByte (f : MappedFile) (offset : Nat) : UInt8 :=
  if offset < f.size then (f.piece[offset % f.piece.size]?).getD 0 else 0

/-- The byte at an address of a segment. -/
def segmentByte (f : MappedFile) (s : Segment) (address : UInt64) : UInt8 :=
  if s.dataEnd < s.memoryEnd ∧ s.dataEnd ≤ address then 0
  else f.fileByte (s.source + (address - s.start)).toNat

/-- Where the file begins in memory. -/
def start (f : MappedFile) : UInt64 :=
  f.base + (f.segments.head?.map Segment.start).getD 0

/-- How many bytes of memory the file takes from its first segment to its last. -/
def extent (f : MappedFile) : UInt64 :=
  match f.segments.head?, f.segments.getLast? with
  | some first, some last => pageEnd (last.memoryEnd - first.start)
  | _, _ => 0

/-- The segment that an address belongs to. -/
def segment? (f : MappedFile) (address : UInt64) : Option Segment :=
  match f.segments.reverse.find? fun s => s.holds (address - f.base) with
  | some s => some s
  | none => if address - f.start < f.extent then f.segments.head? else none

/-- The byte at an address, if it belongs to the file. -/
def byte? (f : MappedFile) (address : UInt64) : Option UInt8 :=
  (f.segment? address).map fun s => f.segmentByte s (address - f.base)

end MappedFile

/-- A part of memory that is kept together. -/
structure Block where
  bytes : ByteArray
  size_eq : bytes.size = 256

namespace Block

/-- How many bytes a block has. -/
def size : Nat := 256

/-- The number of the block that holds an address. -/
def indexOf (address : UInt64) : UInt64 :=
  address / 256

/-- Where an address stands in its block. -/
def offsetOf (address : UInt64) : Nat :=
  (address % 256).toNat

/-- The address of a byte of a block. -/
def addressOf (index : UInt64) (offset : Nat) : UInt64 :=
  index * 256 + UInt64.ofNat offset

/-- The byte at an offset. -/
def get (b : Block) (offset : Nat) : UInt8 :=
  b.bytes.get! offset

/-- A change of one byte does not change how many there are. -/
theorem size_set (b : ByteArray) (offset : Nat) (value : UInt8) :
    (b.set! offset value).size = b.size := by
  obtain ⟨data⟩ := b
  simp [ByteArray.set!, ByteArray.size]

/-- Changes the byte at an offset. -/
def put (b : Block) (offset : Nat) (value : UInt8) : Block :=
  ⟨b.bytes.set! offset value, by rw [size_set, b.size_eq]⟩

/-- The block whose bytes a function tells. -/
def ofFn (byte : Nat → UInt8) : Block :=
  ⟨⟨Array.ofFn fun i : Fin 256 => byte i.val⟩, by simp [ByteArray.size]⟩

/-- The number that `width` bytes from an offset on write. -/
def number (b : Block) (offset : Nat) : Nat → Nat
  | 0 => 0
  | width + 1 => (b.get offset).toNat + 256 * number b (offset + 1) width

/-- Writes a number of `width` bytes. -/
def putNumber (b : Block) (offset n : Nat) : Nat → Block
  | 0 => b
  | width + 1 => putNumber (b.put offset (UInt8.ofNat n)) (offset + 1) (n / 256) width

/-- A block that a function tells has the bytes that it tells. -/
theorem get_ofFn (byte : Nat → UInt8) {offset : Nat} (h : offset < 256) :
    (ofFn byte).get offset = byte offset := by
  simp [get, ofFn, ByteArray.get!, h]

end Block

structure Memory where
  files : List MappedFile
  blocks : Std.HashMap UInt64 Block

namespace Memory

/-- Memory that holds nothing. -/
def empty : Memory :=
  ⟨[], ∅⟩

/-- Does an address belong to a file? -/
def isMapped (m : Memory) (address : UInt64) : Bool :=
  m.files.any fun f => (f.segment? address).isSome

/-- The byte of the files at an address. -/
def fileByte (m : Memory) (address : UInt64) : UInt8 :=
  (m.files.findSome? fun f => f.byte? address).getD 0

/-- The byte at an address. -/
def byte (m : Memory) (address : UInt64) : UInt8 :=
  match m.blocks[Block.indexOf address]? with
  | some b => b.get (Block.offsetOf address)
  | none => m.fileByte address

/-- The block with a number, as memory holds it. -/
def block (m : Memory) (index : UInt64) : Block :=
  match m.blocks[index]? with
  | some b => b
  | none => .ofFn fun offset => m.fileByte (Block.addressOf index offset)

/-- The number that `width` bytes from an address on write, read byte by byte. -/
def numberByBytes (m : Memory) (address : UInt64) : Nat → Nat
  | 0 => 0
  | width + 1 => (m.byte address).toNat + 256 * m.numberByBytes (address + 1) width

/-- The number that `width` bytes from an address on write. -/
def number (m : Memory) (address : UInt64) (width : Nat) : Nat :=
  let offset := Block.offsetOf address
  if offset + width ≤ Block.size then
    match m.blocks[Block.indexOf address]? with
    | some b => b.number offset width
    | none => m.numberByBytes address width
  else m.numberByBytes address width

/-- The 64 bits from an address on. -/
def word (m : Memory) (address : UInt64) : UInt64 :=
  UInt64.ofNat (m.number address 8)

/-- The bytes from an address on, up to a zero or a bound. -/
def textUpTo (m : Memory) : Nat → UInt64 → Bytes
  | 0, _ => []
  | bound + 1, address =>
    let b := m.byte address
    if b = 0 then [] else b :: textUpTo m bound (address + 1)

/-- How many bytes a text can have. -/
def longestText : Nat := 0x10000

/-- The bytes from an address on, up to a zero. -/
def text (m : Memory) (address : UInt64) : Bytes :=
  m.textUpTo longestText address

/-- So many bytes from an address on. -/
def bytes (m : Memory) (address : UInt64) : Nat → Bytes
  | 0 => []
  | count + 1 => m.byte address :: m.bytes (address + 1) count

/-- Changes the block with a number. -/
def setBlock (m : Memory) (index : UInt64) (b : Block) : Memory :=
  { m with blocks := m.blocks.insert index b }

/-- Writes a byte. -/
def put (m : Memory) (address : UInt64) (b : UInt8) : Memory :=
  let index := Block.indexOf address
  m.setBlock index ((m.block index).put (Block.offsetOf address) b)

/-- Writes a number of `width` bytes, byte by byte. -/
def putByBytes (m : Memory) (address : UInt64) (n : Nat) : Nat → Memory
  | 0 => m
  | width + 1 => (m.put address (UInt8.ofNat n)).putByBytes (address + 1) (n / 256) width

/-- Writes a number of `width` bytes. -/
def putNumber (m : Memory) (address : UInt64) (n width : Nat) : Memory :=
  let offset := Block.offsetOf address
  if offset + width ≤ Block.size then
    let index := Block.indexOf address
    m.setBlock index ((m.block index).putNumber offset n width)
  else m.putByBytes address n width

/-- Writes 64 bits. -/
def putWord (m : Memory) (address value : UInt64) : Memory :=
  m.putNumber address value.toNat 8

/-- Writes bytes one behind the other. -/
def putBytes (m : Memory) (address : UInt64) (bs : Bytes) : Memory :=
  match bs with
  | [] => m
  | b :: rest => (m.put address b).putBytes (address + 1) rest

/-- Copies bytes from one address to another. -/
def copy (m : Memory) (source target : UInt64) : Nat → Memory
  | 0 => m
  | count + 1 => (m.put target (m.byte source)).copy (source + 1) (target + 1) count

/-- How many blocks of a file are written when it is put into memory. -/
def ready : Nat := 256

/-- Writes blocks as they are, one behind the other. -/
def settle (m : Memory) (index : UInt64) : Nat → Memory
  | 0 => m
  | count + 1 => (m.setBlock index (m.block index)).settle (index + 1) count

/-- Puts a file into memory. -/
def map (m : Memory) (f : MappedFile) : Memory :=
  let m : Memory := { m with files := m.files ++ [f] }
  m.settle (Block.indexOf f.start) (min (f.extent.toNat / Block.size) ready)

/-- Takes the file with a base out of memory, and forgets what was written there. -/
def unmap (m : Memory) (base : UInt64) : Memory :=
  let kept : Memory := { m with files := m.files.filter fun f => f.base != base }
  let gone : Memory := { m with files := m.files.filter fun f => f.base == base }
  let stays (index : UInt64) : Bool :=
    kept.isMapped (Block.addressOf index 0) || !gone.isMapped (Block.addressOf index 0)
  { kept with blocks := m.blocks.filter fun index _ => stays index }

/-- Every address stands in its block. -/
theorem offsetOf_lt (address : UInt64) : Block.offsetOf address < 256 := by
  simp only [Block.offsetOf, UInt64.toNat_mod]
  exact Nat.mod_lt _ (by decide)

/-- The number of its block and its place in it tell an address. -/
theorem addressOf_indexOf (address : UInt64) :
    Block.addressOf (Block.indexOf address) (Block.offsetOf address) = address := by
  apply UInt64.toNat.inj
  have h := address.toNat_lt
  simp only [Block.addressOf, Block.indexOf, Block.offsetOf, UInt64.toNat_add,
    UInt64.toNat_mul, UInt64.toNat_div, UInt64.toNat_mod, UInt64.toNat_ofNat',
    UInt64.reduceToNat]
  omega

/-- A block of memory has the bytes of memory. -/
theorem get_block (m : Memory) (address : UInt64) :
    (m.block (Block.indexOf address)).get (Block.offsetOf address) = m.byte address := by
  unfold block byte
  cases m.blocks[Block.indexOf address]? with
  | some b => rfl
  | none => simp only [Block.get_ofFn _ (offsetOf_lt address), addressOf_indexOf]

end Memory
end GrammarAssay
