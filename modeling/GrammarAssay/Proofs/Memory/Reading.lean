import GrammarAssay.Memory

/-!
# Reading files in memory

**Input.** Memory, and an address.

**Algorithm.** A number is read from its block where it stands in one that was written, and byte by byte
elsewhere; both give the same. The first blocks of a file are written when it is put into memory, with the bytes
that they had. So all that is read of memory is told by its bytes, and those of a file that was put into empty
memory are told by the file.

**Results.**
* `byte_settle`, `byte_map_empty`: the bytes of memory into which a file was put.
* `number_eq_numberIn`, `text_eq_textIn`: numbers and texts, as the bytes tell them.
-/

namespace GrammarAssay
namespace Block

theorem indexOf_add (address : UInt64) {n : Nat} (h : offsetOf address + n < 256) :
    indexOf (address + UInt64.ofNat n) = indexOf address := by
  apply UInt64.toNat.inj
  have hlt := address.toNat_lt
  simp only [offsetOf, UInt64.toNat_mod, UInt64.reduceToNat] at h
  simp only [indexOf, UInt64.toNat_div, UInt64.toNat_add, UInt64.toNat_ofNat', UInt64.reduceToNat]
  omega

theorem offsetOf_add (address : UInt64) {n : Nat} (h : offsetOf address + n < 256) :
    offsetOf (address + UInt64.ofNat n) = offsetOf address + n := by
  have hlt := address.toNat_lt
  simp only [offsetOf, UInt64.toNat_mod, UInt64.reduceToNat] at h
  simp only [offsetOf, UInt64.toNat_mod, UInt64.toNat_add, UInt64.toNat_ofNat', UInt64.reduceToNat]
  omega

end Block

namespace Memory

/-- The number that `width` bytes from an address on write, if a function tells the bytes. -/
def numberIn (byte : UInt64 → UInt8) (address : UInt64) : Nat → Nat
  | 0 => 0
  | width + 1 => (byte address).toNat + 256 * numberIn byte (address + 1) width

/-- The bytes from an address on, up to a zero or a bound, if a function tells the bytes. -/
def textIn (byte : UInt64 → UInt8) : Nat → UInt64 → Bytes
  | 0, _ => []
  | bound + 1, address =>
    if byte address = 0 then [] else byte address :: textIn byte bound (address + 1)

section Reading

variable {m : Memory}

theorem numberByBytes_eq_numberIn (address : UInt64) (width : Nat) :
    m.numberByBytes address width = numberIn m.byte address width := by
  induction width generalizing address with
  | zero => rfl
  | succ width ih => rw [numberByBytes, numberIn, ih]

/-- What stands in one block is read from the block. -/
theorem number_block {b : Block} {address : UInt64} {width : Nat}
    (hblock : m.blocks[Block.indexOf address]? = some b)
    (hroom : Block.offsetOf address + width ≤ 256) :
    b.number (Block.offsetOf address) width = numberIn m.byte address width := by
  induction width generalizing address with
  | zero => rfl
  | succ width ih =>
      have hbyte : m.byte address = b.get (Block.offsetOf address) := by
        rw [byte, hblock]
      rw [Block.number, numberIn, hbyte]
      cases width with
      | zero => rfl
      | succ width =>
          have hone : Block.offsetOf address + 1 < 256 := by omega
          have hindex : Block.indexOf (address + 1) = Block.indexOf address :=
            Block.indexOf_add address hone
          have hoffset : Block.offsetOf (address + 1) = Block.offsetOf address + 1 :=
            Block.offsetOf_add address hone
          rw [← hoffset, ih (by rw [hindex, hblock]) (by omega)]

theorem number_eq_numberIn (address : UInt64) (width : Nat) :
    m.number address width = numberIn m.byte address width := by
  unfold number
  dsimp only
  split
  · next hroom =>
      cases hblock : m.blocks[Block.indexOf address]? with
      | none => exact numberByBytes_eq_numberIn address width
      | some b => exact number_block hblock hroom
  · exact numberByBytes_eq_numberIn address width

theorem textUpTo_eq_textIn (bound : Nat) (address : UInt64) :
    m.textUpTo bound address = textIn m.byte bound address := by
  induction bound generalizing address with
  | zero => rfl
  | succ bound ih =>
      rw [textUpTo, textIn, ih]

theorem text_eq_textIn (address : UInt64) :
    m.text address = textIn m.byte longestText address :=
  textUpTo_eq_textIn _ _

end Reading

section Mapping

/-- A block that is written as it is changes nothing. -/
theorem byte_setBlock (m : Memory) (index address : UInt64) :
    (m.setBlock index (m.block index)).byte address = m.byte address := by
  by_cases hindex : index = Block.indexOf address
  · subst hindex
    refine Eq.trans ?_ (get_block m address)
    simp [byte, setBlock]
  · simp [byte, setBlock, Std.HashMap.getElem?_insert, hindex, fileByte]

theorem byte_settle (m : Memory) (index : UInt64) (count : Nat) (address : UInt64) :
    (m.settle index count).byte address = m.byte address := by
  induction count generalizing m index with
  | zero => rfl
  | succ count ih => rw [settle, ih, byte_setBlock]

/-- Empty memory into which a file was put has the bytes of the file. -/
theorem byte_map_empty (f : MappedFile) :
    (Memory.empty.map f).byte = fun address => (f.byte? address).getD 0 := by
  funext address
  rw [map, byte_settle]
  simp [byte, fileByte, empty]

end Mapping

end Memory
end GrammarAssay
