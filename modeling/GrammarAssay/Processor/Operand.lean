import GrammarAssay.Processor

/-!
# Operands of instructions

**Input.** The bytes of an instruction, from the address of the next instruction on.

**Algorithm.** An instruction may begin with marks that change its width, repeat it, move its addresses or
prolong the numbers of registers. Behind its code can stand a byte that tells a register and a target:
another register, or memory at an address that is the sum of up to two registers and a distance, or a
distance from the instruction that follows.

**Results.**
* `Execution`: a part of an instruction, which fails where the processor has no such instruction.
* `Execution.fetch`: the next bytes of the instruction.
* `Marks.fetch`, `Marks.operands`: the marks, and the operands that they change.
-/

namespace GrammarAssay

/-- A part of an instruction. -/
abbrev Execution := StateT Processor Option

namespace Execution

/-- The next bytes of the instruction, as a number. -/
def fetch (w : Width) : Execution Nat :=
  modifyGet fun p => (p.memory.number p.next w.bytes, { p with next := p.next + UInt64.ofNat w.bytes })

/-- The next bytes of the instruction, as a number with a sign. -/
def fetchSigned (w : Width) : Execution UInt64 :=
  return w.extend (← fetch w)

/-- The number at a place. -/
def readPlace (w : Width) (place : Place) : Execution Nat :=
  return (← get).read w place

/-- Changes the number at a place. -/
def writePlace (w : Width) (place : Place) (n : Nat) : Execution Unit :=
  modify fun p => p.write w place n

/-- The number in a register. -/
def readRegister (w : Width) (r : Fin 16) : Execution Nat :=
  readPlace w (.register r)

/-- Changes a register. -/
def writeRegister (w : Width) (r : Fin 16) (n : Nat) : Execution Unit :=
  writePlace w (.register r) n

/-- The number that `width` bytes from an address on write. -/
def readMemory (address : UInt64) (width : Nat) : Execution Nat :=
  return (← get).memory.number address width

/-- Changes memory. -/
def writeMemory (address : UInt64) (n width : Nat) : Execution Unit :=
  modify fun p => p.writeMemory address n width

def flags : Execution Flags :=
  return (← get).flags

/-- Changes the flags. -/
def setFlags (f : Flags) : Execution Unit :=
  modify fun p => { p with flags := f }

/-- Goes on at an address. -/
def jump (address : UInt64) : Execution Unit :=
  modify fun p => { p with next := address }

/-- Puts a number on the stack. -/
def push (w : Width) (n : Nat) : Execution Unit :=
  modify fun p => p.push w n

/-- Takes a number from the stack. -/
def pop (w : Width) : Execution Nat :=
  modifyGet fun p => p.pop w

end Execution

/-- How an instruction on strings is repeated. -/
inductive Repetition where
  | once
  /-- As long as two numbers are the same, if any are compared. -/
  | whileEqual
  | whileUnequal
deriving DecidableEq

/-- What stands in front of the code of an instruction with three operands. -/
structure VectorMark where
  /-- The register that is the first of two sources. -/
  first : Fin 16
  /-- Does the instruction work on 256 bits? -/
  isWide : Bool
deriving DecidableEq

/-- What stands in front of the code of an instruction. -/
structure Marks where
  /-- Where the instruction begins. -/
  start : UInt64
  /-- Does a mark prolong the numbers of registers? -/
  isLong : Bool
  /-- The four bits of that mark. -/
  bits : Nat
  /-- Is the instruction to work on two bytes? -/
  isNarrow : Bool
  /-- Have addresses only 32 bits? -/
  isShort : Bool
  repetition : Repetition
  /-- What is added to addresses. -/
  base : UInt64
  vector : Option VectorMark
deriving DecidableEq

/-- What an operand is: a register, or a place in memory. -/
inductive Target where
  | register (r : Fin 16)
  | memory (address : UInt64)
deriving DecidableEq

/-- A register, and a target. -/
structure Operands where
  /-- The number of the register without what prolongs it. -/
  digit : Nat
  register : Fin 16
  target : Target
deriving DecidableEq

namespace Marks

open Execution

/-- No marks. -/
def none : Marks where
  start := 0
  isLong := false
  bits := 0
  isNarrow := false
  isShort := false
  repetition := .once
  base := 0
  vector := Option.none

/-- Where the data of the thread stand. -/
def threadBase : UInt64 := 0x7FFFC0000000

/-- The marks with those of one more byte, if it is a mark. A mark that prolongs counts only if it stands
last. -/
def add? (x : Marks) (code : Nat) : Option Marks :=
  let y := { x with isLong := false, bits := 0 }
  match code with
  | 0x26 | 0x2E | 0x36 | 0x3E | 0xF0 => some y
  | 0x64 => some { y with base := threadBase }
  | 0x65 => some { y with base := 0 }
  | 0x66 => some { y with isNarrow := true }
  | 0x67 => some { y with isShort := true }
  | 0xF2 => some { y with repetition := .whileUnequal }
  | 0xF3 => some { y with repetition := .whileEqual }
  | _ => if code / 16 = 4 then some { y with isLong := true, bits := code % 16 } else Option.none

/-- Fetches marks, up to a bound, and the code behind them. -/
def fetchUpTo : Nat → Marks → Execution (Marks × Nat)
  | 0, _ => failure
  | bound + 1, x => do
    let code ← Execution.fetch .one
    match x.add? code with
    | some y => fetchUpTo bound y
    | Option.none => return (x, code)

/-- Fetches the marks of an instruction and the code behind them. -/
def fetch : Execution (Marks × Nat) := do
  fetchUpTo 15 { none with start := (← get).next }

/-- Does a mark ask for eight bytes? -/
def isEight (x : Marks) : Bool :=
  x.bits.testBit 3

/-- On how many bytes the instruction works that can work on several. -/
def width (x : Marks) : Width :=
  if x.isEight then .eight else if x.isNarrow then .two else .four

/-- On how many bytes the instruction with a code works; even codes work on one. -/
def widthOf (x : Marks) (code : Nat) : Width :=
  if code % 2 = 0 then .one else x.width

/-- On how many bytes the instruction works if it moves addresses. -/
def addressWidth (x : Marks) : Width :=
  if x.isNarrow ∧ !x.isEight then .two else .eight

/-- On how many bytes a register counts. -/
def countWidth (x : Marks) : Width :=
  if x.isShort then .four else .eight

/-- The register with a number, of which four bits count. -/
def registerOf (number : Nat) : Fin 16 :=
  ⟨number % 16, Nat.mod_lt number (by decide)⟩

/-- The number of a register, prolonged by one of the bits. -/
def prolong (x : Marks) (bit number : Nat) : Fin 16 :=
  registerOf (number + 8 * (x.bits / bit % 2))

/-- The place of a register. Without a mark the upper four of one byte are second bytes. -/
def place (x : Marks) (w : Width) (r : Fin 16) : Place :=
  if w = .one ∧ !x.isLong ∧ 4 ≤ r.val ∧ r.val < 8 then .highByte (registerOf (r.val - 4))
  else .register r

/-- The number in a target. -/
def read (x : Marks) (w : Width) : Target → Execution Nat
  | .register r => readPlace w (x.place w r)
  | .memory address => readPlace w (.memory address)

/-- Changes the number in a target. -/
def write (x : Marks) (w : Width) (t : Target) (n : Nat) : Execution Unit :=
  match t with
  | .register r => writePlace w (x.place w r) n
  | .memory address => writePlace w (.memory address) n

/-- The distance behind the byte that tells the target. -/
def distance (mode : Nat) : Execution UInt64 :=
  match mode with
  | 1 => fetchSigned .one
  | 2 => fetchSigned .four
  | _ => return 0

/-- The number in a register of an address. -/
def part (x : Marks) (bit number : Nat) : Execution UInt64 :=
  return (← get).register (x.prolong bit number)

/-- An address as it counts. -/
def located (x : Marks) (address : UInt64) : UInt64 :=
  x.base + if x.isShort then address % 0x100000000 else address

/-- An address that is the sum of two registers, one of them multiplied, and a distance. -/
def sumAddress (x : Marks) (mode : Nat) : Execution UInt64 := do
  let b ← Execution.fetch .one
  let index ←
    if (x.prolong 2 (b / 8 % 8)).val = 4 then pure 0 else x.part 2 (b / 8 % 8)
  let scaled := index <<< UInt64.ofNat (b / 64)
  if b % 8 = 5 ∧ mode = 0 then return scaled + (← fetchSigned .four)
  else
    let base ← x.part 1 (b % 8)
    return base + scaled + (← distance mode)

/-- An address in memory. So many bytes of the instruction follow as `behind` tells. -/
def address (x : Marks) (mode number behind : Nat) : Execution UInt64 := do
  if number = 4 then x.sumAddress mode
  else if number = 5 ∧ mode = 0 then
    let d ← fetchSigned .four
    return (← get).next + UInt64.ofNat behind + d
  else
    let base ← x.part 1 number
    return base + (← distance mode)

/-- Fetches the byte that tells a register and a target. -/
def operands (x : Marks) (behind : Nat) : Execution Operands := do
  let b ← Execution.fetch .one
  let digit := b / 8 % 8
  let register := x.prolong 4 digit
  if b / 64 = 3 then return ⟨digit, register, .register (x.prolong 1 (b % 8))⟩
  else
    let address ← x.address (b / 64) (b % 8) behind
    return ⟨digit, register, .memory (x.located address)⟩

/-- The byte that tells a register and a target, without going behind it. -/
def peek : Execution Nat :=
  return (← get).memory.number (← get).next 1

end Marks
end GrammarAssay
