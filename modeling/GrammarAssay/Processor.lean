import GrammarAssay.Memory
import GrammarAssay.Processor.Flags
import GrammarAssay.Processor.FractionStack

/-!
# The processor

**Input.** A processor has sixteen registers of 64 bits, flags that tell about the last result, sixteen
registers for vectors, a stack of fractions, the address of the next instruction, and memory.

**Algorithm.** Instructions work on one, two, four or eight bytes. What has four bytes is written to a
register with zeros in front; what has fewer leaves the rest of the register as it is.

**Results.**
* `Processor.read`, `Processor.write`: what stands at a place, and a change of it.
* `Processor.push`, `Processor.pop`: the stack.
-/

namespace GrammarAssay

structure Processor where
  registers : Vector UInt64 16
  flags : Flags
  /-- The address of the next instruction. -/
  next : UInt64
  memory : Memory
  /-- The registers for vectors, as numbers below the 256th power of two. -/
  vectors : Vector Nat 16
  /-- How arithmetic on vectors rounds, and what it has met with. -/
  vectorControl : Nat
  fractions : FractionStack
  /-- The selectors of segments. -/
  selectors : Vector Nat 6

/-- Where an instruction finds a number. -/
inductive Place where
  | register (r : Fin 16)
  /-- The second byte of a register. -/
  | highByte (r : Fin 16)
  | memory (address : UInt64)
deriving DecidableEq

namespace Processor

/-- The register that holds results. -/
def result : Fin 16 := 0

/-- The register that counts. -/
def counter : Fin 16 := 1

/-- The register that holds the upper half of a result. -/
def upper : Fin 16 := 2

/-- A register that holds addresses. -/
def base : Fin 16 := 3

/-- The register that holds the end of the stack. -/
def stack : Fin 16 := 4

/-- The register that holds the frame of a function. -/
def frame : Fin 16 := 5

/-- The register that holds where a string is read. -/
def source : Fin 16 := 6

/-- The register that holds where a string is written. -/
def target : Fin 16 := 7

/-- The register that a request to the system loses. -/
def lost : Fin 16 := 11

def argumentRegisters : List (Fin 16) :=
  [target, source, upper, counter, 8, 9]

/-- The registers that a function leaves as they were. -/
def keptRegisters : List (Fin 16) :=
  [base, frame, 12, 13, 14, 15]

/-- The vector register of the first fraction that a function gets, and of the fraction that it gives. -/
def firstVector : Fin 16 := 0

/-- The vector register of the second fraction that a function gets. -/
def secondVector : Fin 16 := 1

def programSelectors : Vector Nat 6 :=
  #v[0, 0x33, 0x2B, 0, 0, 0]

/-- A processor with empty registers that goes on at an address. -/
def fresh (m : Memory) (address : UInt64) : Processor where
  registers := Vector.replicate 16 0
  flags := .clear
  next := address
  memory := m
  vectors := Vector.replicate 16 0
  vectorControl := 0x1F80
  fractions := .fresh
  selectors := programSelectors

/-- The number in a register. -/
def register (p : Processor) (r : Fin 16) : UInt64 :=
  p.registers.get r

/-- Changes a register. -/
def setRegister (p : Processor) (r : Fin 16) (value : UInt64) : Processor :=
  { p with registers := p.registers.set r.val value r.isLt }

/-- The number in a vector register. -/
def vector (p : Processor) (r : Fin 16) : Nat :=
  p.vectors.get r

/-- Changes a vector register. -/
def setVector (p : Processor) (r : Fin 16) (n : Nat) : Processor :=
  { p with vectors := p.vectors.set r.val n r.isLt }

/-- The number at a place. -/
def read (p : Processor) (w : Width) : Place → Nat
  | .register r => (p.register r).toNat % w.modulus
  | .highByte r => (p.register r).toNat / 256 % 256
  | .memory address => p.memory.number address w.bytes

/-- Changes a register as far as a number reaches. -/
def writeRegister (p : Processor) (w : Width) (r : Fin 16) (n : Nat) : Processor :=
  match w with
  | .four | .eight => p.setRegister r (UInt64.ofNat (n % w.modulus))
  | .one | .two =>
    let old := (p.register r).toNat
    p.setRegister r (UInt64.ofNat (old - old % w.modulus + n % w.modulus))

/-- Changes the second byte of a register. -/
def writeHighByte (p : Processor) (r : Fin 16) (n : Nat) : Processor :=
  let old := (p.register r).toNat
  p.setRegister r (UInt64.ofNat (old - old / 256 % 256 * 256 + n % 256 * 256))

/-- Changes memory. -/
def writeMemory (p : Processor) (address : UInt64) (n width : Nat) : Processor :=
  { p with memory := p.memory.putNumber address n width }

/-- Changes the number at a place. -/
def write (p : Processor) (w : Width) (place : Place) (n : Nat) : Processor :=
  match place with
  | .register r => p.writeRegister w r n
  | .highByte r => p.writeHighByte r n
  | .memory address => p.writeMemory address n w.bytes

/-- Puts a number on the stack. -/
def push (p : Processor) (w : Width) (n : Nat) : Processor :=
  let address := p.register stack - UInt64.ofNat w.bytes
  (p.setRegister stack address).writeMemory address n w.bytes

/-- Takes a number from the stack. -/
def pop (p : Processor) (w : Width) : Nat × Processor :=
  let address := p.register stack
  (p.memory.number address w.bytes, p.setRegister stack (address + UInt64.ofNat w.bytes))

end Processor
end GrammarAssay
