import GrammarAssay.Fraction.Format

/-!
# The stack of fractions

**Input.** A processor has eight registers for fractions of 80 bits, which are used as a stack: one of them
is the top, and the others follow it in a circle. A register can be empty.

**Algorithm.** Results are rounded to the number of digits and in the way that the control word tells. The
status word tells what operations have met with, and what the last comparison found. The lowest 64 bits of
the registers serve for short vectors too. Whoever writes such a vector fills all registers.

**Results.**
* `FractionStack.get`, `FractionStack.put`: a register, counted from the top.
* `FractionStack.push`, `FractionStack.pop`: the stack.
* `FractionStack.vector`, `FractionStack.putVector`: the short vectors.
-/

namespace GrammarAssay

structure FractionStack where
  registers : Vector Nat 8
  isFilled : Vector Bool 8
  top : Fin 8
  control : Nat
  /-- The status word without the number of the top, and without the bits that sum it up. -/
  status : Nat
  /-- Where the last instruction on fractions stands. -/
  instruction : UInt64

namespace FractionStack

/-- An empty stack. -/
def fresh : FractionStack where
  registers := Vector.replicate 8 0
  isFilled := Vector.replicate 8 false
  top := 0
  control := 0x37F
  status := 0
  instruction := 0

/-- The register with a number, of which three bits count. -/
def registerOf (number : Nat) : Fin 8 :=
  ⟨number % 8, Nat.mod_lt number (by decide)⟩

/-- The register so many places below the top. -/
def place (s : FractionStack) (index : Nat) : Fin 8 :=
  registerOf (s.top.val + index)

/-- The way in which results are rounded. -/
def rounding (s : FractionStack) : Rounding :=
  .ofCode (s.control / 1024 % 4)

/-- The format of results, which has a wide exponent in any case. -/
def format (s : FractionStack) : Format :=
  match s.control / 256 % 4 with
  | 0 => ⟨24, 15, true⟩
  | 2 => ⟨53, 15, true⟩
  | _ => .extended

/-- The bit that tells that a register was empty, or not empty. -/
def wrongUse : Nat := 0x40

/-- The bits that a comparison or another operation sets. -/
def conditionBits : Nat := 0x4700

/-- Adds what an operation met with. -/
def note (s : FractionStack) (notes : Fraction.Notes) : FractionStack :=
  { s with status := s.status ||| notes }

/-- Sets the condition bits. -/
def setConditions (s : FractionStack) (bits : Nat) : FractionStack :=
  { s with status := (s.status &&& (0xFFFF ^^^ conditionBits)) ||| bits }

/-- Was something met with that the control word does not let pass? -/
def isPending (s : FractionStack) : Bool :=
  s.status &&& (0x3F ^^^ (s.control % 0x40)) != 0

def statusWord (s : FractionStack) : Nat :=
  s.status ||| (s.top.val * 0x800) ||| (if s.isPending then 0x8080 else 0)

/-- Changes the control word, of which some bits have fixed values. -/
def setControl (s : FractionStack) (n : Nat) : FractionStack :=
  { s with control := (n &&& 0x1F3F) ||| 0x40 }

/-- The bits of a register. -/
def bits (s : FractionStack) (index : Nat) : Nat :=
  s.registers.get (s.place index)

/-- Is a register filled? -/
def has (s : FractionStack) (index : Nat) : Bool :=
  s.isFilled.get (s.place index)

/-- The bits of a register, or of no number if it is empty. -/
def value (s : FractionStack) (index : Nat) : Nat :=
  if s.has index then s.bits index else Format.extended.encode .undefined

/-- Tells whether the fraction in a register is too small to have all digits. -/
def smallness (s : FractionStack) (index : Nat) : Fraction.Notes :=
  if s.has index && Format.extended.isSmall (s.bits index) then Fraction.small else 0

/-- The fraction in a register. An empty one holds none. -/
def get (s : FractionStack) (index : Nat) : Fraction :=
  if s.has index then Format.extended.decode (s.bits index) else .malformed

/-- Changes the bits of a register, and fills it. -/
def putBits (s : FractionStack) (index n : Nat) : FractionStack :=
  let i := s.place index
  { s with
    registers := s.registers.set i.val n i.isLt
    isFilled := s.isFilled.set i.val true i.isLt }

/-- Changes a register. -/
def put (s : FractionStack) (index : Nat) (x : Fraction) : FractionStack :=
  s.putBits index (Format.extended.encode x)

/-- Empties a register. -/
def free (s : FractionStack) (index : Nat) : FractionStack :=
  let i := s.place index
  { s with isFilled := s.isFilled.set i.val false i.isLt }

/-- Turns the circle of registers. -/
def turn (s : FractionStack) (count : Nat) : FractionStack :=
  { s with top := registerOf (s.top.val + count) }

/-- Puts bits on the stack. -/
def pushBits (s : FractionStack) (n : Nat) : FractionStack :=
  let s := s.turn 7
  if s.has 0 then
    ((s.putBits 0 (Format.extended.encode .undefined)).note (Fraction.invalid ||| wrongUse)).note 0x200
  else s.putBits 0 n

/-- Puts a fraction on the stack. -/
def push (s : FractionStack) (x : Fraction) : FractionStack :=
  s.pushBits (Format.extended.encode x)

/-- Takes a fraction from the stack. -/
def pop (s : FractionStack) : FractionStack :=
  (s.free 0).turn 1

/-- The short vector with a number. -/
def vector (s : FractionStack) (number : Nat) : Nat :=
  s.registers.get (registerOf number) % 0x10000000000000000

/-- Makes the registers ready for short vectors. -/
def useVectors (s : FractionStack) : FractionStack :=
  { s with top := 0, isFilled := Vector.replicate 8 true }

/-- Changes the short vector with a number. -/
def putVector (s : FractionStack) (number n : Nat) : FractionStack :=
  let i := registerOf number
  { s.useVectors with registers := s.registers.set i.val (0xFFFF0000000000000000 + n) i.isLt }

/-- Makes the registers ready for fractions. -/
def useFractions (s : FractionStack) : FractionStack :=
  { s with top := 0, isFilled := Vector.replicate 8 false }

/-- The stack as it is at first, but for what its registers hold. -/
def reset (s : FractionStack) : FractionStack :=
  { fresh with registers := s.registers }

end FractionStack
end GrammarAssay
