/-!
# Widths and flags

**Input.** The result of an instruction on one, two, four or eight bytes.

**Algorithm.** Flags tell whether the result is zero, whether its highest bit is set, whether its lowest
byte has an even number of bits set, and what did not fit into it: a bit behind the highest, a bit behind
the lowest four, or a sign. One more flag tells the direction in which strings are gone through.

**Results.**
* `Width`: how many bytes an instruction works on.
* `Flags`, `Flags.holds`: the flags, and the conditions on them.
* `Flags.toNat`, `Flags.ofNat`: the flags as a number.
-/

namespace GrammarAssay

/-- How many bytes an instruction works on. -/
inductive Width where
  | one
  | two
  | four
  | eight
deriving DecidableEq

namespace Width

/-- The number of bytes. -/
def bytes : Width → Nat
  | one => 1
  | two => 2
  | four => 4
  | eight => 8

/-- The number of bits. -/
def bits : Width → Nat
  | one => 8
  | two => 16
  | four => 32
  | eight => 64

/-- How many numbers have the width. -/
def modulus : Width → Nat
  | one => 0x100
  | two => 0x10000
  | four => 0x100000000
  | eight => 0x10000000000000000

/-- Half as many numbers. -/
def half : Width → Nat
  | one => 0x80
  | two => 0x8000
  | four => 0x80000000
  | eight => 0x8000000000000000

/-- The next smaller width. -/
def narrower : Width → Width
  | one => one
  | two => one
  | four => two
  | eight => four

/-- Is the highest bit of a number set? -/
def isNegative (w : Width) (n : Nat) : Bool :=
  w.half ≤ n % w.modulus

/-- The number with its highest bit as a sign. -/
def signed (w : Width) (n : Nat) : Int :=
  let n := n % w.modulus
  if w.half ≤ n then (n : Int) - w.modulus else n

/-- The number of the width that stands for a number with a sign. -/
def ofSigned (w : Width) (n : Int) : Nat :=
  (n % (w.modulus : Int)).toNat

/-- The number in 64 bits, its highest bit repeated in front. -/
def extend (w : Width) (n : Nat) : UInt64 :=
  let n := n % w.modulus
  if w.half ≤ n then UInt64.ofNat (n + (UInt64.size - w.modulus)) else UInt64.ofNat n

end Width

/-- What is known of the last result. -/
structure Flags where
  carry : Bool
  parity : Bool
  /-- Did a bit behind the lowest four not fit? -/
  adjust : Bool
  zero : Bool
  sign : Bool
  overflow : Bool
  /-- Are strings gone through from their ends? -/
  isBackward : Bool
  /-- Bits that no instruction looks at, as a number. -/
  others : Nat
deriving DecidableEq

namespace Flags

/-- Nothing is known. -/
def clear : Flags where
  carry := false
  parity := false
  adjust := false
  zero := false
  sign := false
  overflow := false
  isBackward := false
  others := 0

/-- Has a number an even number of bits set among its lowest eight? -/
def hasParity (n : Nat) : Bool :=
  let n := n % 256
  let n := n ^^^ (n / 16)
  let n := n ^^^ (n / 4)
  (n ^^^ (n / 2)) % 2 == 0

/-- The flags of a result. Nothing failed to fit. -/
def ofResult (f : Flags) (w : Width) (n : Nat) : Flags :=
  { f with
    carry := false
    parity := hasParity n
    adjust := false
    zero := n % w.modulus == 0
    sign := w.isNegative n
    overflow := false }

/-- Does the condition with a number hold? Every odd condition is the opposite of the one before. -/
def holds (f : Flags) (condition : Nat) : Bool :=
  let positive :=
    match condition / 2 with
    | 0 => f.overflow
    | 1 => f.carry
    | 2 => f.zero
    | 3 => f.carry || f.zero
    | 4 => f.sign
    | 5 => f.parity
    | 6 => f.sign != f.overflow
    | _ => f.zero || f.sign != f.overflow
  positive != (condition % 2 == 1)

/-- The bits that no instruction looks at and that a program may set. -/
def otherBits : Nat := 0x244000

/-- The flags as a number. -/
def toNat (f : Flags) : Nat :=
  0x202 + f.others + f.carry.toNat + 4 * f.parity.toNat + 0x10 * f.adjust.toNat +
    0x40 * f.zero.toNat + 0x80 * f.sign.toNat + 0x400 * f.isBackward.toNat +
    0x800 * f.overflow.toNat

/-- The flags that a number tells. -/
def ofNat (n : Nat) : Flags where
  carry := n.testBit 0
  parity := n.testBit 2
  adjust := n.testBit 4
  zero := n.testBit 6
  sign := n.testBit 7
  overflow := n.testBit 11
  isBackward := n.testBit 10
  others := n &&& otherBits

/-- The flags with the lowest five replaced by those of a number. -/
def setLow (f : Flags) (n : Nat) : Flags :=
  { ofNat n with overflow := f.overflow, isBackward := f.isBackward, others := f.others }

end Flags
end GrammarAssay
