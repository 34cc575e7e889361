import GrammarAssay.Processor.Flags

/-!
# Arithmetic of the processor

**Input.** Numbers of one width.

**Results.**
* `Arithmetic.apply`: the result of an operation on two numbers, with its flags.
* `Shift.apply`, `Shift.doubleLeft`: numbers moved by bits, with the flags.
* `signedProduct`, `quotient?`: products and quotients, with signs or without.
* `spread`, `gatherBits`: bits put to chosen places, and taken from them.
-/

namespace GrammarAssay

/-- The operations on two numbers, in the order of their codes. -/
inductive Arithmetic where
  | add
  | or
  | addWithCarry
  | subtractWithCarry
  | and
  | subtract
  | xor
  | compare
deriving DecidableEq

namespace Arithmetic

/-- The operation with a code. -/
def ofCode : Nat → Arithmetic
  | 0 => add
  | 1 => or
  | 2 => addWithCarry
  | 3 => subtractWithCarry
  | 4 => and
  | 5 => subtract
  | 6 => xor
  | _ => compare

def sum (f : Flags) (w : Width) (a b carry : Nat) : Nat × Flags :=
  let total := a + b + carry
  let n := total % w.modulus
  let overflow := w.isNegative a == w.isNegative b && w.isNegative n != w.isNegative a
  (n, { f.ofResult w n with
    carry := w.modulus ≤ total
    adjust := 16 ≤ a % 16 + b % 16 + carry
    overflow := overflow })

def difference (f : Flags) (w : Width) (a b carry : Nat) : Nat × Flags :=
  let n := (a + (w.modulus - b % w.modulus) + (w.modulus - carry)) % w.modulus
  let overflow := w.isNegative a != w.isNegative b && w.isNegative n != w.isNegative a
  (n, { f.ofResult w n with
    carry := a < b + carry
    adjust := a % 16 < b % 16 + carry
    overflow := overflow })

/-- A result that was found bit by bit. -/
def bitwise (f : Flags) (w : Width) (n : Nat) : Nat × Flags :=
  (n % w.modulus, f.ofResult w n)

/-- The result of an operation. -/
def apply (o : Arithmetic) (f : Flags) (w : Width) (a b : Nat) : Nat × Flags :=
  match o with
  | add => sum f w a b 0
  | or => bitwise f w (a ||| b)
  | addWithCarry => sum f w a b f.carry.toNat
  | subtractWithCarry => difference f w a b f.carry.toNat
  | and => bitwise f w (a &&& b)
  | subtract | compare => difference f w a b 0
  | xor => bitwise f w (a ^^^ b)

/-- Is the result of the operation kept? -/
def isKept (o : Arithmetic) : Bool :=
  o != compare

end Arithmetic

/-- The ways to move a number by bits, in the order of their codes. -/
inductive Shift where
  | rotateLeft
  | rotateRight
  /-- The carry is turned round too. -/
  | carryLeft
  | carryRight
  | left
  | right
  | signedRight
deriving DecidableEq

namespace Shift

/-- The way with a code. -/
def ofCode : Nat → Shift
  | 0 => rotateLeft
  | 1 => rotateRight
  | 2 => carryLeft
  | 3 => carryRight
  | 5 => right
  | 7 => signedRight
  | _ => left

/-- By how many bits a number is moved, of a count in eight bits. -/
def reach (w : Width) (count : Nat) : Nat :=
  count % (if w = .eight then 64 else 32)

/-- A number of so many bits, turned to the left. -/
def turn (bits n count : Nat) : Nat :=
  let count := count % bits
  ((n <<< count) ||| (n >>> (bits - count))) % (1 <<< bits)

/-- The number moved, and the bit that was moved out last. -/
def moved (s : Shift) (w : Width) (carry : Bool) (n count : Nat) : Nat × Bool :=
  match s with
  | rotateLeft =>
    let r := turn w.bits n count
    (r, r.testBit 0)
  | rotateRight =>
    let r := turn w.bits n (w.bits - count % w.bits)
    (r, w.isNegative r)
  | carryLeft =>
    let r := turn (w.bits + 1) (n + carry.toNat * w.modulus) count
    (r % w.modulus, r.testBit w.bits)
  | carryRight =>
    let r := turn (w.bits + 1) (n + carry.toNat * w.modulus) (w.bits + 1 - count % (w.bits + 1))
    (r % w.modulus, r.testBit w.bits)
  | left =>
    let r := n <<< count
    (r % w.modulus, r.testBit w.bits)
  | right => (n >>> count, n.testBit (count - 1))
  | signedRight =>
    let r := w.signed n
    (w.ofSigned (r >>> count), (w.ofSigned (r >>> (count - 1))).testBit 0)

/-- Does a number that is moved by one bit change its sign? -/
def hasOverflow (s : Shift) (w : Width) (carry : Bool) (n : Nat) : Bool :=
  match s with
  | rotateLeft | carryLeft | left => w.isNegative n != n.testBit (w.bits - 2)
  | rotateRight => w.isNegative n != n.testBit 0
  | carryRight => w.isNegative n != carry
  | right => w.isNegative n
  | signedRight => false

/-- Does the way turn a number round? Then only two flags change. -/
def isTurn : Shift → Bool
  | rotateLeft | rotateRight | carryLeft | carryRight => true
  | left | right | signedRight => false

/-- Does a move by so many bits bring each bit, and the carry, to its place again? -/
def isWhole (s : Shift) (w : Width) (count : Nat) : Bool :=
  (s == carryLeft || s == carryRight) && count % (w.bits + 1) == 0

/-- Moves a number by bits. Without a move the flags stay; the overflow is that of a move by one bit,
by however many bits the number is moved. -/
def apply (s : Shift) (f : Flags) (w : Width) (n count : Nat) : Nat × Flags :=
  let count := reach w count
  if count = 0 || s.isWhole w count then (n, f)
  else
    let (r, carry) := s.moved w f.carry n count
    let g := if s.isTurn then f else f.ofResult w r
    (r, { g with carry := carry, overflow := s.hasOverflow w f.carry n })

/-- A number, and below it another one. A short number follows once more, as a count can be more
than its bits. -/
def joined (w : Width) (n other : Nat) : Nat :=
  if w = .two then (n * w.modulus + other) * w.modulus + n else n * w.modulus + other

/-- Moves a number to the left, and bits of another one into it. -/
def doubleLeft (f : Flags) (w : Width) (n other count : Nat) : Nat × Flags :=
  let count := reach w count
  if count = 0 then (n, f)
  else
    let below := if w = .two then 2 * w.bits else w.bits
    let both := joined w n other <<< count
    let r := (both >>> below) % w.modulus
    (r, { f.ofResult w r with
      carry := both.testBit (below + w.bits)
      overflow := left.hasOverflow w f.carry n })

/-- Moves a number to the right, and bits of another one into it. -/
def doubleRight (f : Flags) (w : Width) (n other count : Nat) : Nat × Flags :=
  let count := reach w count
  if count = 0 then (n, f)
  else
    let both := if w = .two then joined w n other else joined w other n
    let r := (both >>> count) % w.modulus
    (r, { f.ofResult w r with
      carry := both.testBit (count - 1)
      overflow := w.isNegative n != other.testBit 0 })

end Shift

/-- The product of two numbers with signs, in twice the width. -/
def signedProduct (w : Width) (a b : Nat) : Nat :=
  ((w.signed a * w.signed b) % ((w.modulus * w.modulus : Nat) : Int)).toNat

/-- Does the lower half of a product with a sign tell all of it? -/
def fitsSigned (w : Width) (n : Nat) : Bool :=
  n == ((w.signed n) % ((w.modulus * w.modulus : Nat) : Int)).toNat

/-- The flags of a product, which is never told to be zero. -/
def productFlags (f : Flags) (w : Width) (n : Nat) (fits : Bool) : Flags :=
  { f.ofResult w n with zero := false, carry := !fits, overflow := !fits }

/-- The quotient and the remainder of a number of twice the width, if the quotient fits. -/
def quotient? (w : Width) (n d : Nat) : Option (Nat × Nat) :=
  if d = 0 ∨ w.modulus ≤ n / d then none else some (n / d, n % d)

/-- The quotient towards zero and the remainder of a number of twice the width with a sign, if the
quotient fits. -/
def signedQuotient? (w : Width) (n d : Nat) : Option (Nat × Nat) :=
  let square := w.modulus * w.modulus
  let n : Int := if square / 2 ≤ n then (n : Int) - square else n
  let d := w.signed d
  let q := n.tdiv d
  if d = 0 ∨ q < -(w.half : Int) ∨ (w.half : Int) ≤ q then none
  else some (w.ofSigned q, w.ofSigned (n.tmod d))

/-- The number of the lowest bit that is set, below a bound. -/
def lowestBit (n : Nat) : Nat → Nat
  | 0 => 0
  | bound + 1 => if n % 2 = 1 then 0 else lowestBit (n / 2) bound + 1

/-- How many of so many bits are set. -/
def setBits (n bits : Nat) : Nat :=
  (List.range bits).countP (n.testBit ·)

/-- Puts the lowest bits of a number to the places of the bits that are set in a mask. -/
def spread (n mask : Nat) : Nat → Nat
  | 0 => 0
  | bits + 1 =>
    if mask % 2 = 1 then n % 2 + 2 * spread (n / 2) (mask / 2) bits
    else 2 * spread n (mask / 2) bits

/-- Takes the bits of a number at the places of the bits that are set in a mask. -/
def gatherBits (n mask : Nat) : Nat → Nat
  | 0 => 0
  | bits + 1 =>
    if mask % 2 = 1 then n % 2 + 2 * gatherBits (n / 2) (mask / 2) bits
    else gatherBits (n / 2) (mask / 2) bits

end GrammarAssay
