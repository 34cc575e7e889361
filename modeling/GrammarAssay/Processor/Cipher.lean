import GrammarAssay.Processor.Vector

/-!
# Bytes as polynomials, and rounds of a cipher

**Input.** A byte stands for a polynomial of degree below eight whose coefficients are its bits. A block of
sixteen bytes is a square of four columns, each from above to below.

**Algorithm.** Polynomials are multiplied without carries, and what is too large is reduced by a fixed
polynomial of degree eight. Every byte but zero has an inverse. A round of the cipher moves the rows of a
block, replaces each byte by an affine image of its inverse, mixes the columns, and adds a key.

**Results.**
* `FieldByte.product`, `FieldByte.inverse`, `FieldByte.affine`: operations on bytes.
* `Cipher.round`, `Cipher.inverseRound`: the rounds.
* `Cipher.keyWords`: a step of the computation of keys.
-/

namespace GrammarAssay
namespace FieldByte

/-- Reduces a polynomial whose degree is less than eight above a number of steps. -/
def reduce (n : Nat) : Nat → Nat
  | 0 => n
  | bits + 1 => reduce (if n.testBit (bits + 8) then n ^^^ (0x11B <<< bits) else n) bits

/-- The product of two bytes. -/
def product (a b : Nat) : Nat :=
  reduce (Lanes.carrylessProduct a b 8) 7

/-- The inverse of a byte; that of zero is zero. It is the product of the powers of the byte whose
exponents are powers of two, from two on. -/
def inverse (a : Nat) : Nat :=
  let step (s : Nat × Nat) : Nat × Nat :=
    let square := product s.1 s.1
    (square, product s.2 square)
  ((List.range 7).foldl (fun s _ => step s) (a, 1)).2

/-- A byte multiplied by a square matrix of bits, whose last row comes first, and moved by a byte. -/
def affine (matrix byte constant : Nat) : Nat :=
  Lanes.join 1 ((List.range 8).map fun i =>
    let common := Lanes.lane 8 matrix (7 - i) &&& byte
    ((List.range 8).countP (common.testBit ·) + (constant.testBit i).toNat) % 2)

end FieldByte

namespace Cipher

open FieldByte

/-- The byte that replaces a byte in a round. -/
def replace (n : Nat) : Nat :=
  affine 0xF1E3C78F1F3E7CF8 (inverse n) 0x63

/-- The byte that was replaced by a byte. -/
def restore (n : Nat) : Nat :=
  inverse (affine 0xA44992254A942952 n 0x05)

/-- The bytes of a block. -/
def bytes (block : Nat) : List Nat :=
  Lanes.split 8 16 block

/-- The block in which each row is moved to the left by its number, so many times. -/
def moveRows (times block : Nat) : Nat :=
  Lanes.join 8 ((List.range 16).map fun i => Lanes.lane 8 block ((i + 4 * times * (i % 4)) % 16))

/-- The block whose columns are multiplied by the matrix that repeats a row of four factors, moved to the
right by one each time. -/
def mixColumns (factors : List Nat) (block : Nat) : Nat :=
  Lanes.join 8 ((List.range 16).map fun i =>
    (List.range 4).foldl (fun n k =>
      let factor := (factors[(k + 4 - i % 4) % 4]?).getD 0
      n ^^^ product factor (Lanes.lane 8 block (i / 4 * 4 + k))) 0)

/-- The factors of a round. -/
def factors : List Nat := [2, 3, 1, 1]

/-- The factors of a round that is undone. -/
def inverseFactors : List Nat := [14, 11, 13, 9]

/-- A round with a key. The last one leaves the columns as they are. -/
def round (isLast : Bool) (block key : Nat) : Nat :=
  let n := Lanes.map 8 128 replace (moveRows 1 block)
  (if isLast then n else mixColumns factors n) ^^^ key

/-- A round that is undone. -/
def inverseRound (isLast : Bool) (block key : Nat) : Nat :=
  let n := Lanes.map 8 128 restore (moveRows 3 block)
  (if isLast then n else mixColumns inverseFactors n) ^^^ key

/-- The second and the fourth word of a block with their bytes replaced, and each turned by a byte, with
a constant added. -/
def keyWords (constant block : Nat) : Nat :=
  let replaced (i : Nat) : Nat := Lanes.map 8 32 replace (Lanes.lane 32 block i)
  let turned (n : Nat) : Nat := (n / 256 + n % 256 * 0x1000000) ^^^ constant
  Lanes.join 32 [replaced 1, turned (replaced 1), replaced 3, turned (replaced 3)]

/-- The operation on bytes with a block of matrices. -/
def affineBytes (f : Nat → Nat) (constant block matrices : Nat) : Nat :=
  Lanes.zip 64 128 (fun n m => Lanes.map 8 64 (fun b => affine m (f b) constant) n) block matrices

end Cipher
end GrammarAssay
