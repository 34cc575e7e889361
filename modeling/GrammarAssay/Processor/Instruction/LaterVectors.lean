import GrammarAssay.Processor.Cipher
import GrammarAssay.Processor.Digest
import GrammarAssay.Processor.Instruction.Integer
import GrammarAssay.Processor.Instruction.VectorFractions
import GrammarAssay.Processor.TextMatch

/-!
# Instructions with codes of three bytes

**Input.** A processor, and the third byte of the code of the instruction that it has come to, behind 38 or
behind 3A. Behind 3A a number stands in the instruction.

**Results.**
* `LaterVectors.execute`, `LaterVectors.executeNumbered`: the instructions behind 38 and behind 3A.
-/

namespace GrammarAssay
namespace LaterVectors

open Execution Vectors

/-- Takes lanes of the source where the highest bits of lanes of the first vector register are set. -/
def blendByVector (x : Marks) (width : Nat) : Execution Unit := do
  let mask ← readVector Processor.firstVector
  combine x false fun _ a b =>
    return Lanes.blend width 128 a b (Lanes.signs width 128 (mask % Lanes.power 128))

/-- Tells whether two vectors have bits in common, and whether one has bits that the other has not. -/
def testBits (x : Marks) : Execution Unit := do
  let p ← x.operands 0
  let b ← readSource (size x) p.target
  let a := (← readVector p.register) % Lanes.power (size x)
  setFlags { (← flags).ofResult .four 0 with
    parity := false, zero := a &&& b == 0, carry := Lanes.without (size x) a b == 0 }

/-- Widens the lower lanes of the source. -/
def widen (x : Marks) (code : Nat) : Execution Unit := do
  let (narrow, wide) := Lanes.widening code
  let p ← x.operands 0
  let n ← readSource (size x / wide * narrow) p.target
  writeVector x p.register (Lanes.widen narrow wide (code < 0x30) (size x) n)

/-- Moves a number with its bytes in the opposite order. -/
def moveReversed (x : Marks) (isLoad : Bool) : Execution Unit := do
  let p ← x.operands 0
  let w := x.width
  match p.target with
  | .memory address =>
    if isLoad then
      writeRegister w p.register (Instruction.reverseBytes (← readMemory address w.bytes) w.bytes)
    else
      writeMemory address (Instruction.reverseBytes (← readRegister w p.register) w.bytes) w.bytes
  | .register _ => failure

/-- Goes on with a checksum. -/
def addToChecksum (x : Marks) (code : Nat) : Execution Unit := do
  let w := x.widthOf code
  let p ← x.operands 0
  let n ← x.read w p.target
  let old ← readRegister .four p.register
  writeRegister .eight p.register (Lanes.checksum (old ^^^ n) w.bits)

/-- Adds with one of two flags as the carry, and changes no other flag. -/
def addWithFlag (x : Marks) (isOverflow : Bool) : Execution Unit := do
  let w := if x.isEight then Width.eight else .four
  let p ← x.operands 0
  let f ← flags
  let total := (← readRegister w p.register) + (← x.read w p.target) +
    (if isOverflow then f.overflow else f.carry).toNat
  let carry := w.modulus ≤ total
  setFlags (if isOverflow then { f with overflow := carry } else { f with carry := carry })
  writeRegister w p.register (total % w.modulus)

/-- The least lane of the source, and its number. -/
def findLeast (x : Marks) : Execution Unit := do
  let p ← x.operands 0
  writeVector x p.register (Lanes.least (← readSource 128 p.target))

/-- Chooses bytes of the destination by the source. -/
def chooseBytes (x : Marks) : Execution Unit :=
  combineBoth x false fun unit _ a b => Lanes.chooseBytes unit a b

/-- The rounds of a cipher, by code. -/
def cipher? (code : Nat) : Option (Nat → Nat → Nat) :=
  match code with
  | 0xCF => some (Lanes.zip 8 128 FieldByte.product)
  | 0xDB => some fun _ b => Cipher.mixColumns Cipher.inverseFactors b
  | 0xDC => some (Cipher.round false)
  | 0xDD => some (Cipher.round true)
  | 0xDE => some (Cipher.inverseRound false)
  | 0xDF => some (Cipher.inverseRound true)
  | _ => none

/-- Goes on with a cipher or with a digest. -/
def encode (x : Marks) (code : Nat) : Execution Unit := do
  match kind x, cipher? code, Digest.change? code with
  | .narrow, some f, _ => combine x false fun _ a b => return f a b
  | .plain, none, some f =>
    let words ← readVector Processor.firstVector
    combine x false fun _ a b => return f a b words
  | _, _, _ => failure

/-- The instructions behind 38. -/
def execute (x : Marks) (code : Nat) : Execution Unit :=
  match code with
  | 0x00 => chooseBytes x
  | 0x10 => blendByVector x 8
  | 0x14 => blendByVector x 32
  | 0x15 => blendByVector x 64
  | 0x17 => testBits x
  | 0x2A => moveWhole x true
  | 0x41 => findLeast x
  | 0xF0 | 0xF1 =>
    if kind x = .double then addToChecksum x code else moveReversed x (code == 0xF0)
  | 0xF6 =>
    match kind x with
    | .narrow => addWithFlag x false
    | .single => addWithFlag x true
    | _ => failure
  | _ =>
    if [0x20, 0x21, 0x22, 0x23, 0x24, 0x25, 0x30, 0x31, 0x32, 0x33, 0x34, 0x35].contains code then
      widen x code
    else
      match Lanes.laterOperation? code, Lanes.pairing? code with
      | some o, _ => operate x o
      | none, some f => combineBoth x false fun unit _ a b => f unit a b
      | none, none => encode x code

/-- Takes a lane into a register or into memory. -/
def extract (x : Marks) (bits : Nat) : Execution Unit := do
  let p ← x.operands 1
  let index ← fetch .one
  let n := Lanes.lane bits (← readVector p.register) (index % (128 / bits))
  match p.target with
  | .register r => writeRegister (if bits = 64 then .eight else .four) r n
  | .memory address => writeMemory address n (bits / 8)

/-- Puts a lane of the source into a lane, and empties lanes. -/
def insertFraction (x : Marks) : Execution Unit := do
  let p ← x.operands 1
  let order ← fetch .one
  let n ←
    match p.target with
    | .register r => pure (Lanes.lane 32 (← readVector r) (order / 64))
    | .memory address => readMemory address 4
  let a := Lanes.setLane 32 ((← firstSource x p.register) % Lanes.power 128) (order / 16 % 4) n
  writeVector x p.register (Lanes.blend 32 128 a 0 (order % 16))

/-- Looks for a text in another one, and tells the places by flags and by a number or a vector. The lengths
of the texts are told by registers, or end before their first zeros. -/
def matchText (x : Marks) (code : Nat) : Execution Unit := do
  let p ← x.operands 1
  let m := TextMatch.ofNumber (← fetch .one)
  let a ← readVector p.register
  let b ← readSource 128 p.target
  let w := if x.isEight then Width.eight else .four
  let given (r : Fin 16) : Execution Nat := return m.givenLength (w.signed (← readRegister w r))
  let isGiven := code < 0x62
  let k ← if isGiven then given Processor.result else pure (m.length a)
  let l ← if isGiven then given Processor.upper else pure (m.length b)
  let found := m.places a b k l
  setFlags { ← flags with
    carry := found != 0, zero := l < m.count, sign := k < m.count, overflow := found.testBit 0
    adjust := false, parity := false }
  if code % 2 = 1 then writeRegister .four Processor.counter (m.index found)
  else writeVector x Processor.firstVector (m.mask found)

/-- The instructions behind 3A for one kind of vectors only. -/
def executeNarrow (x : Marks) (code : Nat) : Execution Unit :=
  match code with
  | 0x60 | 0x61 | 0x62 | 0x63 => matchText x code
  | 0xCE => combine x true fun n a b => return Cipher.affineBytes id n a b
  | 0xCF => combine x true fun n a b => return Cipher.affineBytes FieldByte.inverse n a b
  | 0xDF => combine x true fun n _ b => return Cipher.keyWords n b
  | _ => failure

/-- The instructions behind 3A. -/
def executeNumbered (x : Marks) (code : Nat) : Execution Unit :=
  let wide := if x.isEight then 64 else 32
  match code with
  | 0x08 => VectorFractions.combineAll x true .single VectorFractions.roundLane
  | 0x09 => VectorFractions.combineAll x true .double VectorFractions.roundLane
  | 0x0A => VectorFractions.combineLowest x true .single VectorFractions.roundLane
  | 0x0B => VectorFractions.combineLowest x true .double VectorFractions.roundLane
  | 0x0C => combine x true fun order a b => return Lanes.blend 32 128 a b order
  | 0x0D => combine x true fun order a b => return Lanes.blend 64 128 a b order
  | 0x0E => combine x true fun order a b => return Lanes.blend 16 128 a b order
  | 0x0F => combineBoth x true fun unit count a b => Lanes.align unit a b count
  | 0x14 => extract x 8
  | 0x15 => extract x 16
  | 0x16 => extract x wide
  | 0x17 => extract x 32
  | 0x20 => insertLane x 8 .four
  | 0x21 => insertFraction x
  | 0x22 => insertLane x wide (if x.isEight then .eight else .four)
  | 0x40 => combine x true (VectorFractions.dotProduct .single)
  | 0x41 => combine x true (VectorFractions.dotProduct .double)
  | 0x42 => combineNumbered x 8 fun order a b => return Lanes.distances a b order
  | 0x44 => combine x true fun order a b =>
      return Lanes.carrylessProduct (Lanes.lane 64 a (order % 2)) (Lanes.lane 64 b (order / 16 % 2)) 64
  | _ =>
    match kind x with
    | .narrow => executeNarrow x code
    | .plain =>
      if code = 0xCC then combine x true fun n a b => return Digest.fourRounds n a b else failure
    | _ => failure

end LaterVectors
end GrammarAssay
