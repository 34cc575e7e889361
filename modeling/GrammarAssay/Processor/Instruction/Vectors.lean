import GrammarAssay.Processor.Operand
import GrammarAssay.Processor.Vector

/-!
# Instructions on vectors of integers

**Input.** A processor, and the code of the instruction that it has come to.

**Algorithm.** A mark tells whether an instruction works on short vectors of 64 bits or on vectors of 128
bits. One with three operands leaves both sources as they are and can work on 256 bits, half by half.

**Results.**
* `Vectors.kind`: what the marks tell about the operands.
* `Vectors.readSource`, `Vectors.writeVector`: the operands of an instruction on vectors.
* `Vectors.execute`: the instructions whose code has a second byte.
-/

namespace GrammarAssay
namespace Vectors

open Execution

/-- What the marks tell about the operands. -/
inductive Kind where
  | plain
  | narrow
  | single
  | double
deriving DecidableEq

/-- What the marks of an instruction tell. -/
def kind (x : Marks) : Kind :=
  match x.repetition with
  | .whileEqual => .single
  | .whileUnequal => .double
  | .once => if x.isNarrow then .narrow else .plain

/-- The number of bits of a vector. -/
def size (x : Marks) : Nat :=
  if x.vector.any VectorMark.isWide then 256 else 128

/-- The vector in a register. -/
def readVector (r : Fin 16) : Execution Nat :=
  return (← get).vector r

/-- Changes the vector in a register. With two operands the upper half stays. -/
def writeVector (x : Marks) (r : Fin 16) (n : Nat) : Execution Unit := do
  let old ← readVector r
  let n :=
    match x.vector with
    | some _ => n % Lanes.power 256
    | none => old - old % Lanes.power 128 + n % Lanes.power 128
  modify fun p => p.setVector r n

/-- So many bits of the vector in a target. -/
def readSource (bits : Nat) : Target → Execution Nat
  | .register r => return (← readVector r) % Lanes.power bits
  | .memory address => readMemory address (bits / 8)

/-- The first source of an instruction that changes a register. -/
def firstSource (x : Marks) (r : Fin 16) : Execution Nat :=
  readVector ((x.vector.map VectorMark.first).getD r)

/-- The short vector in a target. -/
def readShort : Target → Execution Nat
  | .register r => do
    modify fun p => { p with fractions := p.fractions.useVectors }
    return (← get).fractions.vector r.val
  | .memory address => readMemory address 8

/-- Changes a short vector. -/
def writeShort (r : Fin 16) (n : Nat) : Execution Unit :=
  modify fun p => { p with fractions := p.fractions.putVector r.val (n % Lanes.power 64) }

/-- Applies an operation on 128 bits to the vectors. -/
def halfByHalf (x : Marks) (f : Nat → Nat → Execution Nat) (a b : Nat) : Execution Nat := do
  let unit := Lanes.power 128
  if size x = 256 then
    let low ← f (a % unit) (b % unit)
    let high ← f (a / unit) (b / unit)
    return low % unit + high * unit
  else f (a % unit) (b % unit)

/-- The number in the instruction, if it has one. -/
def numberIf (isGiven : Bool) : Execution Nat :=
  if isGiven then fetch .one else return 0

/-- Combines two vectors, with a number that may stand in the instruction. -/
def combine (x : Marks) (isGiven : Bool) (f : Nat → Nat → Nat → Execution Nat) : Execution Unit := do
  let p ← x.operands isGiven.toNat
  let n ← numberIf isGiven
  let b ← readSource (size x) p.target
  let a ← firstSource x p.register
  writeVector x p.register (← halfByHalf x (f n) a b)

/-- Combines two vectors, with a number in the instruction of which the upper half uses what is left when
it is divided. -/
def combineNumbered (x : Marks) (divisor : Nat) (f : Nat → Nat → Nat → Execution Nat) :
    Execution Unit := do
  let p ← x.operands 1
  let n ← fetch .one
  let unit := Lanes.power 128
  let b ← readSource (size x) p.target
  let a ← firstSource x p.register
  let low ← f n (a % unit) (b % unit)
  let high ← if size x = 256 then f (n / divisor) (a / unit) (b / unit) else pure 0
  writeVector x p.register (low % unit + high * unit)

/-- Combines two short vectors, with a number that may stand in the instruction. -/
def combineShort (x : Marks) (isGiven : Bool) (f : Nat → Nat → Nat → Nat) : Execution Unit := do
  let p ← x.operands isGiven.toNat
  let n ← numberIf isGiven
  let b ← readShort p.target
  let a ← readShort (.register p.register)
  writeShort p.register (f n a b)

/-- Combines two vectors, short or long. -/
def combineBoth (x : Marks) (isGiven : Bool) (f : Nat → Nat → Nat → Nat → Nat) : Execution Unit :=
  match kind x with
  | .plain => combineShort x isGiven (f 64)
  | .narrow => combine x isGiven fun n a b => return f 128 n a b
  | _ => failure

/-- Carries out an operation lane by lane. -/
def operate (x : Marks) (o : Lanes.Operation) : Execution Unit :=
  combineBoth x false fun unit _ a b => Lanes.zip o.bits unit o.apply a b

/-- Moves the bits of lanes by a number that is a vector. -/
def slide (x : Marks) (s : Lanes.Slide) (bits : Nat) : Execution Unit := do
  let p ← x.operands 0
  match kind x with
  | .plain =>
    let count ← readShort p.target
    let n ← readShort (.register p.register)
    writeShort p.register (Lanes.slide s bits 64 n count)
  | .narrow =>
    let count := (← readSource 128 p.target) % Lanes.power 64
    let n ← firstSource x p.register
    writeVector x p.register
      (← halfByHalf x (fun a _ => return Lanes.slide s bits 128 a count) n 0)
  | _ => failure

/-- The move of bits with a code and a digit, by a number in the instruction. -/
def slideOf? (code digit : Nat) : Option (Nat → Nat → Nat → Nat) :=
  let bits := 1 <<< (code - 0x71 + 4)
  match digit with
  | 2 => some fun unit n count => Lanes.slide .right bits unit n count
  | 4 => if code = 0x73 then none else some fun unit n count => Lanes.slide .signedRight bits unit n count
  | 6 => some fun unit n count => Lanes.slide .left bits unit n count
  | 3 => if code = 0x73 then some fun _ n count => n >>> (8 * min count 16) else none
  | 7 => if code = 0x73 then some fun unit n count => (n <<< (8 * min count 16)) % Lanes.power unit else none
  | _ => none

/-- Moves the bits of lanes by a number in the instruction. -/
def slideBy (x : Marks) (code : Nat) : Execution Unit := do
  let p ← x.operands 1
  let count ← fetch .one
  match slideOf? code p.digit, p.target with
  | some f, .register r =>
    match kind x with
    | .plain => writeShort r (f 64 (← readShort p.target) count)
    | .narrow =>
      let n ← readVector r
      let destination := (x.vector.map VectorMark.first).getD r
      writeVector x destination (← halfByHalf x (fun a _ => return f 128 a count) n 0)
    | _ => failure
  | _, _ => failure

/-- Moves all bits from a target to a register, or back. -/
def moveWhole (x : Marks) (isLoad : Bool) : Execution Unit := do
  let p ← x.operands 0
  if isLoad then writeVector x p.register (← readSource (size x) p.target)
  else
    let n ← readVector p.register
    match p.target with
    | .register r => writeVector x r (n % Lanes.power (size x))
    | .memory address => writeMemory address n (size x / 8)

/-- Moves a short vector from a target to a register, or back. -/
def moveShort (x : Marks) (isLoad : Bool) : Execution Unit := do
  let p ← x.operands 0
  if isLoad then writeShort p.register (← readShort p.target)
  else
    let n ← readShort (.register p.register)
    match p.target with
    | .register r => writeShort r n
    | .memory address => writeMemory address n 8

/-- Moves the lowest lane. Between registers the other lanes come from the first source. -/
def moveLowest (x : Marks) (bits : Nat) (isLoad : Bool) : Execution Unit := do
  let p ← x.operands 0
  match p.target with
  | .memory address =>
    if isLoad then writeVector x p.register (← readMemory address (bits / 8))
    else writeMemory address (← readVector p.register) (bits / 8)
  | .register r =>
    let (target, source) := if isLoad then (p.register, r) else (r, p.register)
    let a ← firstSource x target
    writeVector x target (Lanes.setLane bits (a % Lanes.power 128) 0 (← readVector source))

/-- Moves a lane of 64 bits, the lower or the upper one. -/
def moveHalf (x : Marks) (isUpper isLoad : Bool) : Execution Unit := do
  let p ← x.operands 0
  let index := isUpper.toNat
  if isLoad then
    let a := (← firstSource x p.register) % Lanes.power 128
    let n ←
      match p.target with
      | .memory address => readMemory address 8
      | .register r => pure (Lanes.lane 64 (← readVector r) (1 - index))
    writeVector x p.register (Lanes.setLane 64 a index n)
  else
    match p.target with
    | .memory address => writeMemory address (Lanes.lane 64 (← readVector p.register) index) 8
    | .register _ => failure

/-- Doubles lanes: those with even numbers, those with odd ones, or the lower half. -/
def duplicate (x : Marks) (bits index : Nat) : Execution Unit :=
  combine x false fun _ _ b => return Lanes.join bits ((List.range (128 / bits)).map fun i =>
    Lanes.lane bits b (i / 2 * 2 + index))

/-- The codes 10 to 17. -/
def moveParts (x : Marks) (code : Nat) : Execution Unit :=
  let isLoad := code % 2 == 0
  match code, kind x with
  | 0x10, .single | 0x11, .single => moveLowest x 32 isLoad
  | 0x10, .double | 0x11, .double => moveLowest x 64 isLoad
  | 0x10, _ | 0x11, _ => moveWhole x isLoad
  | 0x12, .single => duplicate x 32 0
  | 0x12, .double => duplicate x 64 0
  | 0x16, .single => duplicate x 32 1
  | 0x12, _ | 0x13, _ => moveHalf x false isLoad
  | 0x16, _ | 0x17, _ => moveHalf x true isLoad
  | 0x14, .narrow => combine x false fun _ a b => return Lanes.interleave 64 false 128 a b
  | 0x15, .narrow => combine x false fun _ a b => return Lanes.interleave 64 true 128 a b
  | 0x14, _ => combine x false fun _ a b => return Lanes.interleave 32 false 128 a b
  | _, _ => combine x false fun _ a b => return Lanes.interleave 32 true 128 a b

/-- Moves a number between a register for integers and a vector. -/
def moveNumber (x : Marks) (isLoad : Bool) : Execution Unit := do
  let w := if x.isEight then Width.eight else .four
  let p ← x.operands 0
  match kind x, isLoad with
  | .plain, true => writeShort p.register (← x.read w p.target)
  | .plain, false => x.write w p.target ((← readShort (.register p.register)) % w.modulus)
  | .narrow, true => writeVector x p.register (← x.read w p.target)
  | .narrow, false => x.write w p.target ((← readVector p.register) % w.modulus)
  | .single, _ => writeVector x p.register (← readSource 64 p.target)
  | .double, _ => failure

/-- Moves the lower half between vectors, short or long. -/
def moveLower (x : Marks) : Execution Unit := do
  let p ← x.operands 0
  match kind x, p.target with
  | .narrow, .memory address => writeMemory address (← readVector p.register) 8
  | .narrow, .register r => writeVector x r ((← readVector p.register) % Lanes.power 64)
  | .single, .register _ => writeVector x p.register (← readShort p.target)
  | .double, .register r => writeShort p.register (← readVector r)
  | _, _ => failure

/-- Puts the lowest bits of a register into a lane. -/
def insertLane (x : Marks) (bits : Nat) (w : Width) : Execution Unit := do
  let p ← x.operands 1
  let index ← fetch .one
  let n ← x.read w p.target
  match kind x with
  | .plain =>
    let a ← readShort (.register p.register)
    writeShort p.register (Lanes.setLane bits a (index % (64 / bits)) n)
  | _ =>
    let a := (← firstSource x p.register) % Lanes.power 128
    writeVector x p.register (Lanes.setLane bits a (index % (128 / bits)) n)

/-- Takes a lane of 16 bits into a register. -/
def extractWord (x : Marks) : Execution Unit := do
  let p ← x.operands 1
  let index ← fetch .one
  match kind x with
  | .plain =>
    writeRegister .four p.register (Lanes.lane 16 (← readShort p.target) (index % 4))
  | _ => writeRegister .four p.register (Lanes.lane 16 (← readSource 128 p.target) (index % 8))

/-- Takes the highest bits of lanes into a register. -/
def takeSigns (x : Marks) (bits : Nat) : Execution Unit := do
  let p ← x.operands 0
  match kind x, bits with
  | .plain, 8 => writeRegister .four p.register (Lanes.signs 8 64 (← readShort p.target))
  | _, _ =>
    writeRegister .four p.register (Lanes.signs bits (size x) (← readSource (size x) p.target))

/-- Writes the bytes whose mask has its highest bit set. -/
def writeMasked (address : UInt64) (n mask : Nat) : Nat → Execution Unit
  | 0 => return
  | count + 1 => do
    if mask.testBit 7 then writeMemory address (n % 256) 1
    writeMasked (address + 1) (n / 256) (mask / 256) count

/-- Writes chosen bytes of a vector, short or long. -/
def moveMasked (x : Marks) : Execution Unit := do
  let p ← x.operands 0
  let address := x.located ((← get).register Processor.target)
  match kind x with
  | .plain =>
    let n ← readShort (.register p.register)
    writeMasked address n (← readShort p.target) 8
  | _ =>
    let n ← readVector p.register
    writeMasked address n (← readSource 128 p.target) 16

/-- Chooses lanes of the source by a number in the instruction. -/
def shuffle (x : Marks) : Execution Unit :=
  match kind x with
  | .plain => combineShort x true fun order _ b => Lanes.choose 16 b order
  | .narrow => combine x true fun order _ b => return Lanes.choose 32 b order
  | .double => combine x true fun order _ b =>
      return b - b % Lanes.power 64 + Lanes.choose 16 b order
  | .single => combine x true fun order _ b =>
      return b % Lanes.power 64 + Lanes.choose 16 (b >>> 64) order * Lanes.power 64

/-- Chooses lanes of both sources by a number in the instruction. -/
def shuffleBoth (x : Marks) : Execution Unit :=
  match kind x with
  | .narrow =>
    combineNumbered x 4 fun order a b =>
      return Lanes.join 64 [Lanes.lane 64 a (order % 2), Lanes.lane 64 b (order / 2 % 2)]
  | _ =>
    combine x true fun order a b =>
      let pick (n i : Nat) := Lanes.lane 32 n (Lanes.lane 2 order i)
      return Lanes.join 32 [pick a 0, pick a 1, pick b 2, pick b 3]

/-- The bitwise operations of the codes 54 to 57. -/
def bitwise (code a b : Nat) : Nat :=
  match code with
  | 0x54 => a &&& b
  | 0x55 => Lanes.without 128 a b
  | 0x56 => a ||| b
  | _ => a ^^^ b

/-- Ends the use of short vectors, or empties the upper halves of vectors. -/
def finish (x : Marks) : Execution Unit :=
  match x.vector with
  | none => modify fun p => { p with fractions := p.fractions.useFractions }
  | some m =>
    let kept := if m.isWide then 1 else Lanes.power 128
    modify fun p => { p with vectors := p.vectors.map fun n => n % kept }

/-- Does a second byte tell an instruction of this module? -/
def isCode (code : Nat) : Bool :=
  (0x10 ≤ code && code < 0x18) || [0x28, 0x29, 0x2B, 0x50, 0x54, 0x55, 0x56, 0x57].contains code ||
    (0x60 ≤ code && code < 0x78) || [0x7E, 0x7F, 0xC4, 0xC5, 0xC6].contains code ||
    (0xD1 ≤ code && code < 0xFF && code != 0xE6)

/-- The instructions whose code has a second byte. -/
def execute (x : Marks) (code : Nat) : Execution Unit :=
  match code with
  | 0x28 | 0x29 => moveWhole x (code == 0x28)
  | 0x2B => moveWhole x false
  | 0x50 => takeSigns x (if kind x = .narrow then 64 else 32)
  | 0x54 | 0x55 | 0x56 | 0x57 => combine x false fun _ a b => return bitwise code a b
  | 0x6E => moveNumber x true
  | 0x7E => moveNumber x false
  | 0x6F => if kind x = .plain then moveShort x true else moveWhole x true
  | 0x7F => if kind x = .plain then moveShort x false else moveWhole x false
  | 0x70 => shuffle x
  | 0x71 | 0x72 | 0x73 => slideBy x code
  | 0x77 => finish x
  | 0xC4 => insertLane x 16 .four
  | 0xC5 => extractWord x
  | 0xC6 => shuffleBoth x
  | 0xD6 => moveLower x
  | 0xD7 => takeSigns x 8
  | 0xE7 => if kind x = .plain then moveShort x false else moveWhole x false
  | 0xF0 => moveWhole x true
  | 0xF7 => moveMasked x
  | _ =>
    if code < 0x18 then moveParts x code
    else
      match Lanes.operation? code, Lanes.mixing? code, Lanes.slide? code with
      | some o, _, _ => operate x o
      | none, some f, _ => combineBoth x false fun unit _ a b => f unit a b
      | none, none, some (s, bits) => slide x s bits
      | none, none, none => failure

end Vectors
end GrammarAssay
