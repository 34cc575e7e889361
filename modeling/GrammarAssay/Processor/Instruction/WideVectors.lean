import GrammarAssay.Processor.Instruction.LaterVectors

/-!
# Instructions with three operands

**Input.** A processor that has come to a mark of two or three bytes, which tells a second source, a width
and the group of the code that follows.

**Algorithm.** Most codes of a group do what they do without the mark, but leave both sources as they are.
Others exist only behind the mark: they copy one lane to all, move lanes across the halves of a vector,
multiply and add at once, or work on bits of registers.

**Results.**
* `WideVectors.fetchMark`: the marks and the group.
* `WideVectors.execute`: the instructions.
-/

namespace GrammarAssay
namespace WideVectors

open Execution Vectors

/-- Fetches what the mark tells: the marks, and the group of the code. -/
def fetchMark (x : Marks) (code : Nat) : Execution (Marks × Nat) := do
  let b ← fetch .one
  let isInverted (n bit : Nat) : Nat := (!n.testBit bit).toNat
  let (bits, group, last) ←
    if code = 0xC5 then pure (4 * isInverted b 7, 1, b)
    else do
      let c ← fetch .one
      pure (4 * isInverted b 7 + 2 * isInverted b 6 + isInverted b 5 + 8 * (c / 128), b % 32, c)
  let repetition :=
    match last % 4 with
    | 2 => Repetition.whileEqual
    | 3 => .whileUnequal
    | _ => .once
  let mark : VectorMark := ⟨Marks.registerOf (15 - last / 8 % 16), last.testBit 2⟩
  return ({ x with
    isLong := true, bits := bits, isNarrow := last % 4 = 1, repetition := repetition,
    vector := some mark }, group)

/-- Copies one lane to all. -/
def spread (x : Marks) (bits : Nat) : Execution Unit := do
  let p ← x.operands 0
  let n ← readSource bits p.target
  writeVector x p.register (Lanes.join bits (List.replicate (size x / bits) n))

/-- Moves the bits of each lane by the lane of the other source. -/
def slideEach (x : Marks) (s : Lanes.Slide) : Execution Unit := do
  let bits := if x.isEight then 64 else 32
  combine x false fun _ a b =>
    return Lanes.zip bits 128 (fun n count => Lanes.slide s bits bits n count) a b

/-- The second source. -/
def second (x : Marks) : Fin 16 :=
  (x.vector.map VectorMark.first).getD Processor.firstVector

/-- On how many bytes an instruction on registers works. -/
def widthOf (x : Marks) : Width :=
  if x.isEight then .eight else .four

/-- Changes a register, and tells the sign and zero of the result. -/
def writeBits (x : Marks) (r : Fin 16) (n : Nat) (carry : Bool) : Execution Unit := do
  let w := widthOf x
  let f ← flags
  setFlags { f.ofResult w n with carry := carry, parity := false }
  writeRegister w r n

/-- The instructions on the lowest bit that is set, told by a digit. -/
def lowest (x : Marks) : Execution Unit := do
  let w := widthOf x
  let p ← x.operands 0
  let n ← x.read w p.target
  let below := (n + (w.modulus - 1)) % w.modulus
  match p.digit with
  | 1 => writeBits x (second x) (n &&& below) (n == 0)
  | 2 => writeBits x (second x) (n ^^^ below) (n == 0)
  | 3 => writeBits x (second x) (n &&& (w.modulus - n) % w.modulus) (n != 0)
  | _ => failure

/-- The instructions on the bits of registers whose count is in the second source. -/
def counted (x : Marks) : Execution Unit := do
  let w := widthOf x
  let p ← x.operands 0
  let n ← x.read w p.target
  let count ← readRegister w (second x)
  let shifted := count % w.bits
  match kind x with
  | .plain =>
    let rest := n >>> (count % 256)
    let m := rest % (1 <<< min (count / 256 % 256) 64)
    setFlags { (← flags).ofResult w m with sign := false, parity := false }
    writeRegister w p.register m
  | .narrow => writeRegister w p.register (n <<< shifted % w.modulus)
  | .single => writeRegister w p.register (w.ofSigned (w.signed n >>> shifted))
  | .double => writeRegister w p.register (n >>> shifted)

/-- Cuts off bits, or moves bits to the places that a mask tells. -/
def masked (x : Marks) : Execution Unit := do
  let w := widthOf x
  let p ← x.operands 0
  let n ← x.read w p.target
  let other ← readRegister w (second x)
  match kind x with
  | .plain =>
    let count := other % 256
    writeBits x p.register (if count < w.bits then n % (1 <<< count) else n) (w.bits ≤ count)
  | .single => writeRegister w p.register (gatherBits other n w.bits)
  | .double => writeRegister w p.register (GrammarAssay.spread other n w.bits)
  | .narrow => failure

/-- Multiplies without a change of flags. -/
def multiply (x : Marks) : Execution Unit := do
  let w := widthOf x
  let p ← x.operands 0
  let n := (← x.read w p.target) * (← readRegister w Processor.upper)
  writeRegister w (second x) (n % w.modulus)
  writeRegister w p.register (n / w.modulus)

/-- A product and a sum of lanes, with signs changed as two bits tell. -/
def fusedLane (negatesProduct negatesSum : Bool) (control : Nat) (f : Format) (a b c : Nat) :
    VectorFractions.Outcome :=
  let operand := VectorFractions.operand control f
  let x := operand a
  let z := operand c
  let x := if negatesProduct && !x.isNan then x.negate else x
  let z := if negatesSum && !z.isNan then z.negate else z
  let (n, notes) := VectorFractions.settle control f
    (Fraction.multiplyAdd (VectorFractions.rounding control) x (operand b) z)
  let small := VectorFractions.smallNote control f a b ||| VectorFractions.smallNote control f c c
  let isFirst := notes &&& Fraction.invalid = 0 && !(x.isNan || (operand b).isNan || z.isNan)
  (n, if isFirst then notes ||| small else notes)

/-- The order of the three operands that a code tells: two factors and what is added. -/
def fusedOrder (code old first source : Nat) : Nat × Nat × Nat :=
  match code / 16 with
  | 0x9 => (old, source, first)
  | 0xA => (first, old, source)
  | _ => (first, source, old)

/-- Multiplies and adds at once. -/
def fused (x : Marks) (code : Nat) : Execution Unit := do
  let f := if x.isEight then Format.double else .single
  let bits := VectorFractions.bits f
  let p ← x.operands 0
  let isScalar := code % 16 / 2 ≠ 3 ∧ code % 2 = 1
  let source ← readSource (if isScalar then bits else size x) p.target
  let old ← readVector p.register
  let first ← readVector (second x)
  let (a, b, c) := fusedOrder code old first source
  let control ← VectorFractions.control
  let digit := code % 16
  let lane (i : Nat) : VectorFractions.Outcome :=
    let negatesSum := if digit = 6 then i % 2 == 0 else if digit = 7 then i % 2 == 1 else digit / 2 % 2 == 1
    fusedLane (12 ≤ digit) negatesSum control f (Lanes.lane bits a i) (Lanes.lane bits b i)
      (Lanes.lane bits c i)
  if isScalar then
    let (n, notes) := lane 0
    VectorFractions.note notes
    writeVector x p.register (Lanes.setLane bits (old % Lanes.power 128) 0 n)
  else
    writeVector x p.register
      (← VectorFractions.collect bits ((List.range (size x / bits)).map lane))

/-- Chooses lanes in each half by the lanes of the other source. -/
def chooseEach (x : Marks) (bits : Nat) : Execution Unit :=
  combine x false fun _ a b =>
    let count := 128 / bits
    let index (n : Nat) := if bits = 64 then n / 2 % 2 else n % count
    return Lanes.map bits 128 (fun n => Lanes.lane bits a (index n)) b

/-- Chooses lanes of the whole source by the lanes of the other one. -/
def chooseWhole (x : Marks) : Execution Unit := do
  let p ← x.operands 0
  let n ← readSource 256 p.target
  let order ← readVector (second x)
  writeVector x p.register (Lanes.map 32 256 (fun i => Lanes.lane 32 n (i % 8)) order)

/-- Compares two vectors by the highest bits of their lanes. -/
def testSigns (x : Marks) (bits : Nat) : Execution Unit := do
  let p ← x.operands 0
  let b ← readSource (size x) p.target
  let a := (← readVector p.register) % Lanes.power (size x)
  setFlags { (← flags).ofResult .four 0 with
    parity := false
    zero := Lanes.signs bits (size x) (a &&& b) == 0
    carry := Lanes.signs bits (size x) (Lanes.without (size x) a b) == 0 }

/-- Loads or writes the lanes whose mask has its highest bit set. Other lanes are loaded as zero. -/
def moveChosen (x : Marks) (bits : Nat) (isLoad : Bool) : Execution Unit := do
  let p ← x.operands 0
  let mask := Lanes.signs bits (size x) (← readVector (second x))
  match p.target with
  | .memory address =>
    let old ← readMemory address (size x / 8)
    if isLoad then writeVector x p.register (Lanes.blend bits (size x) 0 old mask)
    else
      let n ← readVector p.register
      writeMemory address (Lanes.blend bits (size x) old n mask) (size x / 8)
  | .register _ => failure

/-- Adds products of neighbours to the lanes of the destination. Bytes of the first source have no sign. -/
def addProducts (x : Marks) (bits : Nat) (isClamped : Bool) : Execution Unit := do
  let p ← x.operands 0
  let b ← readSource (size x) p.target
  let a ← readVector (second x)
  let old ← readVector p.register
  let factor (n i : Nat) : Int := Lanes.signed bits (Lanes.lane bits n i)
  let first (n i : Nat) : Int := if bits = 8 then (Lanes.lane bits n i : Int) else factor n i
  let total (c m n : Nat) : Nat :=
    let sum := (List.range (32 / bits)).foldl (fun s i => s + first m i * factor n i) (Lanes.signed 32 c)
    if isClamped then Lanes.clampSigned 32 sum else Lanes.ofInt 32 sum
  writeVector x p.register (Lanes.join 32 ((List.range (size x / 32)).map fun i =>
    total (Lanes.lane 32 old i) (Lanes.lane 32 a i) (Lanes.lane 32 b i)))

/-- Loads lanes from addresses that the lanes of a vector tell, where the mask has its highest bit set, and
empties the mask. -/
def gather (x : Marks) (hasLongIndex : Bool) : Execution Unit := do
  let mode ← fetch .one
  let order ← fetch .one
  if mode / 64 = 3 ∨ mode % 8 ≠ 4 then failure
  let base ←
    if order % 8 = 5 ∧ mode / 64 = 0 then fetchSigned .four
    else do
      let b ← x.part 1 (order % 8)
      pure (b + (← Marks.distance (mode / 64)))
  let bits := if x.isEight then 64 else 32
  let indexBits := if hasLongIndex then 64 else 32
  let count := size x / max bits indexBits
  let indices ← readVector (x.prolong 2 (order / 8 % 8))
  let target := x.prolong 4 (mode / 8 % 8)
  let mask := Lanes.signs bits (count * bits) (← readVector (second x))
  let m := (← get).memory
  let loaded := Lanes.join bits ((List.range count).map fun i =>
    let index := Lanes.signed indexBits (Lanes.lane indexBits indices i)
    let away := UInt64.ofNat (Width.eight.ofSigned index) <<< UInt64.ofNat (order / 64)
    m.number (x.located (base + away)) (bits / 8))
  writeVector x target (Lanes.blend bits (count * bits) (← readVector target) loaded mask)
  writeVector x (second x) 0

/-- Converts lanes of 16 bits to fractions of 32 bits. -/
def convertFromHalf (x : Marks) : Execution Unit :=
  VectorFractions.convertAll x 16 32 fun _ n => Format.single.finish .nearest (Format.half.decode n, 0)

/-- Converts fractions of 32 bits to lanes of 16 bits, rounded as a number in the instruction tells. -/
def convertToHalf (x : Marks) : Execution Unit := do
  let p ← x.operands 1
  let order ← fetch .one
  let control ← VectorFractions.control
  let r := if order.testBit 2 then VectorFractions.rounding control else .ofCode (order % 4)
  let convert (n : Nat) : VectorFractions.Outcome :=
    let (m, notes) := Format.half.finish r (VectorFractions.operand control .single n, 0)
    (m, notes ||| VectorFractions.smallNote control .single n n)
  let count := size x / 32
  let n ← VectorFractions.collect 16 ((Lanes.split 32 count (← readVector p.register)).map convert)
  match p.target with
  | .register r => writeVector x r n
  | .memory address => writeMemory address n (count * 2)

/-- The codes of the second group that exist only behind the mark. -/
def executeLater (x : Marks) (code : Nat) : Execution Unit :=
  match code with
  | 0x0C => chooseEach x 32
  | 0x0D => chooseEach x 64
  | 0x0E => testSigns x 32
  | 0x0F => testSigns x 64
  | 0x13 => convertFromHalf x
  | 0x16 | 0x36 => chooseWhole x
  | 0x18 | 0x58 => spread x 32
  | 0x19 | 0x59 => spread x 64
  | 0x1A | 0x5A => spread x 128
  | 0x2C => moveChosen x 32 true
  | 0x2D => moveChosen x 64 true
  | 0x2E => moveChosen x 32 false
  | 0x2F => moveChosen x 64 false
  | 0x8C | 0x8E => moveChosen x (if x.isEight then 64 else 32) (code == 0x8C)
  | 0x50 => addProducts x 8 false
  | 0x51 => addProducts x 8 true
  | 0x52 => addProducts x 16 false
  | 0x53 => addProducts x 16 true
  | 0x90 | 0x92 => gather x false
  | 0x91 | 0x93 => gather x true
  | 0x45 => slideEach x .right
  | 0x46 => slideEach x .signedRight
  | 0x47 => slideEach x .left
  | 0x78 => spread x 8
  | 0x79 => spread x 16
  | 0xF2 => do
    let w := widthOf x
    let p ← x.operands 0
    let n := (w.modulus - 1 - (← readRegister w (second x))) &&& (← x.read w p.target)
    writeBits x p.register n false
  | 0xF3 => lowest x
  | 0xF5 => masked x
  | 0xF6 => multiply x
  | 0xF7 => counted x
  | _ => if 6 ≤ code % 16 ∧ 9 ≤ code / 16 ∧ code / 16 < 12 then fused x code else
      LaterVectors.execute x code

/-- One half of two vectors, or zero, as four bits tell. -/
def halfOf (a b order : Nat) : Nat :=
  if order.testBit 3 then 0 else Lanes.lane 128 (if order.testBit 1 then b else a) (order % 2)

/-- Changes a vector by its source and a number in the instruction. -/
def changeWhole (x : Marks) (sourceBits : Nat) (f : Nat → Nat → Nat → Nat) : Execution Unit := do
  let p ← x.operands 1
  let order ← fetch .one
  let b ← readSource sourceBits p.target
  writeVector x p.register (f order (← readVector (second x)) b)

/-- Takes lanes where the highest bits of a fourth vector are set. -/
def blendBy (x : Marks) (bits : Nat) : Execution Unit := do
  let p ← x.operands 1
  let mask ← readVector (Marks.registerOf ((← fetch .one) / 16))
  let b ← readSource (size x) p.target
  let a ← readVector (second x)
  writeVector x p.register (Lanes.blend bits (size x) a b (Lanes.signs bits (size x) mask))

/-- Writes one half of a vector. -/
def extractHalf (x : Marks) : Execution Unit := do
  let p ← x.operands 1
  let order ← fetch .one
  let n := Lanes.lane 128 (← readVector p.register) (order % 2)
  match p.target with
  | .register r => writeVector x r n
  | .memory address => writeMemory address n 16

/-- The codes of the third group that exist only behind the mark. -/
def executeNumbered (x : Marks) (code : Nat) : Execution Unit :=
  match code with
  | 0x00 | 0x01 => changeWhole x 256 fun order _ b => Lanes.choose 64 b order
  | 0x02 => changeWhole x (size x) fun order a b => Lanes.blend 32 (size x) a b order
  | 0x04 => combine x true fun order _ b => return Lanes.choose 32 b order
  | 0x05 => changeWhole x (size x) fun order _ b =>
      Lanes.join 64 ((List.range (size x / 64)).map fun i =>
        Lanes.lane 64 b (i / 2 * 2 + (order.testBit i).toNat))
  | 0x06 | 0x46 => changeWhole x 256 fun order a b =>
      Lanes.join 128 [halfOf a b (order % 16), halfOf a b (order / 16)]
  | 0x0C => changeWhole x (size x) fun order a b => Lanes.blend 32 (size x) a b order
  | 0x0D => changeWhole x (size x) fun order a b => Lanes.blend 64 (size x) a b order
  | 0x1D => convertToHalf x
  | 0x18 | 0x38 => changeWhole x 128 fun order a b => Lanes.setLane 128 a (order % 2) b
  | 0x19 | 0x39 => extractHalf x
  | 0x4A => blendBy x 32
  | 0x4B => blendBy x 64
  | 0x4C => blendBy x 8
  | 0xF0 => do
    let w := widthOf x
    let p ← x.operands 1
    let count ← fetch .one
    let n ← x.read w p.target
    writeRegister w p.register (Shift.turn w.bits n (w.bits - count % w.bits))
  | _ => LaterVectors.executeNumbered x code

/-- The instructions behind a mark for three operands. -/
def execute (x : Marks) (code : Nat) : Execution Unit := do
  let (x, group) ← fetchMark x code
  let code ← fetch .one
  match group with
  | 1 =>
    if Vectors.isCode code then Vectors.execute x code
    else if VectorFractions.isCode code then VectorFractions.execute x code
    else failure
  | 2 => executeLater x code
  | 3 => executeNumbered x code
  | _ => failure

end WideVectors
end GrammarAssay
