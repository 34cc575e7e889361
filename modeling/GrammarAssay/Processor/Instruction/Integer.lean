import GrammarAssay.Processor.Arithmetic
import GrammarAssay.Processor.Operand

/-!
# Instructions on integers

**Input.** A processor, and the code of the instruction that it has come to.

**Algorithm.** The codes are grouped by what they do: arithmetic, moves, the stack, jumps and calls, shifts,
and single bits.

**Results.**
* `Instruction.combine`: arithmetic on the number in a target.
* `Instruction.execute`: the instructions with a code of one byte.
* `Instruction.executeExtended`: those whose code has a second byte.
-/

namespace GrammarAssay
namespace Instruction

open Execution

/-- The width of a number that stands in an instruction of a width. -/
def immediateWidth : Width → Width
  | .eight => .four
  | w => w

/-- Fetches a number that stands in an instruction of a width. -/
def immediate (w : Width) : Execution Nat := do
  return (← fetchSigned (immediateWidth w)).toNat % w.modulus

/-- Fetches a number of one byte that stands for one of a width. -/
def shortImmediate (w : Width) : Execution Nat := do
  return (← fetchSigned .one).toNat % w.modulus

/-- Changes the result register. -/
def writeResult (w : Width) (n : Nat) : Execution Unit :=
  writeRegister w Processor.result n

/-- The number in the result register. -/
def readResult (w : Width) : Execution Nat :=
  readRegister w Processor.result

/-- Combines the number in a target with another one. -/
def combine (o : Arithmetic) (x : Marks) (w : Width) (target : Target) (b : Nat) :
    Execution Unit := do
  let a ← x.read w target
  let (n, f) := o.apply (← flags) w a b
  setFlags f
  if o.isKept then x.write w target n

/-- Arithmetic whose operands are told by the lowest three bits of the code. -/
def arithmetic (x : Marks) (code : Nat) : Execution Unit := do
  let o := Arithmetic.ofCode (code / 8)
  let w := x.widthOf code
  match code % 8 with
  | 0 | 1 =>
    let p ← x.operands 0
    combine o x w p.target (← x.read w (.register p.register))
  | 2 | 3 =>
    let p ← x.operands 0
    combine o x w (.register p.register) (← x.read w p.target)
  | _ => combine o x w (.register Processor.result) (← immediate w)

/-- Arithmetic with a number in the instruction. -/
def arithmeticImmediate (x : Marks) (code : Nat) : Execution Unit := do
  let w := x.widthOf code
  let isShort := code = 0x83
  let p ← x.operands (if isShort then 1 else (immediateWidth w).bytes)
  let b ← if isShort then shortImmediate w else immediate w
  combine (.ofCode p.digit) x w p.target b

/-- Tells the flags of two numbers combined, and changes nothing else. -/
def test (x : Marks) (w : Width) (target : Target) (b : Nat) : Execution Unit := do
  setFlags (Arithmetic.and.apply (← flags) w (← x.read w target) b).2

/-- Exchanges the numbers in two targets. -/
def exchange (x : Marks) (w : Width) (a b : Target) : Execution Unit := do
  let left ← x.read w a
  let right ← x.read w b
  x.write w a right
  x.write w b left

/-- Adds one or takes one away. The carry stays as it was. -/
def count (o : Arithmetic) (x : Marks) (w : Width) (target : Target) : Execution Unit := do
  let carry := (← flags).carry
  combine o x w target 1
  setFlags { ← flags with carry := carry }

/-- Calls the function at an address. -/
def call (address : UInt64) : Execution Unit := do
  push .eight (← get).next.toNat
  jump address

/-- Jumps over a distance under a condition. -/
def jumpIf (w : Width) (condition : Bool) : Execution Unit := do
  let d ← fetchSigned w
  if condition then jump ((← get).next + d)

/-- The register that takes the upper half of a result, or the second byte of the other one. -/
def writeUpper (w : Width) (n : Nat) : Execution Unit :=
  if w = .one then writePlace .one (.highByte Processor.result) n
  else writeRegister w Processor.upper n

/-- The upper half of a number of twice the width. -/
def readUpper (w : Width) : Execution Nat :=
  if w = .one then readPlace .one (.highByte Processor.result) else readRegister w Processor.upper

/-- Writes a number of twice the width. -/
def writeDouble (w : Width) (low high : Nat) : Execution Unit := do
  writeResult w low
  writeUpper w high

/-- Multiplies, and keeps the lower half in a register. -/
def multiply (w : Width) (r : Fin 16) (a b : Nat) : Execution Unit := do
  let n := signedProduct w a b
  setFlags (productFlags (← flags) w n (fitsSigned w n))
  writeRegister w r (n % w.modulus)

/-- The operations on one number. -/
def unary (x : Marks) (code : Nat) : Execution Unit := do
  let w := x.widthOf code
  let first := (← Marks.peek) / 8 % 8
  let p ← x.operands (if first < 2 then (immediateWidth w).bytes else 0)
  let a ← x.read w p.target
  match p.digit with
  | 0 | 1 => test x w p.target (← immediate w)
  | 2 => x.write w p.target (w.modulus - 1 - a)
  | 3 =>
    let (n, f) := Arithmetic.subtract.apply (← flags) w 0 a
    setFlags f
    x.write w p.target n
  | 4 =>
    let n := (← readResult w) * a
    setFlags (productFlags (← flags) w n (n < w.modulus))
    writeDouble w (n % w.modulus) (n / w.modulus)
  | 5 =>
    let n := signedProduct w (← readResult w) a
    setFlags (productFlags (← flags) w n (fitsSigned w n))
    writeDouble w (n % w.modulus) (n / w.modulus)
  | digit =>
    let n := (← readResult w) + (← readUpper w) * w.modulus
    match if digit = 6 then quotient? w n a else signedQuotient? w n a with
    | some (q, r) => writeDouble w q r
    | none => failure

/-- Moves a number to a wider register. -/
def widen (x : Marks) (source : Width) (isSigned : Bool) : Execution Unit := do
  let p ← x.operands 0
  let n ← x.read source p.target
  writeRegister x.width p.register (if isSigned then (source.extend n).toNat else n)

/-- The codes that stand for a register each. -/
def onRegister (x : Marks) (code : Nat) : Execution Unit := do
  let r := x.prolong 1 (code % 8)
  match code / 8 with
  | 0xA => push x.addressWidth (← readRegister x.addressWidth r)
  | 0xB => writeRegister x.addressWidth r (← pop x.addressWidth)
  | 0x12 =>
    if r = Processor.result then return ()
    else exchange x x.width (.register r) (.register Processor.result)
  | 0x16 => x.write .one (.register r) (← fetch .one)
  | _ => writeRegister x.width r (← fetch x.width)

/-- The number of a segment register. -/
def selectorOf (number : Nat) : Fin 6 :=
  ⟨number % 6, Nat.mod_lt number (by decide)⟩

/-- Moves between a segment register and a target. -/
def moveSelector (x : Marks) (isRead : Bool) : Execution Unit := do
  let p ← x.operands 0
  let s := selectorOf p.digit
  if isRead then
    let n := (← get).selectors.get s
    match p.target with
    | .register r => writeRegister x.width r n
    | .memory _ => x.write .two p.target n
  else
    let n ← x.read .two p.target
    modify fun q => { q with selectors := q.selectors.set s.val n s.isLt }

/-- Moves between targets. -/
def move (x : Marks) (code : Nat) : Execution Unit := do
  let w := x.widthOf code
  match code with
  | 0x84 | 0x85 =>
    let p ← x.operands 0
    test x w p.target (← x.read w (.register p.register))
  | 0x86 | 0x87 =>
    let p ← x.operands 0
    exchange x w p.target (.register p.register)
  | 0x88 | 0x89 =>
    let p ← x.operands 0
    x.write w p.target (← x.read w (.register p.register))
  | 0x8A | 0x8B =>
    let p ← x.operands 0
    x.write w (.register p.register) (← x.read w p.target)
  | 0x8C => moveSelector x true
  | 0x8E => moveSelector x false
  | 0x8D =>
    match ← ({ x with base := 0 }).operands 0 with
    | ⟨_, r, .memory address⟩ => writeRegister w r address.toNat
    | _ => failure
  | 0x8F =>
    let value ← pop x.addressWidth
    let p ← x.operands 0
    if p.digit = 0 then x.write x.addressWidth p.target value else failure
  | 0xC6 | 0xC7 =>
    let p ← x.operands (immediateWidth w).bytes
    if p.digit = 0 then x.write w p.target (← immediate w) else failure
  | _ => test x w (.register Processor.result) (← immediate w)

/-- Shifts by a number in the instruction, by one, or by a register. Turning by a number in the
instruction leaves the overflow alone, but for a turn by one bit. -/
def shifted (x : Marks) (code : Nat) : Execution Unit := do
  let w := x.widthOf code
  let p ← x.operands (if code < 0xD0 then 1 else 0)
  let count ←
    if code < 0xD0 then fetch .one
    else if code < 0xD2 then pure 1
    else readRegister .one Processor.counter
  let old ← flags
  let (n, f) := (Shift.ofCode p.digit).apply old w (← x.read w p.target) count
  let isKept := code < 0xD0 && p.digit < 2 && Shift.reach w count != 1
  setFlags (if isKept then { f with overflow := old.overflow } else f)
  x.write w p.target n

/-- Shifts two numbers as one. -/
def doubleShifted (x : Marks) (isLeft isCounted : Bool) : Execution Unit := do
  let w := x.width
  let p ← x.operands (if isCounted then 0 else 1)
  let count ← if isCounted then readRegister .one Processor.counter else fetch .one
  let n ← x.read w p.target
  let other ← x.read w (.register p.register)
  let shift := if isLeft then Shift.doubleLeft else Shift.doubleRight
  let (n, f) := shift (← flags) w n other count
  setFlags f
  x.write w p.target n

/-- Returns to the caller, and takes bytes from the stack. -/
def leave (taken : Nat) : Execution Unit := do
  jump (UInt64.ofNat (← pop .eight))
  modify fun p => p.setRegister Processor.stack (p.register Processor.stack + UInt64.ofNat taken)

/-- Goes on in a segment of code, which is to be that of all programs. -/
def enterSegment (selector : Nat) (address : Nat) : Execution Unit := do
  if selector % 0x10000 ≠ 0x33 then failure
  jump (UInt64.ofNat address)

/-- Returns to a caller in another segment of code, and takes bytes from the stack. -/
def leaveFar (x : Marks) (taken : Nat) : Execution Unit := do
  let address ← pop x.width
  enterSegment (← pop x.width) address
  modify fun p => p.setRegister Processor.stack (p.register Processor.stack + UInt64.ofNat taken)

/-- Returns from an interruption, with the flags and the stack of what was interrupted. -/
def resume (x : Marks) : Execution Unit := do
  let w := x.width
  let address ← pop w
  enterSegment (← pop w) address
  let f := Flags.ofNat (← pop w)
  let stack ← pop w
  if (← pop w) % 0x10000 ≠ 0x2B then failure
  setFlags (if w = .two then { f with others := f.others % 0x10000 } else f)
  writeRegister .eight Processor.stack stack

/-- Goes to an address with a segment, which stand in memory. -/
def jumpFar (x : Marks) (isCall : Bool) (target : Target) : Execution Unit := do
  let w := x.width
  match target with
  | .memory place =>
    let address ← readMemory place w.bytes
    if isCall then
      push w 0x33
      push w (← get).next.toNat
    enterSegment (← readMemory (place + UInt64.ofNat w.bytes) 2) address
  | .register _ => failure

/-- Counting, calls, jumps and the stack, told by the digit of the operands. -/
def counted (x : Marks) (code : Nat) : Execution Unit := do
  let w := x.widthOf code
  let p ← x.operands 0
  match p.digit with
  | 0 => count .add x w p.target
  | 1 => count .subtract x w p.target
  | digit =>
    if code = 0xFE then failure
    else
      match digit with
      | 2 => call (UInt64.ofNat (← x.read .eight p.target))
      | 3 => jumpFar x true p.target
      | 5 => jumpFar x false p.target
      | 4 => jump (UInt64.ofNat (← x.read .eight p.target))
      | 6 => push x.addressWidth (← x.read x.addressWidth p.target)
      | _ => failure

/-- Copies the frames of the functions around. -/
def copyFrames (w : Width) : Nat → Execution Unit
  | 0 => return
  | depth + 1 => do
    modify fun p => p.setRegister Processor.frame (p.register Processor.frame - UInt64.ofNat w.bytes)
    push w (← readMemory ((← get).register Processor.frame) w.bytes)
    copyFrames w depth

/-- Makes a frame with room for a number of bytes. -/
def enter (x : Marks) (room depth : Nat) : Execution Unit := do
  let w := x.addressWidth
  push w (← readRegister w Processor.frame)
  let frame ← readRegister .eight Processor.stack
  if depth % 32 ≠ 0 then
    copyFrames w (depth % 32 - 1)
    push w frame
  writeRegister w Processor.frame frame
  modify fun p => p.setRegister Processor.stack (UInt64.ofNat frame - UInt64.ofNat room -
    UInt64.ofNat ((depth % 32) * w.bytes))

/-- Counts down, and jumps as long as the count is not zero. -/
def countDown (x : Marks) (code : Nat) : Execution Unit := do
  let w := x.countWidth
  let n ← readRegister w Processor.counter
  if code = 0xE3 then jumpIf .one (n == 0)
  else
    let n := (n + (w.modulus - 1)) % w.modulus
    writeRegister w Processor.counter n
    let isZero := (← flags).zero
    jumpIf .one (n != 0 && (code == 0xE2 || isZero == (code == 0xE1)))

/-- Moves between the result register and an address in the instruction. -/
def moveAbsolute (x : Marks) (code : Nat) : Execution Unit := do
  let address ← fetch (if x.isShort then .four else .eight)
  let target := Target.memory (x.located (UInt64.ofNat address))
  let w := x.widthOf code
  if code < 0xA2 then writeResult w (← x.read w target) else x.write w target (← readResult w)

/-- The codes that change one flag. -/
def flagged (code : Nat) (f : Flags) : Option Flags :=
  match code with
  | 0xF5 => some { f with carry := !f.carry }
  | 0xF8 => some { f with carry := false }
  | 0xF9 => some { f with carry := true }
  | 0xFC => some { f with isBackward := false }
  | 0xFD => some { f with isBackward := true }
  | _ => none

/-- The codes that stand for themselves. -/
def single (x : Marks) (code : Nat) : Execution Unit := do
  let w := x.width
  match code with
  | 0x63 =>
    let p ← x.operands 0
    let n ← if w = .two then x.read .two p.target else x.read .four p.target
    writeRegister w p.register (if w = .eight then (Width.four.extend n).toNat else n)
  | 0x68 => push x.addressWidth (← immediate x.addressWidth)
  | 0x6A => push x.addressWidth (← shortImmediate x.addressWidth)
  | 0x69 | 0x6B =>
    let isShort := code = 0x6B
    let p ← x.operands (if isShort then 1 else (immediateWidth w).bytes)
    let b ← if isShort then shortImmediate w else immediate w
    multiply w p.register (← x.read w p.target) b
  | 0x98 => writeResult w (w.narrower.extend (← readResult w.narrower)).toNat
  | 0x99 =>
    let n ← readResult w
    writeRegister w Processor.upper (if w.isNegative n then w.modulus - 1 else 0)
  | 0x9B => return
  | 0x9C => push x.addressWidth (← flags).toNat
  | 0x9D =>
    let n ← pop x.addressWidth
    if n.testBit 8 then failure
    let f := Flags.ofNat n
    setFlags (if x.addressWidth = .two then { f with others := f.others % 0x10000 } else f)
  | 0x9E => setFlags ((← flags).setLow (← readPlace .one (.highByte Processor.result)))
  | 0x9F => writePlace .one (.highByte Processor.result) ((← flags).toNat % 0x100)
  | 0xA0 | 0xA1 | 0xA2 | 0xA3 => moveAbsolute x code
  | 0xC2 => leave (← fetch .two)
  | 0xC3 => leave 0
  | 0xCA => leaveFar x (← fetch .two)
  | 0xCB => leaveFar x 0
  | 0xCF => resume x
  | 0xC8 =>
    let room ← fetch .two
    enter x room (← fetch .one)
  | 0xC9 =>
    modify fun p => p.setRegister Processor.stack (p.register Processor.frame)
    writeRegister x.addressWidth Processor.frame (← pop x.addressWidth)
  | 0xD7 =>
    let address := (← get).register Processor.base + UInt64.ofNat (← readResult .one)
    writeResult .one (← readMemory (x.located address) 1)
  | 0xE0 | 0xE1 | 0xE2 | 0xE3 => countDown x code
  | 0xE8 =>
    let d ← fetchSigned .four
    call ((← get).next + d)
  | 0xE9 => jumpIf .four true
  | 0xEB => jumpIf .one true
  | 0xF6 | 0xF7 => unary x code
  | 0xFE | 0xFF => counted x code
  | _ =>
    match flagged code (← flags) with
    | some f => setFlags f
    | none => failure

/-- Carries out the instruction with a code of one byte. -/
def execute (x : Marks) (code : Nat) : Execution Unit := do
  if code < 0x40 ∧ code % 8 < 6 then arithmetic x code
  else if (0x50 ≤ code ∧ code < 0x60) ∨ (0x90 ≤ code ∧ code < 0x98) ∨
      (0xB0 ≤ code ∧ code < 0xC0) then
    onRegister x code
  else if 0x70 ≤ code ∧ code < 0x80 then jumpIf .one ((← flags).holds (code % 16))
  else if 0x80 ≤ code ∧ code < 0x84 ∧ code ≠ 0x82 then arithmeticImmediate x code
  else if [0xC0, 0xC1, 0xD0, 0xD1, 0xD2, 0xD3].contains code then shifted x code
  else if (0x84 ≤ code ∧ code < 0x90) ∨ [0xA8, 0xA9, 0xC6, 0xC7].contains code then move x code
  else single x code

/-- The ways to treat a bit. -/
inductive BitChange where
  | test
  | set
  | reset
  | complement
deriving DecidableEq

/-- The way with a code. -/
def BitChange.ofCode (code : Nat) : BitChange :=
  match code % 4 with
  | 0 => test
  | 1 => set
  | 2 => reset
  | _ => complement

/-- The number with a bit that was treated. -/
def BitChange.apply (c : BitChange) (n bit : Nat) : Nat :=
  let power := 1 <<< bit
  match c with
  | test => n
  | set => n ||| power
  | reset => if n.testBit bit then n - power else n
  | complement => n ^^^ power

/-- Tells a bit of a target in the carry, and treats it. -/
def changeBit (x : Marks) (w : Width) (c : BitChange) (target : Target) (bit : Nat) :
    Execution Unit := do
  let n ← x.read w target
  setFlags { ← flags with carry := n.testBit bit }
  if c ≠ .test then x.write w target (c.apply n bit)

/-- Treats a bit whose number stands in a register. In memory it can be far away. -/
def changeFarBit (x : Marks) (c : BitChange) : Execution Unit := do
  let w := x.width
  let p ← x.operands 0
  let bit ← readRegister w p.register
  match p.target with
  | .register _ => changeBit x w c p.target (bit % w.bits)
  | .memory address =>
    let word := Int.fdiv (w.signed bit) w.bits
    let away := UInt64.ofNat (Width.eight.ofSigned (word * w.bytes))
    changeBit x w c (.memory (address + away)) (bit % w.bits)

/-- Treats a bit whose number stands in the instruction. -/
def changeNearBit (x : Marks) : Execution Unit := do
  let w := x.width
  let p ← x.operands 1
  if p.digit < 4 then failure
  changeBit x w (.ofCode p.digit) p.target ((← fetch .one) % w.bits)

/-- Looks for the first or the last bit that is set. Counting tells the width where there is none. -/
def scan (x : Marks) (isForward : Bool) : Execution Unit := do
  let w := x.width
  let p ← x.operands 0
  let n ← x.read w p.target
  let f ← flags
  if x.repetition = .whileEqual then
    let count := if n = 0 then w.bits else if isForward then lowestBit n 64 else w.bits - 1 - n.log2
    setFlags { f.ofResult w count with
      carry := n == 0, zero := count == 0, parity := false, sign := false }
    writeRegister w p.register count
  else
    let number := if n = 0 then 0 else if isForward then lowestBit n 64 else n.log2
    setFlags { f.ofResult w number with zero := n == 0 }
    if n ≠ 0 then writeRegister w p.register number

/-- Counts the bits that are set. -/
def countBits (x : Marks) : Execution Unit := do
  let w := x.width
  let p ← x.operands 0
  let n ← x.read w p.target
  setFlags { (← flags).ofResult w n with sign := false, parity := false }
  writeRegister w p.register (setBits n w.bits)

/-- Replaces a number in a target if it is the one in the result register. -/
def compareExchange (x : Marks) (w : Width) : Execution Unit := do
  let p ← x.operands 0
  let old ← x.read w p.target
  let sought ← readResult w
  setFlags (Arithmetic.compare.apply (← flags) w sought old).2
  if old = sought then x.write w p.target (← x.read w (.register p.register))
  else
    x.write w p.target old
    writeResult w old

/-- Replaces a number of twice the width in memory. -/
def compareExchangeDouble (x : Marks) : Execution Unit := do
  let w := if x.isEight then Width.eight else .four
  let p ← x.operands 0
  match p.digit, p.target with
  | 1, .memory address =>
    let upper := address + UInt64.ofNat w.bytes
    let low ← readMemory address w.bytes
    let high ← readMemory upper w.bytes
    let isSame := low == (← readResult w) && high == (← readRegister w Processor.upper)
    setFlags { ← flags with zero := isSame }
    if isSame then
      writeMemory address (← readRegister w Processor.base) w.bytes
      writeMemory upper (← readRegister w Processor.counter) w.bytes
    else
      writeResult w low
      writeRegister w Processor.upper high
  | _, _ => failure

/-- Adds, and puts the old number into the other operand. -/
def exchangeAdd (x : Marks) (w : Width) : Execution Unit := do
  let p ← x.operands 0
  let old ← x.read w p.target
  let (n, f) := Arithmetic.add.apply (← flags) w old (← x.read w (.register p.register))
  setFlags f
  x.write w (.register p.register) old
  x.write w p.target n

/-- The bytes of a number in the opposite order. -/
def reverseBytes (n : Nat) : Nat → Nat
  | 0 => 0
  | count + 1 => n % 256 * (1 <<< (8 * count)) + reverseBytes (n / 256) count

/-- Reverses the bytes of a register. -/
def reverse (x : Marks) (code : Nat) : Execution Unit := do
  let r := x.prolong 1 (code % 8)
  match x.width with
  | .eight => writeRegister .eight r (reverseBytes (← readRegister .eight r) 8)
  | .four => writeRegister .four r (reverseBytes (← readRegister .four r) 4)
  | _ => writeRegister .two r 0

/-- The stack and the segment registers. -/
def selected (x : Marks) (number : Nat) (isPush : Bool) : Execution Unit := do
  let s := selectorOf number
  if isPush then push x.addressWidth ((← get).selectors.get s)
  else
    let n ← pop x.addressWidth
    modify fun q => { q with selectors := q.selectors.set s.val (n % 0x10000) s.isLt }

/-- The instructions on integers whose code has a second byte. -/
def executeExtended (x : Marks) (code : Nat) : Execution Unit := do
  let w := x.width
  match code / 16 with
  | 4 =>
    let holds := (← flags).holds (code % 16)
    let p ← x.operands 0
    let n ← x.read w p.target
    let old ← readRegister w p.register
    writeRegister w p.register (if holds then n else old)
  | 8 => jumpIf .four ((← flags).holds (code % 16))
  | 9 =>
    let p ← x.operands 0
    x.write .one p.target ((← flags).holds (code % 16)).toNat
  | _ =>
    match code with
    | 0x0D | 0x18 | 0x19 | 0x1A | 0x1B | 0x1C | 0x1D | 0x1E | 0x1F => discard (x.operands 0)
    | 0xA0 => selected x 4 true
    | 0xA1 => selected x 4 false
    | 0xA8 => selected x 5 true
    | 0xA9 => selected x 5 false
    | 0xA3 | 0xAB | 0xB3 | 0xBB => changeFarBit x (.ofCode (code / 8))
    | 0xBA => changeNearBit x
    | 0xA4 => doubleShifted x true false
    | 0xA5 => doubleShifted x true true
    | 0xAC => doubleShifted x false false
    | 0xAD => doubleShifted x false true
    | 0xAF =>
      let p ← x.operands 0
      multiply w p.register (← readRegister w p.register) (← x.read w p.target)
    | 0xB0 => compareExchange x .one
    | 0xB1 => compareExchange x w
    | 0xB6 => widen x .one false
    | 0xB7 => widen x .two false
    | 0xB8 => if x.repetition = .whileEqual then countBits x else failure
    | 0xBC => scan x true
    | 0xBD => scan x false
    | 0xBE => widen x .one true
    | 0xBF => widen x .two true
    | 0xC0 => exchangeAdd x .one
    | 0xC1 => exchangeAdd x w
    | 0xC3 =>
      let p ← x.operands 0
      x.write w p.target (← readRegister w p.register)
    | 0xC7 => compareExchangeDouble x
    | _ => if code / 8 = 0x19 then reverse x code else failure

end Instruction
end GrammarAssay
