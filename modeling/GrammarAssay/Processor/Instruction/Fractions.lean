import GrammarAssay.Processor.Operand

/-!
# Instructions on the stack of fractions

**Input.** A processor, and the code of the instruction that it has come to, from D8 to DF. The byte behind
the code tells a number in memory, or a register of the stack and what is to be done.

**Algorithm.** Numbers in memory are fractions of 32, 64 or 80 bits, integers with a sign, or decimal
digits. All arithmetic is done on fractions of 80 bits. An empty register counts as no number.

**Results.**
* `Fractions.calculate`: arithmetic on two fractions.
* `Fractions.execute`: the instructions.
-/

namespace GrammarAssay
namespace Fractions

open Execution

def stack : Execution FractionStack :=
  return (← get).fractions

/-- Changes the stack. -/
def update (f : FractionStack → FractionStack) : Execution Unit :=
  modify fun p => { p with fractions := f p.fractions }

/-- Does the second of two operands that are no numbers go before the first? One that is not reported
does, and else the one with the larger payload. -/
def isSecondFirst (x y : Fraction) : Bool :=
  match x, y with
  | .nan s p m, .nan _ q n =>
    if p == q then if m == n then s else m < n else q
  | _, _ => false

/-- What an operation gives of which one operand is no number. -/
def ofNans (x y : Fraction) : Fraction × Fraction.Notes :=
  if x = .malformed ∨ y = .malformed then (.undefined, Fraction.invalid)
  else if isSecondFirst x y then Fraction.ofNans y x
  else Fraction.ofNans x y

/-- The operation with a digit, on two fractions. -/
def calculate (r : Rounding) (digit : Nat) (x y : Fraction) : Fraction × Fraction.Notes :=
  if x.isNan || y.isNan then ofNans x y
  else
    match digit with
    | 0 => x.add r y
    | 1 => x.multiply y
    | 4 => x.subtract r y
    | 5 => y.subtract r x
    | 6 => x.divide y
    | _ => y.divide x

/-- Adds that an operand is too small to have all digits, unless there is more to tell. -/
def withSmall (x y : Fraction) (small : Fraction.Notes) (result : Fraction × Fraction.Notes) :
    Fraction × Fraction.Notes :=
  if x.isNan || y.isNan || result.2 != 0 then result else (result.1, small)

/-- Was a fraction rounded away from zero? -/
def isLarger (x exact : Fraction) : Bool :=
  match x, exact with
  | .finite _ d e, .finite _ c f =>
    Fraction.compare? (.finite false d e) (.finite false c f) == some .gt
  | .infinite _, .finite _ _ _ => true
  | _, _ => false

/-- Puts a result into a register, rounded to the digits of a format. The exact result tells whether it
was rounded away from zero. -/
def putFrom (f : Format) (index : Nat) (exact : Fraction) (x : Fraction × Fraction.Notes) :
    Execution Unit := do
  let s ← stack
  let (y, notes) := f.round s.rounding x.1
  let isUp := isLarger y exact
  update fun s =>
    ((s.put index y).note (x.2 ||| notes)).setConditions
      ((s.status &&& 0x4500) ||| (if isUp then 0x200 else 0))

/-- Puts an exact result into a register, rounded to the digits of a format. -/
def putRounded (f : Format) (index : Nat) (x : Fraction × Fraction.Notes) : Execution Unit :=
  putFrom f index x.1 x

/-- Puts a result into a register. -/
def putResult (index : Nat) (x : Fraction × Fraction.Notes) : Execution Unit := do
  putRounded (← stack).format index x

/-- The fraction in a register, and whether it is too small to have all digits. -/
def operand (index : Nat) : Execution (Fraction × Fraction.Notes) := do
  let s ← stack
  if !s.has index then update fun s => s.note (Fraction.invalid ||| FractionStack.wrongUse)
  return (s.get index, s.smallness index)

/-- Takes a fraction from the stack, so many times. -/
def drop : Nat → Execution Unit
  | 0 => return
  | count + 1 => do
    update FractionStack.pop
    drop count

/-- The condition bits of two fractions. -/
def conditions (x y : Fraction) : Nat :=
  match x.compare? y with
  | some .lt => 0x100
  | some .eq => 0x4000
  | some .gt => 0
  | none => 0x4500

/-- What a comparison has to report. -/
def compareNotes (x y : Fraction) (small : Fraction.Notes) (isQuiet : Bool) : Fraction.Notes :=
  if x.isNan || y.isNan then
    if !isQuiet || x.isSignal || y.isSignal then Fraction.invalid else 0
  else small

/-- Compares two fractions, and tells their order by condition bits. -/
def compare (x y : Fraction) (small : Fraction.Notes) (isQuiet : Bool) : Execution Unit :=
  update fun s => (s.note (compareNotes x y small isQuiet)).setConditions (conditions x y)

/-- Compares two fractions, and tells their order by flags. -/
def compareFlags (index : Nat) (isQuiet : Bool) : Execution Unit := do
  let (x, small) ← operand 0
  let (y, smaller) ← operand index
  update fun s =>
    let kept := if s.has 0 && s.has index then 0x4700 else 0x4500
    (s.note (compareNotes x y (small ||| smaller) isQuiet)).setConditions (s.status &&& kept)
  let c := conditions x y
  setFlags { ← flags with
    carry := c.testBit 8, parity := c.testBit 10, zero := c.testBit 14,
    overflow := false, sign := false, adjust := false }

/-- Arithmetic or a comparison of the top with another fraction. -/
def operate (digit : Nat) (y : Fraction) (small : Fraction.Notes) : Execution Unit := do
  let (x, smaller) ← operand 0
  let small := small ||| smaller
  match digit with
  | 2 => compare x y small false
  | 3 =>
    compare x y small false
    drop 1
  | _ => putResult 0 (withSmall x y small (calculate (← stack).rounding digit x y))

/-- The fraction in memory that a format tells. -/
def load (f : Format) (address : UInt64) : Execution (Fraction × Fraction.Notes) := do
  let n ← readMemory address ((1 + f.exponentBits + f.tailBits) / 8)
  return (f.decode n, if f.isSmall n then Fraction.small else 0)

/-- The integer in memory. -/
def loadInteger (w : Width) (address : UInt64) : Execution Fraction :=
  return .ofInt (w.signed (← readMemory address w.bytes))

/-- Puts a number on the stack that is not the result of an operation. -/
def push (x : Fraction) : Execution Unit :=
  update fun s => (s.setConditions (s.status &&& 0x4500)).push x

/-- Puts a fraction on the stack that was read. A number to be reported is reported. -/
def pushLoaded (x : Fraction × Fraction.Notes) : Execution Unit := do
  let notes := if (← stack).has 7 then 0 else if x.1.isSignal then Fraction.invalid else x.2
  push x.1.quiet
  update fun s => s.note notes

/-- Tells what writing a number met with, and whether it was rounded away from zero. -/
def noteWritten (notes : Fraction.Notes) (isUp : Bool) : Execution Unit :=
  update fun s =>
    (s.note notes).setConditions ((s.status &&& 0x4500) ||| (if isUp then 0x200 else 0))

/-- Writes the top as a fraction of a format. -/
def store (f : Format) (address : UInt64) : Execution Unit := do
  let (x, _) ← operand 0
  let s ← stack
  let (y, notes) := f.round s.rounding x
  writeMemory address (f.encode y) ((1 + f.exponentBits + f.tailBits) / 8)
  noteWritten notes (isLarger y x)

/-- The integer that a fraction is rounded to, if its size is below bounds for negative ones and for the
others; what there is to tell; and whether it was rounded away from zero. -/
def wholeOf (r : Rounding) (below above : Nat) (x : Fraction) :
    Option Int × Fraction.Notes × Bool :=
  match x.toInt r with
  | some (m, isExact) =>
    if m.natAbs < (if m < 0 then below else above) then
      (some m, if isExact then 0 else Fraction.rounded, isLarger (.ofInt m) x)
    else (none, Fraction.invalid, false)
  | none => (none, Fraction.invalid, false)

/-- Writes the top as an integer. -/
def storeInteger (r : Rounding) (w : Width) (address : UInt64) : Execution Unit := do
  let (x, _) ← operand 0
  let (n, notes, isUp) := wholeOf r (w.half + 1) w.half x
  writeMemory address ((n.map w.ofSigned).getD w.half) w.bytes
  noteWritten notes isUp

/-- The number that decimal digits of four bits write. -/
def ofDecimal (n : Nat) : Nat → Nat
  | 0 => 0
  | digits + 1 => n % 16 + 10 * ofDecimal (n / 16) digits

/-- The decimal digits of a number, four bits each. -/
def toDecimal (n : Nat) : Nat → Nat
  | 0 => 0
  | digits + 1 => n % 10 + 16 * toDecimal (n / 10) digits

/-- Reads eighteen decimal digits with a sign. -/
def loadDecimal (address : UInt64) : Execution Unit := do
  let n ← readMemory address 10
  push (.finite (n.testBit 79) (ofDecimal n 18) 0)

/-- Writes the top as eighteen decimal digits with a sign. -/
def storeDecimal (address : UInt64) : Execution Unit := do
  let (x, _) ← operand 0
  let bound := 1000000000000000000
  let (n, notes, isUp) := wholeOf (← stack).rounding bound bound x
  let sign := if x.isNegative then 0x80000000000000000000 else 0
  let digits := n.map fun m => toDecimal m.natAbs 18 + sign
  writeMemory address (digits.getD 0xFFFFC000000000000000) 10
  noteWritten notes isUp

/-- What a tag tells of a register: a number, zero, something else, or nothing. -/
def tagOf (s : FractionStack) (number : Nat) : Nat :=
  let i := FractionStack.registerOf number
  let n := s.registers.get i
  if !s.isFilled.get i then 3
  else if n % 0x80000000000000000000 = 0 then 1
  else if [0, 0x7FFF].contains (n / 0x10000000000000000 % 0x8000) ∨ !n.testBit 63 then 2
  else 0

/-- The tags of all registers. -/
def tagWord (s : FractionStack) : Nat :=
  (List.range 8).foldl (fun n i => n + tagOf s i <<< (2 * i)) 0

/-- Writes what the stack is like, but not its registers. -/
def storeState (address : UInt64) : Execution Unit := do
  let s ← stack
  writeMemory address (0xFFFF0000 + s.control) 4
  writeMemory (address + 4) (0xFFFF0000 + s.statusWord) 4
  writeMemory (address + 8) (0xFFFF0000 + tagWord s) 4
  writeMemory (address + 12) (s.instruction.toNat % 0x100000000) 12
  writeMemory (address + 24) 0xFFFF0000 4

/-- Reads what the stack is to be like, but not its registers. -/
def loadState (address : UInt64) : Execution Unit := do
  let control ← readMemory address 2
  let status ← readMemory (address + 4) 2
  let tags ← readMemory (address + 8) 2
  let instruction ← readMemory (address + 12) 4
  update fun s =>
    { s.setControl control with
      instruction := UInt64.ofNat instruction
      status := status &&& 0x477F
      top := FractionStack.registerOf (status / 0x800)
      isFilled := Vector.ofFn fun i : Fin 8 => (tags >>> (2 * i.val)) % 4 != 3 }

/-- Writes the registers, from the top on. -/
def storeRegisters (address : UInt64) : Nat → Execution Unit
  | 0 => return
  | count + 1 => do
    let n := (← stack).bits count
    writeMemory (address + 10 * UInt64.ofNat count) n 10
    storeRegisters address count

/-- Reads the registers, from the top on. -/
def loadRegisters (address : UInt64) : Nat → Execution Unit
  | 0 => return
  | count + 1 => do
    let n ← readMemory (address + 10 * UInt64.ofNat count) 10
    update fun s =>
      let i := s.place count
      { s with registers := s.registers.set i.val n i.isLt }
    loadRegisters address count

/-- Instructions with a number in memory, told by the code and a digit. -/
def withMemory (code digit : Nat) (address : UInt64) : Execution Unit := do
  let r := (← stack).rounding
  match code, digit with
  | 0xD8, _ =>
    let (y, small) ← load .single address
    operate digit y small
  | 0xDC, _ =>
    let (y, small) ← load .double address
    operate digit y small
  | 0xDA, _ => operate digit (← loadInteger .four address) 0
  | 0xDE, _ => operate digit (← loadInteger .two address) 0
  | 0xD9, 0 => pushLoaded (← load .single address)
  | 0xD9, 2 => store .single address
  | 0xD9, 3 =>
    store .single address
    drop 1
  | 0xD9, 4 => loadState address
  | 0xD9, 5 =>
    let n ← readMemory address 2
    update fun s => s.setControl n
  | 0xD9, 6 => storeState address
  | 0xD9, 7 => writeMemory address (← stack).control 2
  | 0xDB, 0 => push (← loadInteger .four address)
  | 0xDB, 1 =>
    storeInteger .towardsZero .four address
    drop 1
  | 0xDB, 2 => storeInteger r .four address
  | 0xDB, 3 =>
    storeInteger r .four address
    drop 1
  | 0xDB, 5 =>
    let n ← readMemory address 10
    update fun s => (s.setConditions (s.status &&& 0x4500)).pushBits n
  | 0xDB, 7 =>
    discard (operand 0)
    writeMemory address ((← stack).value 0) 10
    noteWritten 0 false
    drop 1
  | 0xDD, 0 => pushLoaded (← load .double address)
  | 0xDD, 1 =>
    storeInteger .towardsZero .eight address
    drop 1
  | 0xDD, 2 => store .double address
  | 0xDD, 3 =>
    store .double address
    drop 1
  | 0xDD, 4 =>
    loadState address
    loadRegisters (address + 28) 8
  | 0xDD, 6 =>
    storeState address
    storeRegisters (address + 28) 8
    update FractionStack.reset
  | 0xDD, 7 => writeMemory address (← stack).statusWord 2
  | 0xDF, 0 => push (← loadInteger .two address)
  | 0xDF, 1 =>
    storeInteger .towardsZero .two address
    drop 1
  | 0xDF, 2 => storeInteger r .two address
  | 0xDF, 3 =>
    storeInteger r .two address
    drop 1
  | 0xDF, 4 => loadDecimal address
  | 0xDF, 5 => push (← loadInteger .eight address)
  | 0xDF, 6 =>
    storeDecimal address
    drop 1
  | 0xDF, 7 =>
    storeInteger r .eight address
    drop 1
  | _, _ => failure

/-- The bits of constants, in the order of their codes: 1, the logarithms of 10 and e to base 2, the circle
number, the logarithms of 2 to base 10 and e, and zero. Each is cut off, and goes with whether it is exact,
and whether the next number is nearer. -/
def constants : List (Nat × Bool × Bool) :=
  [(0x3FFF8000000000000000, true, false), (0x4000D49A784BCD1B8AFE, false, false),
    (0x3FFFB8AA3B295C17F0BB, false, true), (0x4000C90FDAA22168C234, false, true),
    (0x3FFD9A209A84FBCFF798, false, true), (0x3FFEB17217F7D1CF79AB, false, true), (0, true, false)]

/-- The bits of a constant, rounded. -/
def constant (r : Rounding) (c : Nat × Bool × Bool) : Nat :=
  let (n, isExact, isNextNearer) := c
  match r with
  | .nearest => n + isNextNearer.toNat
  | .up => n + (!isExact).toNat
  | .down | .towardsZero => n

/-- Tells what kind of number is in the top. -/
def examine : Execution Unit := do
  let s ← stack
  let n := s.bits 0
  let kind :=
    if !s.has 0 then 0x4100
    else
      match Format.extended.decode n with
      | .nan _ isQuiet p => if !isQuiet && p == 0 && !n.testBit 63 then 0 else 0x100
      | .infinite _ => 0x500
      | .finite _ d _ =>
        if d = 0 then 0x4000 else if Format.extended.isSmall n then 0x4400 else 0x400
  update fun s => s.setConditions (kind ||| (if n.testBit 79 then 0x200 else 0))

/-- The power of two of a finite fraction that is not zero. -/
def exponentOf : Fraction → Int
  | .finite _ d e => e + Fraction.length d - 1
  | _ => 0

/-- The remainder of two finite fractions, and the quotient. -/
def remainderOf (r : Rounding) (x y : Fraction) : Fraction × Nat :=
  match x, y with
  | .finite s d e, .finite _ c f =>
    let least := min e f
    let n := d <<< (e - least).toNat
    let m := c <<< (f - least).toNat
    let q := n / m
    let rest := n - q * m
    let isUp := r == .nearest && (m < 2 * rest || (m == 2 * rest && q % 2 == 1))
    if isUp then (.finite (!s) (m - rest) least, q + 1) else (.finite s rest least, q)
  | _, _ => (.undefined, 0)

/-- The remainder of the top and the next fraction. If the quotient has too many digits, only a part of it
is taken away. -/
def remainder (r : Rounding) : Execution Unit := do
  let (x, small) ← operand 0
  let (y, smaller) ← operand 1
  let small := small ||| smaller
  match x, y with
  | .finite s d e, .finite t c f =>
    if c = 0 then
      putResult 0 (.undefined, Fraction.invalid)
      update fun s => s.setConditions (s.status &&& 0x4100)
    else
      let apart := exponentOf x - exponentOf y
      if d = 0 ∨ apart < 64 then
        let (rest, q) := if d = 0 then (x, 0) else remainderOf r x y
        putRounded .extended 0 (rest, small)
        update fun s => s.setConditions
          ((if q.testBit 2 then 0x100 else 0) ||| (if q.testBit 1 then 0x4000 else 0) |||
            (if q.testBit 0 then 0x200 else 0))
      else
        let part := apart - 32 - apart % 32
        let (rest, _) := remainderOf .towardsZero (.finite s d e) (.finite t c (f + part))
        putRounded .extended 0 (rest, small)
        update fun s => s.setConditions 0x400
  | .finite _ _ _, .infinite _ => update fun s => (s.note small).setConditions 0
  | _, _ =>
    putResult 0 (if x.isNan || y.isNan then ofNans x y else (.undefined, Fraction.invalid))
    update fun s => s.setConditions (s.status &&& 0x4100)

/-- Multiplies the top by the power of two that the next fraction tells. -/
def scale : Execution Unit := do
  let (x, small) ← operand 0
  let (y, smaller) ← operand 1
  let small := small ||| smaller
  match x, y with
  | .finite s d e, .finite _ _ _ =>
    let n := ((y.toInt .towardsZero).map Prod.fst).getD 0
    putRounded .extended 0 (.finite s d (e + max (-0x10000) (min 0x10000 n)), small)
  | .finite s d _, .infinite t =>
    if t then putResult 0 (.finite s 0 0, small)
    else if d = 0 then putResult 0 (.undefined, Fraction.invalid)
    else putResult 0 (.infinite s, small)
  | .infinite s, .infinite t =>
    putResult 0 (if t then (.undefined, Fraction.invalid) else (.infinite s, 0))
  | .infinite _, .finite _ _ _ => putResult 0 (x, small)
  | _, _ => putResult 0 (ofNans x y)

/-- Takes the top apart into the power of two and the digits. -/
def takeApart : Execution Unit := do
  let isFull := (← stack).has 7
  let (x, small) ← operand 0
  if isFull then update fun s => s.put 0 .undefined
  let x := if isFull then .undefined else x
  match x with
  | .finite s d e =>
    if d = 0 then
      putResult 0 (.infinite true, Fraction.zeroDivision)
      push (.finite s 0 0)
    else
      let n := exponentOf x
      putResult 0 (.ofInt n, small)
      push (.finite s d (e - n))
  | .infinite _ =>
    putResult 0 (.infinite false, 0)
    push x
  | .nan _ _ _ =>
    putResult 0 (ofNans x x)
    push x.quiet

/-- Changes the sign of the top. -/
def changeSign (isNegative : Bool → Bool) : Execution Unit := do
  discard (operand 0)
  update fun s =>
    let n := s.value 0
    let low := n % 0x80000000000000000000
    let sign := if s.has 0 then isNegative (n.testBit 79) else true
    (s.putBits 0 (if sign then low + 0x80000000000000000000 else low)).setConditions
      (s.status &&& 0x4500)

/-- The codes D9 E0 to D9 FF. -/
def single (code : Nat) : Execution Unit := do
  match code with
  | 0xE0 => changeSign not
  | 0xE1 => changeSign fun _ => false
  | 0xE4 =>
    let (x, small) ← operand 0
    compare x .zero small false
  | 0xE5 => examine
  | 0xF4 => takeApart
  | 0xF5 => remainder .nearest
  | 0xF6 => update fun s => (s.turn 7).setConditions (s.status &&& 0x4500)
  | 0xF7 => update fun s => (s.turn 1).setConditions (s.status &&& 0x4500)
  | 0xF8 => remainder .towardsZero
  | 0xFA =>
    let (x, small) ← operand 0
    putResult 0 (withSmall x x small x.root)
  | 0xFC =>
    let (x, small) ← operand 0
    let (y, notes) := x.integral (← stack).rounding
    putFrom .extended 0 x (y, notes ||| small)
  | 0xFD => scale
  | _ =>
    match constants[code - 0xE8]? with
    | some c =>
      if 0xE8 ≤ code then
        update fun s => (s.setConditions (s.status &&& 0x4500)).pushBits (constant s.rounding c)
      else failure
    | none => failure

/-- Exchanges the top with another register. -/
def exchange (index : Nat) : Execution Unit := do
  discard (operand 0)
  discard (operand index)
  update fun s =>
    let a := s.value 0
    let b := s.value index
    ((s.putBits 0 b).putBits index a).setConditions (s.status &&& 0x4500)

/-- Copies the top to another register. -/
def copyTo (index : Nat) : Execution Unit := do
  discard (operand 0)
  update fun s => (s.putBits index (s.value 0)).setConditions (s.status &&& 0x4500)

/-- Copies another register to the top under a condition. -/
def moveIf (condition : Bool) (index : Nat) : Execution Unit := do
  discard (operand index)
  discard (operand 0)
  update fun s =>
    if !(s.has 0 && s.has index) then (s.put 0 .undefined).setConditions (s.status &&& 0x4500)
    else if condition then s.putBits 0 (s.bits index)
    else s

/-- The condition with a number, for conditional moves. -/
def conditionOf (f : Flags) (number : Nat) : Bool :=
  match number with
  | 0 => f.carry
  | 1 => f.zero
  | 2 => f.carry || f.zero
  | _ => f.parity

/-- Arithmetic whose result goes to another register than the top. -/
def operateOn (digit index : Nat) : Execution Unit := do
  let (x, small) ← operand 0
  let (y, smaller) ← operand index
  putResult index (withSmall x y (small ||| smaller) (calculate (← stack).rounding digit x y))

/-- Compares the top with another register, and drops fractions. -/
def compareRegister (index dropped : Nat) (isQuiet : Bool) : Execution Unit := do
  let (x, small) ← operand 0
  let (y, smaller) ← operand index
  compare x y (small ||| smaller) isQuiet
  drop dropped

/-- Instructions with registers only, told by the code and the byte behind it. -/
def withRegister (code byte : Nat) : Execution Unit := do
  let digit := byte / 8 % 8
  let index := byte % 8
  match code, digit with
  | 0xD8, _ =>
    let (y, small) ← operand index
    operate digit y small
  | 0xD9, 0 =>
    discard (operand index)
    update fun s =>
      let n := s.value index
      let t := s.setConditions (s.status &&& 0x4500)
      if s.has index then t.pushBits n else (t.turn 7).putBits 0 n
  | 0xD9, 1 | 0xDD, 1 | 0xDF, 1 => exchange index
  | 0xD9, 2 => if index = 0 then return else failure
  | 0xDF, 2 | 0xDF, 3 =>
    copyTo index
    drop 1
  | 0xD9, 3 =>
    if (← stack).has 0 then copyTo index else noteWritten 0 false
    drop 1
  | 0xD9, _ => single byte
  | 0xDA, 5 => if index = 1 then compareRegister 1 2 true else failure
  | 0xDA, _ => if digit < 4 then moveIf (conditionOf (← flags) digit) index else failure
  | 0xDB, 4 =>
    match index with
    | 2 => update fun s => { s with status := s.status &&& 0x7F00 }
    | 3 => update FractionStack.reset
    | _ => return
  | 0xDB, 5 => compareFlags index true
  | 0xDB, 6 => compareFlags index false
  | 0xDB, _ => if digit < 4 then moveIf (!conditionOf (← flags) digit) index else failure
  | 0xDC, 2 => compareRegister index 0 false
  | 0xDC, 3 => compareRegister index 1 false
  | 0xDC, _ => operateOn digit index
  | 0xDD, 0 | 0xDF, 0 =>
    update fun s => (s.free index).setConditions (s.status &&& 0x4500)
    if code = 0xDF then drop 1
  | 0xDD, 2 => copyTo index
  | 0xDD, 3 =>
    copyTo index
    drop 1
  | 0xDD, 4 => compareRegister index 0 true
  | 0xDD, 5 => compareRegister index 1 true
  | 0xDE, 3 => if index = 1 then compareRegister 1 2 false else failure
  | 0xDE, 2 => compareRegister index 1 false
  | 0xDE, _ =>
    operateOn digit index
    drop 1
  | 0xDF, 4 =>
    if index = 0 then writeRegister .two Processor.result (← stack).statusWord else failure
  | 0xDF, 5 =>
    compareFlags index true
    drop 1
  | 0xDF, 6 =>
    compareFlags index false
    drop 1
  | _, _ => failure

/-- Does an instruction, told by the code and the byte behind it, only read or change the state of the
stack? -/
def isControl (code byte : Nat) : Bool :=
  let digit := byte / 8 % 8
  if byte < 0xC0 then (code == 0xD9 && 4 ≤ digit) || (code == 0xDD && [4, 6, 7].contains digit)
  else (code == 0xDB && digit == 4) || (code == 0xDF && byte == 0xE0)

/-- Is an instruction carried out although something is pending? -/
def isPatient (code byte : Nat) : Bool :=
  let digit := byte / 8 % 8
  isControl code byte && (0xC0 ≤ byte || 6 ≤ digit)

/-- Carries out the instruction with a code. -/
def execute (x : Marks) (code : Nat) : Execution Unit := do
  let byte ← Marks.peek
  let p ← x.operands 0
  if (← stack).isPending && !isPatient code byte then failure
  match p.target with
  | .memory address => withMemory code p.digit address
  | .register _ => withRegister code byte
  if !isControl code byte then update fun s => { s with instruction := x.start }

end Fractions
end GrammarAssay
