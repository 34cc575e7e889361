import GrammarAssay.Processor.Arithmetic
import GrammarAssay.Processor.Instruction.Vectors

/-!
# Instructions on vectors of fractions

**Input.** A processor, and the code of the instruction that it has come to. The lanes of vectors are
fractions of 32 or 64 bits.

**Algorithm.** A mark tells the format, and whether all lanes take part or only the lowest one. The control
word of vectors tells how results are rounded, and keeps what the operations have met with. It can ask for
zeros in the place of numbers that are too small to have all digits.

**Results.**
* `VectorFractions.Lane`: what becomes of two lanes.
* `VectorFractions.execute`: the instructions whose code has a second byte.
-/

namespace GrammarAssay
namespace VectorFractions

open Execution Vectors

/-- The bits of a result, and what the operation met with. -/
abbrev Outcome := Nat × Fraction.Notes

/-- What becomes of two lanes in a format, under a control word. -/
abbrev Lane := Nat → Format → Nat → Nat → Outcome

/-- The number of bits of a format. -/
def bits (f : Format) : Nat :=
  1 + f.exponentBits + f.tailBits

/-- The rounding that a control word tells. -/
def rounding (control : Nat) : Rounding :=
  .ofCode (control / 0x2000 % 4)

/-- Are operands that are too small taken for zero? -/
def dropsOperands (control : Nat) : Bool :=
  control.testBit 6

/-- Are results that are too small replaced by zero? -/
def dropsResults (control : Nat) : Bool :=
  control.testBit 15

/-- A lane as an operand. -/
def operand (control : Nat) (f : Format) (n : Nat) : Fraction :=
  let x := f.decode n
  if dropsOperands control && f.isSmall n then .finite x.isNegative 0 0 else x

/-- Whether one of two lanes is too small. -/
def smallNote (control : Nat) (f : Format) (a b : Nat) : Fraction.Notes :=
  let isNan := (f.decode a).isNan || (f.decode b).isNan
  if !dropsOperands control && !isNan && (f.isSmall a || f.isSmall b) then Fraction.small else 0

/-- A result, rounded. -/
def settle (control : Nat) (f : Format) (r : Fraction × Fraction.Notes) : Outcome :=
  let (n, notes) := f.finish (rounding control) r
  if dropsResults control && f.isSmall n then
    (f.encode (.finite (f.decode n).isNegative 0 0), notes ||| Fraction.tooSmall ||| Fraction.rounded)
  else (n, notes)

/-- An operation on fractions as one on lanes. -/
def lift (op : Rounding → Fraction → Fraction → Fraction × Fraction.Notes) : Lane :=
  fun control f a b =>
    let (n, notes) := settle control f (op (rounding control) (operand control f a) (operand control f b))
    let isFirst := notes &&& (Fraction.invalid ||| Fraction.zeroDivision) = 0
    (n, if isFirst then notes ||| smallNote control f a b else notes)

/-- An operation on the second lane alone. -/
def liftOne (op : Fraction → Fraction × Fraction.Notes) : Lane :=
  fun control f _ b => lift (fun _ x _ => op x) control f b b

/-- A fraction of which only so many digits are known: it is taken to lie in the middle of those that
begin with them. -/
def middle (digits : Nat) : Fraction → Fraction
  | .finite s d e =>
    let shift := Fraction.length d - digits
    .finite s (2 * (d >>> shift) + 1) (e + shift - 1)
  | x => x

/-- A reciprocal of thirteen digits, or that of a root, from the first digits of the second lane. What is
too small to have all digits counts as zero, and nothing is reported. -/
def estimate (digits : Nat) (op : Fraction → Fraction) : Lane :=
  fun _ f _ b =>
    let x := f.decode b
    if x.isNan then (f.encode x.quiet, 0)
    else if x.isZero || f.isSmall b then (f.encode (.infinite x.isNegative), 0)
    else
      let y := (Fraction.one.divide (op (middle digits x))).1
      let z := (Format.round ⟨13, 15, true⟩ .nearest y).1
      let n := f.encode z
      (if f.isSmall n then f.encode (.finite z.isNegative 0 0) else n, 0)

/-- The lesser or the greater of two lanes; the second one where they have no order, or are zero both. -/
def extreme (isWanted : Ordering) : Lane :=
  fun control f a b =>
    let x := operand control f a
    let y := operand control f b
    let notes := if x.isNan || y.isNan then Fraction.invalid else smallNote control f a b
    let first := !(x.isZero && y.isZero) && x.compare? y == some isWanted
    let keep (z : Fraction) (n : Nat) := if z.isZero then f.encode z else n
    (if first then keep x a else keep y b, notes)

/-- The relations of two fractions for which the predicates hold, as bits: less, equal, greater, none. -/
def predicates : List Nat :=
  [2, 1, 3, 8, 13, 14, 12, 7, 10, 9, 11, 0, 5, 6, 4, 15]

/-- Does a predicate report every operand that is no number? -/
def isStrict (number : Nat) : Bool :=
  [1, 2, 5, 6].contains (number % 8) != number.testBit 4

/-- The relation of two fractions as a bit. -/
def relation (x y : Fraction) : Nat :=
  match x.compare? y with
  | some .lt => 1
  | some .eq => 2
  | some .gt => 4
  | none => 8

/-- All bits of a lane set if a predicate holds. -/
def compareLane (number : Nat) : Lane :=
  fun control f a b =>
    let x := operand control f a
    let y := operand control f b
    let holds := (predicates[number % 16]?).getD 0 &&& relation x y != 0
    let isReported := x.isSignal || y.isSignal || (isStrict number && (x.isNan || y.isNan))
    (Lanes.mask (bits f) holds, if isReported then Fraction.invalid else smallNote control f a b)

/-- The fraction in another format. -/
def reformat (source target : Format) (control n : Nat) : Outcome :=
  let (m, notes) := settle control target ((operand control source n), 0)
  (m, notes ||| if notes &&& Fraction.invalid = 0 then smallNote control source n n else 0)

/-- The fraction of an integer with a sign. -/
def ofInteger (w : Width) (target : Format) (control n : Nat) : Outcome :=
  settle control target (.ofInt (w.signed n), 0)

/-- The integer that a fraction is rounded to, or the least one if there is none. -/
def toInteger (r : Rounding) (source : Format) (w : Width) (control n : Nat) : Outcome :=
  match (operand control source n).toInt r with
  | some (m, isExact) =>
    if -(w.half : Int) ≤ m ∧ m < w.half then (w.ofSigned m, if isExact then 0 else Fraction.rounded)
    else (w.half, Fraction.invalid)
  | none => (w.half, Fraction.invalid)

/-- The control word. -/
def control : Execution Nat :=
  return (← get).vectorControl

/-- Adds what an operation met with to the control word. -/
def note (notes : Fraction.Notes) : Execution Unit :=
  modify fun p => { p with vectorControl := p.vectorControl ||| notes }

/-- The results of lanes, noted. -/
def collect (width : Nat) (outcomes : List Outcome) : Execution Nat := do
  outcomes.forM fun o => note o.2
  return Lanes.join width (outcomes.map Prod.fst)

/-- Combines all lanes. -/
def combineAll (x : Marks) (isGiven : Bool) (f : Format) (op : Nat → Lane) : Execution Unit :=
  combine x isGiven fun n a b => do
    let c ← control
    let count := 128 / bits f
    collect (bits f) ((Lanes.split (bits f) count a).zipWith (op n c f)
      (Lanes.split (bits f) count b))

/-- Combines the lowest lanes; the others come from the first source. -/
def combineLowest (x : Marks) (isGiven : Bool) (f : Format) (op : Nat → Lane) : Execution Unit := do
  let p ← x.operands isGiven.toNat
  let number ← numberIf isGiven
  let b ← readSource (bits f) p.target
  let a := (← firstSource x p.register) % Lanes.power 128
  let (n, notes) := op number (← control) f (Lanes.lane (bits f) a 0) b
  note notes
  writeVector x p.register (Lanes.setLane (bits f) a 0 n)

/-- Combines lanes as the marks tell. -/
def combineKind (x : Marks) (isGiven : Bool) (op : Nat → Lane) : Execution Unit :=
  match kind x with
  | .plain => combineAll x isGiven .single op
  | .narrow => combineAll x isGiven .double op
  | .single => combineLowest x isGiven .single op
  | .double => combineLowest x isGiven .double op

/-- Estimates lanes as the marks tell; only one format is known. -/
def estimateKind (x : Marks) (digits : Nat) (op : Fraction → Fraction) : Execution Unit :=
  match kind x with
  | .plain | .single => combineKind x false fun _ => estimate digits op
  | .narrow | .double => failure

/-- The operation with a code. -/
def operation? (code : Nat) : Option Lane :=
  match code with
  | 0x51 => some (liftOne Fraction.root)
  | 0x58 => some (lift Fraction.add)
  | 0x59 => some (lift fun _ => Fraction.multiply)
  | 0x5C => some (lift Fraction.subtract)
  | 0x5D => some (extreme .lt)
  | 0x5E => some (lift fun _ => Fraction.divide)
  | 0x5F => some (extreme .gt)
  | _ => none

/-- Converts all lanes. What the source has too few lanes for is filled with zeros. -/
def convertAll (x : Marks) (source target : Nat) (f : Nat → Nat → Outcome) : Execution Unit := do
  let p ← x.operands 0
  let count := size x / max source target
  let n ← readSource (count * source) p.target
  let c ← control
  writeVector x p.register (← collect target ((Lanes.split source count n).map (f c)))

/-- Converts the lowest lane; the others come from the first source. -/
def convertLowest (x : Marks) (source target : Nat) (f : Nat → Nat → Outcome) : Execution Unit := do
  let p ← x.operands 0
  let (n, notes) := f (← control) (← readSource source p.target)
  note notes
  let a := (← firstSource x p.register) % Lanes.power 128
  writeVector x p.register (Lanes.setLane target a 0 n)

/-- Converts fractions to fractions of the other format. -/
def convertFormat (x : Marks) : Execution Unit :=
  match kind x with
  | .plain => convertAll x 32 64 (reformat .single .double)
  | .narrow => convertAll x 64 32 (reformat .double .single)
  | .single => convertLowest x 32 64 (reformat .single .double)
  | .double => convertLowest x 64 32 (reformat .double .single)

/-- Converts between integers and fractions, all lanes of 32 bits. -/
def convertInteger (x : Marks) : Execution Unit := do
  let r := rounding (← control)
  match kind x with
  | .plain => convertAll x 32 32 (ofInteger .four .single)
  | .narrow => convertAll x 32 32 (toInteger r .single .four)
  | .single => convertAll x 32 32 (toInteger .towardsZero .single .four)
  | .double => failure

/-- Converts between integers of 32 bits and fractions of 64 bits. -/
def convertWide (x : Marks) : Execution Unit := do
  let r := rounding (← control)
  match kind x with
  | .single => convertAll x 32 64 (ofInteger .four .double)
  | .narrow => convertAll x 64 32 (toInteger .towardsZero .double .four)
  | .double => convertAll x 64 32 (toInteger r .double .four)
  | .plain => failure

/-- Converts short vectors or registers of integers to fractions. -/
def convertFrom (x : Marks) : Execution Unit := do
  let w := if x.isEight then Width.eight else .four
  let p ← x.operands 0
  let c ← control
  let a := (← firstSource x p.register) % Lanes.power 128
  let scalar (f : Format) : Execution Unit := do
    let (n, notes) := ofInteger w f c (← x.read w p.target)
    note notes
    writeVector x p.register (Lanes.setLane (bits f) a 0 n)
  match kind x with
  | .single => scalar .single
  | .double => scalar .double
  | .plain =>
    let n ← collect 32 ((Lanes.split 32 2 (← readShort p.target)).map (ofInteger .four .single c))
    writeVector x p.register (Lanes.setLane 64 a 0 n)
  | .narrow =>
    let n ← collect 64 ((Lanes.split 32 2 (← readShort p.target)).map (ofInteger .four .double c))
    writeVector x p.register n

/-- Converts fractions to short vectors or registers of integers. -/
def convertTo (x : Marks) (isCut : Bool) : Execution Unit := do
  let w := if x.isEight then Width.eight else .four
  let p ← x.operands 0
  let c ← control
  let r := if isCut then Rounding.towardsZero else rounding c
  let scalar (f : Format) : Execution Unit := do
    let (n, notes) := toInteger r f w c (← readSource (bits f) p.target)
    note notes
    writeRegister w p.register n
  let pair (f : Format) : Execution Unit := do
    let n ← readSource (2 * bits f) p.target
    writeShort p.register (← collect 32 ((Lanes.split (bits f) 2 n).map (toInteger r f .four c)))
  match kind x with
  | .single => scalar .single
  | .double => scalar .double
  | .plain => pair .single
  | .narrow => pair .double

/-- Compares the lowest lanes, and tells the order by flags. -/
def compareFlags (x : Marks) (isQuiet : Bool) : Execution Unit := do
  let f := if kind x = .narrow then Format.double else .single
  let p ← x.operands 0
  let c ← control
  let b ← readSource (bits f) p.target
  let a := Lanes.lane (bits f) (← readVector p.register) 0
  let (u, v) := (operand c f a, operand c f b)
  let isReported := if isQuiet then u.isSignal || v.isSignal else u.isNan || v.isNan
  note (if isReported then Fraction.invalid else smallNote c f a b)
  let r := relation u v
  setFlags { (← flags).ofResult .four 0 with
    carry := r = 1 || r = 8, zero := r = 2 || r = 8, parity := r = 8 }

/-- Combines neighbours, or subtracts and adds by turns. -/
def combineNeighbours (x : Marks) (f : Format) (even odd : Lane) (isAcross : Bool) : Execution Unit :=
  combine x false fun _ a b => do
    let c ← control
    let count := 128 / bits f
    let as := Lanes.split (bits f) count a
    let bs := Lanes.split (bits f) count b
    let op (i m n : Nat) : Outcome := (if i % 2 = 0 then even else odd) c f m n
    let pairOf (l : List Nat) (i : Nat) : Outcome :=
      even c f ((l[2 * i]?).getD 0) ((l[2 * i + 1]?).getD 0)
    if isAcross then
      let half := List.range (count / 2)
      collect (bits f) (half.map (pairOf as) ++ half.map (pairOf bs))
    else
      collect (bits f) ((List.range count).map fun i => op i ((as[i]?).getD 0) ((bs[i]?).getD 0))

/-- The format of the codes 7C, 7D and D0. -/
def neighbourFormat (x : Marks) : Format :=
  if kind x = .narrow then .double else .single

/-- Rounds to integers as a number in the instruction tells. -/
def roundLane (number : Nat) : Lane :=
  fun control f _ b =>
    let r := if number.testBit 2 then rounding control else .ofCode (number % 4)
    let (n, notes) := liftOne (Fraction.integral r) control f b b
    (n, if number.testBit 3 then notes &&& Fraction.invalid else notes &&& (Fraction.invalid ||| Fraction.rounded))

/-- The sum of the products of chosen lanes, in chosen lanes. Each lane begins with its own neighbours. -/
def dotProduct (f : Format) (number a b : Nat) : Execution Nat := do
  let c ← control
  let count := 128 / bits f
  let product (i : Nat) : Outcome :=
    if number.testBit (4 + i) then
      lift (fun _ => Fraction.multiply) c f (Lanes.lane (bits f) a i) (Lanes.lane (bits f) b i)
    else (0, 0)
  let sum (m n : Outcome) : Outcome :=
    let (r, notes) := lift Fraction.add c f m.1 n.1
    (r, notes ||| m.2 ||| n.2)
  let pair (i : Nat) : Outcome := sum (product (i ^^^ 1)) (product i)
  let total (i : Nat) : Outcome :=
    if count = 2 then sum (product i) (product (i ^^^ 1)) else sum (pair i) (pair (i ^^^ 2))
  note (total 0).2
  return Lanes.join (bits f) ((List.range count).map fun i =>
    if number.testBit i then (total i).1 else 0)

/-- Reads and writes the control word, and waits for memory. -/
def manage (x : Marks) : Execution Unit := do
  let p ← x.operands 0
  match p.digit, p.target with
  | 2, .memory address =>
    let n ← readMemory address 4
    modify fun q => { q with vectorControl := n }
  | 3, .memory address => writeMemory address (← control) 4
  | 5, .register _ | 6, .register _ | 7, _ => return
  | _, _ => failure

/-- Does a second byte tell an instruction of this module? -/
def isCode (code : Nat) : Bool :=
  [0x2A, 0x2C, 0x2D, 0x2E, 0x2F, 0x51, 0x52, 0x53, 0x7C, 0x7D, 0xAE, 0xC2, 0xD0, 0xE6].contains code ||
    (0x58 ≤ code && code < 0x60)

/-- The instructions whose code has a second byte. -/
def execute (x : Marks) (code : Nat) : Execution Unit :=
  let sum := lift Fraction.add
  let difference := lift Fraction.subtract
  match code with
  | 0x2A => convertFrom x
  | 0x2C => convertTo x true
  | 0x2D => convertTo x false
  | 0x2E => compareFlags x true
  | 0x2F => compareFlags x false
  | 0x5A => convertFormat x
  | 0x5B => convertInteger x
  | 0x7C => combineNeighbours x (neighbourFormat x) sum sum true
  | 0x7D => combineNeighbours x (neighbourFormat x) difference difference true
  | 0x52 => estimateKind x 11 fun y => y.root.1
  | 0x53 => estimateKind x 12 id
  | 0xAE => manage x
  | 0xC2 => combineKind x true fun n => compareLane (if x.vector.isSome then n % 32 else n % 8)
  | 0xD0 => combineNeighbours x (neighbourFormat x) difference sum false
  | 0xE6 => convertWide x
  | _ =>
    match operation? code with
    | some op => combineKind x false fun _ => op
    | none => failure

end VectorFractions
end GrammarAssay
