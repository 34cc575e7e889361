import GrammarAssay.Processor.Instruction.Integer

/-!
# Instructions on strings

**Input.** One register tells where a string is read, and another one where it is written.

**Algorithm.** Both go on by one item after each step, forward or backward. A mark repeats the instruction
as often as the counting register tells; a comparison ends when the two items are no longer the same, or no
longer different.

**Results.**
* `Strings.execute`: the instructions on strings.
-/

namespace GrammarAssay
namespace Strings

open Execution Instruction

/-- What is done with one item. -/
inductive Step where
  | move
  | compare
  | store
  | load
  | scan
deriving DecidableEq

/-- The step with a code, if it is one of strings. -/
def Step.ofCode? (code : Nat) : Option Step :=
  match code / 2 with
  | 0x52 => some move
  | 0x53 => some compare
  | 0x55 => some store
  | 0x56 => some load
  | 0x57 => some scan
  | _ => none

/-- The address in a register. -/
def addressIn (x : Marks) (r : Fin 16) : Execution UInt64 :=
  return UInt64.ofNat (← readRegister x.countWidth r)

/-- Goes on by one item. -/
def advance (x : Marks) (w : Width) (r : Fin 16) : Execution Unit := do
  let c := x.countWidth
  let n ← readRegister c r
  let size := if (← flags).isBackward then c.modulus - w.bytes else w.bytes
  writeRegister c r ((n + size) % c.modulus)

/-- The next item that is read. -/
def next (x : Marks) (w : Width) : Execution Nat := do
  let n ← readMemory (x.base + (← addressIn x Processor.source)) w.bytes
  advance x w Processor.source
  return n

/-- The next item of the other string. -/
def other (x : Marks) (w : Width) : Execution Nat := do
  let n ← readMemory (← addressIn x Processor.target) w.bytes
  advance x w Processor.target
  return n

/-- Writes the next item. -/
def put (x : Marks) (w : Width) (n : Nat) : Execution Unit := do
  writeMemory (← addressIn x Processor.target) n w.bytes
  advance x w Processor.target

/-- Does one step. -/
def once (x : Marks) (w : Width) : Step → Execution Unit
  | .move => do put x w (← next x w)
  | .store => do put x w (← readResult w)
  | .load => do writeResult w (← next x w)
  | .compare => do
    let a ← next x w
    let b ← other x w
    setFlags (Arithmetic.compare.apply (← flags) w a b).2
  | .scan => do
    let b ← other x w
    setFlags (Arithmetic.compare.apply (← flags) w (← readResult w) b).2

/-- Does a repeated step go on? -/
def goesOn (x : Marks) (s : Step) (f : Flags) : Bool :=
  match s with
  | .compare | .scan => f.zero == (x.repetition == .whileEqual)
  | _ => true

/-- Repeats a step at most so many times. -/
def many (x : Marks) (w : Width) (s : Step) : Nat → Execution Unit
  | 0 => return
  | count + 1 => do
    once x w s
    writeRegister x.countWidth Processor.counter count
    if goesOn x s (← flags) then many x w s count

/-- The most steps of one instruction. -/
def most : Nat := 0x8000000

/-- Carries out the instruction with a code. -/
def execute (x : Marks) (code : Nat) (s : Step) : Execution Unit := do
  let w := x.widthOf code
  if x.repetition = .once then once x w s
  else
    let count ← readRegister x.countWidth Processor.counter
    if most < count then failure else many x w s count

end Strings
end GrammarAssay
