import GrammarAssay.Processor.Instruction.Fractions
import GrammarAssay.Processor.Instruction.Strings
import GrammarAssay.Processor.Instruction.WideVectors

/-!
# Instructions

**Input.** A processor that has come to an instruction.

**Algorithm.** The marks in front of the code are fetched first. The code tells a family of instructions:
those on integers, on strings, on the stack of fractions, or on vectors. The byte 0F stands in front of a
code of two bytes, or of three.

**Results.**
* `Instruction.step`: the processor after one instruction.
-/

namespace GrammarAssay
namespace Instruction

open Execution

/-- Asks the system for something. Only a request that has no meaning is answered. -/
def askSystem : Execution Unit := do
  let number ← readResult .eight
  if number < 0x200 then failure
  writeRegister .eight Processor.counter (← get).next.toNat
  writeRegister .eight Processor.lost (← flags).toNat
  writeResult .eight (Width.eight.ofSigned (-38))

/-- Carries out the instruction whose code has a second byte. -/
def extended (x : Marks) : Execution Unit := do
  let code ← fetch .one
  if code = 0x38 then LaterVectors.execute x (← fetch .one)
  else if code = 0x3A then LaterVectors.executeNumbered x (← fetch .one)
  else if code = 0x05 then askSystem
  else if Vectors.isCode code then Vectors.execute x code
  else if VectorFractions.isCode code then VectorFractions.execute x code
  else executeExtended x code

/-- Carries out the instruction with a code. -/
def carryOut (x : Marks) (code : Nat) : Execution Unit :=
  match Strings.Step.ofCode? code with
  | some s => Strings.execute x code s
  | none =>
    if code = 0x0F then extended x
    else if 0xD8 ≤ code ∧ code < 0xE0 then Fractions.execute x code
    else if code = 0xC4 ∨ code = 0xC5 then WideVectors.execute x code
    else execute x code

/-- The processor after one instruction. -/
def step (p : Processor) : Option Processor :=
  ((do
    let (x, code) ← Marks.fetch
    carryOut x code : Execution Unit).run p).map Prod.snd

end Instruction
end GrammarAssay
