import GrammarAssay.Processor.Instruction

/-!
# Calls

**Input.** A machine, the address of a function, and its arguments. Some functions are not code in memory,
but services.

**Algorithm.** The function starts with its arguments in registers and the address to return to on its
stack. It runs until it returns there. A service does at once what it does, and returns; it can call other
functions. What never returns, or comes upon bytes that are no instruction, gives nothing, and then counts as zero.

**Results.**
* `Machine`: what is left of a processor between calls.
* `Service`: what runs in the place of code.
* `Machine.call`: the result of a function, and the machine after it.
-/

namespace GrammarAssay

/-- What is left of a processor between calls. -/
structure Machine where
  memory : Memory
  vectorControl : Nat
  fractions : FractionStack

/-- Goes on until a function returns. -/
abbrev Runner := Processor → Option Processor

/-- What runs in the place of code. -/
abbrev Service := Runner → Execution Unit

namespace Processor

/-- The end of the stack of a function. -/
def stackEnd : UInt64 := 0x7FFF00000000

/-- The address to which a function returns. -/
def home : UInt64 := 0x7FFF80000000

/-- How many instructions a function may carry out. -/
def patience : Nat := 200000000

/-- Runs until the processor is home, for a number of steps. -/
def run (serve : UInt64 → Option Service) : Nat → Processor → Option Processor
  | 0, _ => none
  | steps + 1, p =>
    if p.next = home then some p
    else
      match serve p.next with
      | some service =>
        match (service (run serve steps)).run p with
        | some (_, q) => run serve steps q
        | none => none
      | none =>
        match Instruction.step p with
        | some q => run serve steps q
        | none => none

/-- Puts arguments into their registers. -/
def setArguments (p : Processor) (arguments : List UInt64) : Processor :=
  (argumentRegisters.zip arguments).foldl (fun p a => p.setRegister a.1 a.2) p

/-- A processor that is about to run the function at an address. -/
def entering (m : Machine) (address : UInt64) (arguments : List UInt64) : Processor :=
  let p :=
    { fresh m.memory address with vectorControl := m.vectorControl, fractions := m.fractions }
  ((p.setRegister stack stackEnd).setArguments arguments).push .eight home.toNat

end Processor

namespace Machine

/-- A machine that has not done anything. -/
def fresh : Machine :=
  ⟨.empty, 0x1F80, .fresh⟩

/-- What is left of a processor. -/
def ofProcessor (p : Processor) : Machine :=
  ⟨p.memory, p.vectorControl, p.fractions⟩

/-- The result of the function at an address, and the machine after it. A function that does not return counts as one
that gave zero and did nothing: one that runs for longer than is waited for, or comes upon bytes that are no
instruction that is known, or calls a service that is not known. A program would end there, or go on. -/
def call (m : Machine) (serve : UInt64 → Option Service) (address : UInt64)
    (arguments : List UInt64) : UInt64 × Machine :=
  match Processor.run serve Processor.patience (Processor.entering m address arguments) with
  | some p => (p.register Processor.result, ofProcessor p)
  | none => (0, m)

end Machine

namespace Execution

/-- An argument of the function that was called. -/
def argument (number : Nat) : Execution UInt64 := do
  let p ← get
  return ((Processor.argumentRegisters[number]?).map p.register).getD 0

/-- Returns from the function that was called. -/
def return_ : Execution Unit := do
  jump (UInt64.ofNat (← pop .eight))

/-- Returns a value from the function that was called. -/
def answer (value : UInt64) : Execution Unit := do
  writeRegister .eight Processor.result value.toNat
  return_

/-- Calls a function from a service. -/
def callBack (run : Runner) (address : UInt64) (arguments : List UInt64) : Execution UInt64 := do
  let after := (← get).next
  push .eight Processor.home.toNat
  modify fun p => { p.setArguments arguments with next := address }
  match run (← get) with
  | some p =>
    set { p with next := after }
    return p.register Processor.result
  | none => failure

end Execution
end GrammarAssay
