import GrammarAssay.Platform.Function.Store
import GrammarAssay.Processor.Operand

/-!
# Arguments without a fixed number

**Input.** A call of a function that takes as many arguments as its caller gives, or the address of a list in
which such arguments were kept.

**Algorithm.** Numbers come from the registers of arguments that are left, and fractions of 64 bits from the
first eight vector registers; all others come from the stack. A list tells where the registers were saved,
and how many of them were used up.

**Results.**
* `Supply.own`, `Supply.ofList`: the arguments of a call, and those of a list.
* `Supply.leave`: what a list tells when some of its arguments were taken.
* `Supply.word`, `Supply.double`, `Supply.extended`: the next argument of a kind.
-/

namespace GrammarAssay

/-- Arguments that are left. -/
structure Supply where
  /-- How many registers of arguments were used up. -/
  words : Nat
  /-- How many vector registers were used up. -/
  doubles : Nat
  /-- Where the next argument on the stack stands. -/
  stack : UInt64
  /-- Where the registers were saved, if the arguments are those of a list. -/
  saved : Option UInt64

namespace Supply

open Execution Routine

/-- The arguments of a call behind so many fixed ones. -/
def own (fixed : Nat) : Execution Supply :=
  return ⟨fixed, 0, (← get).register Processor.stack + 8, none⟩

/-- The arguments of the list at an address. -/
def ofList (address : UInt64) : Execution Supply := do
  let words ← readMemory address 4
  let doubles ← readMemory (address + 4) 4
  return ⟨words / 8, (doubles - 48) / 16, ← wordAt (address + 8), some (← wordAt (address + 16))⟩

/-- Tells the list at an address what is left of its arguments. -/
def leave (s : Supply) (address : UInt64) : Execution Unit := do
  writeMemory address (8 * s.words) 4
  writeMemory (address + 4) (48 + 16 * s.doubles) 4
  putWord (address + 8) s.stack

/-- The next argument on the stack, of so many bytes. -/
def onStack (width : Nat) : StateT Supply Execution Nat := do
  let s ← get
  let start := s.stack
  set { s with stack := start + 8 * UInt64.ofNat ((width + 7) / 8) }
  readMemory start width

/-- The next number. -/
def word : StateT Supply Execution UInt64 := do
  let s ← get
  if s.words < 6 then
    set { s with words := s.words + 1 }
    match s.saved with
    | none => argument s.words
    | some address => wordAt (address + 8 * UInt64.ofNat s.words)
  else return UInt64.ofNat (← onStack 8)

/-- A vector register from the first on. -/
def vectorOf (number : Nat) : Fin 16 :=
  Marks.registerOf number

/-- The next fraction of 64 bits. -/
def double : StateT Supply Execution Nat := do
  let s ← get
  if s.doubles < 8 then
    set { s with doubles := s.doubles + 1 }
    match s.saved with
    | none => return (← getThe Processor).vector (vectorOf s.doubles) % UInt64.size
    | some address => return (← wordAt (address + 48 + 16 * UInt64.ofNat s.doubles)).toNat
  else onStack 8

/-- The next fraction of 80 bits. -/
def extended : StateT Supply Execution Nat := do
  modify fun s => { s with stack := (s.stack + 15) / 16 * 16 }
  let n ← onStack 10
  return n

end Supply
end GrammarAssay
