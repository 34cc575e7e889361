import GrammarAssay.Processor.Call

/-!
# Functions of the system on memory

**Input.** Addresses and lengths, in the registers of arguments.

**Algorithm.** A stretch of memory is filled, copied, searched or compared. Comparison is by bytes without
signs. A search gives the address of what it finds, or zero.

**Results.**
* `Routine`: a function of the system, which gives a result.
* `Routine.copy`, `Routine.fill`, `Routine.find`: the main operations on stretches.
* `Routine.memory`: the functions with their names.
-/

namespace GrammarAssay

/-- A function of the system. -/
abbrev Routine := Execution UInt64

namespace Routine

open Execution

/-- The longest stretch that is worked on. -/
def longest : Nat := 0x4000000

/-- The number of bytes that an argument tells. -/
def count (number : Nat) : Execution Nat :=
  return min (← argument number).toNat longest

/-- An argument of 32 bits with a sign. -/
def int (number : Nat) : Execution Int :=
  return Width.four.signed (← argument number).toNat

/-- An argument of 64 bits with a sign. -/
def long (number : Nat) : Execution Int :=
  return Width.eight.signed (← argument number).toNat

/-- The byte that an argument tells. -/
def byte (number : Nat) : Execution UInt8 :=
  return (← argument number).toUInt8

/-- A result of 32 bits with a sign. -/
def ofInt (n : Int) : UInt64 :=
  UInt64.ofNat (Width.four.ofSigned n)

/-- A result of 64 bits with a sign. -/
def ofLong (n : Int) : UInt64 :=
  UInt64.ofNat (Width.eight.ofSigned n)

/-- Where the number of the last error stands. -/
def errorPlace : UInt64 := 0x2004000

/-- The number of the last error. -/
def lastError : Execution Int :=
  return Width.four.signed (← readMemory errorPlace 4)

/-- Keeps the number of an error, and gives a result. -/
def refuse (error : Nat) (value : UInt64) : Routine := do
  writeMemory errorPlace error 4
  return value

/-- The error of an argument that does not fit. -/
def badArgument : Nat := 22

/-- The error of a result that is too large. -/
def badRange : Nat := 34

/-- The bytes of a stretch. -/
def bytesAt (address : UInt64) (n : Nat) : Execution Bytes :=
  return (← get).memory.bytes address n

/-- The text at an address. -/
def textAt (address : UInt64) : Execution Bytes :=
  return (← get).memory.text address

/-- Writes bytes. -/
def putBytes (address : UInt64) (bs : Bytes) : Execution Unit :=
  modify fun p => { p with memory := p.memory.putBytes address bs }

/-- Writes bytes and a zero behind them. -/
def putText (address : UInt64) (bs : Bytes) : Execution Unit :=
  putBytes address (bs ++ [0])

/-- Writes 64 bits. -/
def putWord (address value : UInt64) : Execution Unit :=
  writeMemory address value.toNat 8

/-- The 64 bits at an address. -/
def wordAt (address : UInt64) : Execution UInt64 :=
  return (← get).memory.word address

/-- Fills a stretch with a byte. -/
def fill (address : UInt64) (b : UInt8) (n : Nat) : Execution Unit :=
  putBytes address (List.replicate n b)

/-- Copies a stretch, as it was before. -/
def copy (target source : UInt64) (n : Nat) : Execution Unit := do
  putBytes target (← bytesAt source n)

/-- The offset of a byte in a stretch. -/
def find? (b : UInt8) (bs : Bytes) : Option Nat :=
  bs.idxOf? b

/-- The offset of the last such byte in a stretch. -/
def findLast? (b : UInt8) (bs : Bytes) : Option Nat :=
  (bs.reverse.idxOf? b).map fun i => bs.length - 1 - i

/-- The offset of a run of bytes in a stretch. -/
def findRun? (run : Bytes) : Bytes → Option Nat
  | [] => if run.isEmpty then some 0 else none
  | b :: rest =>
    if run.isPrefixOf (b :: rest) then some 0 else (findRun? run rest).map (· + 1)

/-- An address, or zero where there is none. -/
def addressOf (address : UInt64) (offset : Option Nat) : UInt64 :=
  match offset with
  | some i => address + UInt64.ofNat i
  | none => 0

/-- The difference of the first two bytes that differ. -/
def difference : Bytes → Bytes → Int
  | a :: as, b :: bs => if a = b then difference as bs else (a.toNat : Int) - b.toNat
  | a :: _, [] => a.toNat
  | [], b :: _ => -(b.toNat : Int)
  | [], [] => 0

/-- Copies bytes up to one that ends it, and gives the address behind it. -/
def copyUpTo : Routine := do
  let target ← argument 0
  let bs ← bytesAt (← argument 1) (← count 3)
  match find? (← byte 2) bs with
  | some i =>
    putBytes target (bs.take (i + 1))
    return target + UInt64.ofNat (i + 1)
  | none =>
    putBytes target bs
    return 0

/-- Copies a stretch, and gives where it was copied to. -/
def copyTo : Routine := do
  copy (← argument 0) (← argument 1) (← count 2)
  argument 0

/-- Copies a stretch, and gives the address behind it. -/
def copyBehind : Routine := do
  copy (← argument 0) (← argument 1) (← count 2)
  return (← argument 0) + UInt64.ofNat (← count 2)

/-- Fills a stretch, and gives where it begins. -/
def fillWith : Routine := do
  fill (← argument 0) (← byte 1) (← count 2)
  argument 0

/-- Fills a stretch with zeros. -/
def clear : Routine := do
  fill (← argument 0) 0 (← count 1)
  argument 0

/-- Compares two stretches. -/
def compare : Routine := do
  return ofInt (difference (← bytesAt (← argument 0) (← count 2)) (← bytesAt (← argument 1) (← count 2)))

/-- Searches a stretch for a byte that is certain to come. -/
def findFar (b : UInt8) : Nat → UInt64 → Execution UInt64
  | 0, _ => return 0
  | bound + 1, address => do
    if (← readMemory address 1) = b.toNat then return address
    else findFar b bound (address + 1)

/-- Exchanges every two neighbouring bytes. -/
def exchangePairs : Bytes → Bytes
  | a :: b :: rest => b :: a :: exchangePairs rest
  | _ => []

/-- The functions on memory with their names. -/
def memory : List (String × Routine) :=
  [("memcpy", copyTo), ("memmove", copyTo), ("__memcpy_chk", copyTo), ("__memmove_chk", copyTo),
    ("mempcpy", copyBehind), ("__mempcpy", copyBehind), ("__mempcpy_chk", copyBehind),
    ("memccpy", copyUpTo), ("memset", fillWith), ("__memset_chk", fillWith),
    ("explicit_bzero", clear), ("bzero", clear), ("__bzero", clear), ("__explicit_bzero_chk", clear),
    ("memcmp", compare), ("bcmp", compare), ("__memcmpeq", compare),
    ("bcopy", do
      copy (← argument 1) (← argument 0) (← count 2)
      return 0),
    ("memchr", do
      return addressOf (← argument 0)
        (find? (← byte 1) (← bytesAt (← argument 0) (← count 2)))),
    ("memrchr", do
      return addressOf (← argument 0)
        (findLast? (← byte 1) (← bytesAt (← argument 0) (← count 2)))),
    ("rawmemchr", do findFar (← byte 1) longest (← argument 0)),
    ("__rawmemchr", do findFar (← byte 1) longest (← argument 0)),
    ("memmem", do
      return addressOf (← argument 0)
        (findRun? (← bytesAt (← argument 2) (← count 3)) (← bytesAt (← argument 0) (← count 1)))),
    ("memfrob", do
      putBytes (← argument 0) ((← bytesAt (← argument 0) (← count 1)).map (· ^^^ 42))
      argument 0),
    ("swab", do
      putBytes (← argument 1) (exchangePairs (← bytesAt (← argument 0) (← count 2)))
      return 0)]

end Routine
end GrammarAssay
