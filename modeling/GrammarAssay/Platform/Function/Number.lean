import GrammarAssay.Platform.Function.Text
import GrammarAssay.Processor.Arithmetic

/-!
# Functions of the system on numbers

**Input.** Numbers in the registers of arguments, or texts that write numbers.

**Algorithm.** A text that writes a number may begin with blanks and a sign; its base is told, or found from
its first digits. A number that does not fit becomes the nearest one that does. Random numbers are made by
adding numbers that were made before.

**Results.**
* `Routine.parseNumber`: the number that a text begins with.
* `Routine.classOf`: the classes of a character, as bits.
* `Routine.numbers`: the functions with their names.
-/

namespace GrammarAssay
namespace Routine

open Execution

/-- Is a byte blank? -/
def isBlank (b : UInt8) : Bool :=
  b == 32 || (9 ≤ b && b < 14)

/-- The value of a digit or a letter. -/
def digitValue? (b : UInt8) : Option Nat :=
  if 48 ≤ b && b < 58 then some (b.toNat - 48)
  else if 97 ≤ lower b && lower b < 123 then some ((lower b).toNat - 87)
  else none

/-- Is a byte a digit of a base? -/
def isDigit (base : Nat) (b : UInt8) : Bool :=
  (digitValue? b).any (· < base)

/-- The number that digits of a base write. -/
def ofDigits (base : Nat) (bs : Bytes) : Nat :=
  bs.foldl (fun n b => n * base + (digitValue? b).getD 0) 0

/-- Removes the sign that a base of sixteen has in front. -/
def dropMark (bs : Bytes) : Option Bytes :=
  match bs with
  | 48 :: x :: d :: rest => if lower x = 120 ∧ isDigit 16 d then some (d :: rest) else none
  | _ => none

/-- The base of a number, and the text behind its mark. -/
def baseOf (base : Nat) (bs : Bytes) : Nat × Bytes :=
  match dropMark bs with
  | some rest => if base = 0 ∨ base = 16 then (16, rest) else (base, bs)
  | none => if base = 0 then (if bs.head? = some 48 then 8 else 10, bs) else (base, bs)

/-- The number that a text begins with, and how many bytes write it. -/
def parseNumber (base : Nat) (bs : Bytes) : Int × Nat :=
  let rest := bs.dropWhile isBlank
  let isNegative := rest.head? = some 45
  let rest := if isNegative ∨ rest.head? = some 43 then rest.drop 1 else rest
  let (base, rest) := baseOf base rest
  let written := rest.takeWhile (isDigit base)
  if written.isEmpty then (0, 0)
  else
    let n := ofDigits base written
    (if isNegative then -(n : Int) else n, bs.length - rest.length + written.length)

/-- The nearest number of 64 bits. -/
def fit (isSigned : Bool) (n : Int) : UInt64 :=
  if isSigned then ofLong (max (-0x8000000000000000) (min 0x7FFFFFFFFFFFFFFF n))
  else if n.natAbs < UInt64.size then ofLong n
  else 0xFFFFFFFFFFFFFFFF

/-- Reads a number from bytes, and tells where it ends. -/
def readNumberFrom (isSigned : Bool) (bs : Bytes) (addressAt : Nat → UInt64) : Routine := do
  let base ← int 2
  if base < 0 ∨ base = 1 ∨ 36 < base then return (← refuse badArgument 0)
  let (n, length) := parseNumber base.toNat bs
  let place ← argument 1
  if place ≠ 0 then putWord place (addressAt length)
  let value := fit isSigned n
  if isSigned && Width.eight.signed value.toNat != n || UInt64.size ≤ n.natAbs then
    refuse badRange value
  else return value

/-- Reads a number from a text, and tells where it ends. -/
def readNumber (isSigned : Bool) : Routine := do
  let start ← argument 0
  readNumberFrom isSigned (← text 0) fun length => start + UInt64.ofNat length

/-- Reads a decimal number from a text. -/
def readDecimal : Execution UInt64 :=
  return fit true (parseNumber 10 (← text 0)).1

/-- The quotient and the remainder of two numbers, in two registers. -/
def divideLong : Routine := do
  let a ← long 0
  let b ← long 1
  if b = 0 then failure
  writeRegister .eight Processor.upper (ofLong (a.tmod b)).toNat
  return ofLong (a.tdiv b)

/-- The quotient and the remainder of two short numbers, in one register. -/
def divideShort : Routine := do
  let a ← int 0
  let b ← int 1
  if b = 0 then failure
  return ofInt (a.tdiv b) + (ofInt (a.tmod b) <<< 32)

/-- The number of the lowest bit that is set, from one on, or zero. -/
def firstSet (w : Width) : Routine := do
  let n := (← argument 0).toNat % w.modulus
  return if n = 0 then 0 else UInt64.ofNat (lowestBit n 64 + 1)

/-- The bytes of a number in the opposite order. -/
def reversed (count : Nat) : Routine :=
  return UInt64.ofNat (Instruction.reverseBytes (← argument 0).toNat count)

/-- A number of 32 bits with its two lowest bytes exchanged. -/
def exchanged : Routine := do
  let n := (← argument 0).toNat % 0x100000000
  return UInt64.ofNat (n - n % 0x10000 + Instruction.reverseBytes (n % 0x10000) 2)

/-- The bit of capital letters. -/
def upperBit : Nat := 0x100

/-- The bit of small letters. -/
def lowerBit : Nat := 0x200

def letterBit : Nat := 0x400

def digitBit : Nat := 0x800

/-- The bit of digits of a number to the base sixteen. -/
def hexBit : Nat := 0x1000

/-- The bit of blanks and line ends. -/
def spaceBit : Nat := 0x2000

/-- The bit of all that can be printed. -/
def printBit : Nat := 0x4000

/-- The bit of all that can be seen. -/
def visibleBit : Nat := 0x8000

/-- The bit of blanks within a line. -/
def blankBit : Nat := 1

/-- The bit of control characters. -/
def controlBit : Nat := 2

/-- The bit of punctuation. -/
def markBit : Nat := 4

/-- The bit of letters and digits. -/
def alphanumericBit : Nat := 8

/-- The classes of characters, with the bits of their numbers. -/
def classNames : List (String × Nat) :=
  [("alnum", alphanumericBit), ("alpha", letterBit), ("blank", blankBit), ("cntrl", controlBit),
    ("digit", digitBit), ("graph", visibleBit), ("lower", lowerBit), ("print", printBit),
    ("punct", markBit), ("space", spaceBit), ("upper", upperBit), ("xdigit", hexBit)]

/-- The classes of a character, as bits. -/
def classOf (c : Int) : Nat :=
  let within (a b : Int) := a ≤ c && c ≤ b
  let isUpper := within 65 90
  let isLower := within 97 122
  let isNumber := within 48 57
  let isVisible := within 33 126
  let bit (b : Bool) (n : Nat) := if b then n else 0
  let isAlphanumeric := isUpper || isLower || isNumber
  bit isUpper upperBit + bit isLower lowerBit + bit (isUpper || isLower) letterBit +
    bit isNumber digitBit + bit (isNumber || within 65 70 || within 97 102) hexBit +
    bit (c == 32 || within 9 13) spaceBit + bit (within 32 126) printBit +
    bit isVisible visibleBit + bit (c == 32 || c == 9) blankBit +
    bit (within 0 31 || c == 127) controlBit + bit (isVisible && !isAlphanumeric) markBit +
    bit isAlphanumeric alphanumericBit

/-- Has a character one of some classes? The classes are the answer. -/
def inClass (bits : Nat) : Routine :=
  return UInt64.ofNat (classOf (← int 0) &&& bits)

/-- A character from -128 to 255 in another case, as a number of 32 bits. A negative one but the last stands
for a byte. -/
def caseOf (change : UInt8 → UInt8) (c : Int) : Nat :=
  if c = -1 then Width.four.ofSigned c else (change (UInt8.ofNat (c % 256).toNat)).toNat

/-- A character in another case. -/
def inCase (change : UInt8 → UInt8) : Routine := do
  let c ← int 0
  return ofInt (if -128 ≤ c ∧ c < 256 then Width.four.signed (caseOf change c) else c)

/-- Where the numbers stand that were made last. -/
def randomState : UInt64 := 0x2001000

/-- The numbers of a seed. -/
def seeded (seed : Int) : Nat → List Int
  | 0 => []
  | count + 1 =>
    let n := 16807 * (seed % 127773) - 2836 * (seed / 127773)
    seed :: seeded (if n < 0 then n + 2147483647 else n) count

/-- Where the next number is made: two places in a circle of numbers. -/
def stepRandom : Execution Nat := do
  let front ← readMemory (randomState + 8) 4
  let back := (front + 28) % 31
  let place (i : Nat) : UInt64 := randomState + 16 + 4 * UInt64.ofNat i
  let n := ((← readMemory (place front) 4) + (← readMemory (place back) 4)) % 0x100000000
  writeMemory (place front) n 4
  writeMemory (randomState + 8) ((front + 1) % 31) 4
  return n / 2

/-- Makes numbers that nobody sees. -/
def discardRandom : Nat → Execution Unit
  | 0 => return
  | count + 1 => do
    discard stepRandom
    discardRandom count

/-- Begins the random numbers of a seed. -/
def seedRandom (seed : Nat) : Execution Unit := do
  let numbers := seeded (if seed = 0 then 1 else Width.four.signed seed) 31
  writeMemory randomState 1 8
  writeMemory (randomState + 8) 3 4
  putBytes (randomState + 16) (numbers.flatMap fun n =>
    let n := Width.four.ofSigned n
    (List.range 4).map fun i => UInt8.ofNat (n >>> (8 * i)))
  discardRandom 310

/-- The next random number. -/
def random : Routine := do
  if (← readMemory randomState 8) = 0 then seedRandom 1
  return UInt64.ofNat (← stepRandom)

/-- The next random number of a seed that the program keeps. -/
def randomOf : Routine := do
  let place ← argument 0
  let step (n : Nat) := (n * 1103515245 + 12345) % 0x100000000
  let a := step (← readMemory place 4)
  let b := step a
  let c := step b
  writeMemory place c 4
  let n := ((a / 0x10000 % 2048 * 1024 ^^^ b / 0x10000 % 1024) * 1024) ^^^ c / 0x10000 % 1024
  return UInt64.ofNat n

/-- Where a number of 48 bits stands that was made last. -/
def longState : UInt64 := 0x2001100

/-- The next number of 48 bits, kept at an address. -/
def stepLong (place : UInt64) : Execution Nat := do
  let n := ((← readMemory place 6) * 0x5DEECE66D + 0xB) % 0x1000000000000
  writeMemory place n 6
  return n

/-- A fraction as a result. -/
def answerFraction (f : Format) (x : Fraction) : Routine := do
  let n := f.encode (f.round .nearest x).1
  modify fun p => p.setVector Processor.firstVector n
  return 0

/-- A fraction that is an argument. -/
def fraction (f : Format) (number : Fin 16) : Execution Fraction := do
  let n := (← get).vector number
  return f.decode (n % (1 <<< (1 + f.exponentBits + f.tailBits)))

def testFraction (f : Format) (test : Fraction → Int) : Routine :=
  return ofInt (test (← fraction f Processor.firstVector))

/-- One if a fraction is infinite, with its sign. -/
def infinity : Fraction → Int
  | .infinite s => if s then -1 else 1
  | _ => 0

/-- One if a fraction is a number that is not infinite. -/
def finiteness : Fraction → Int
  | .finite _ _ _ => 1
  | _ => 0

/-- A fraction multiplied by a power of two. -/
def scaleFraction (f : Format) : Routine := do
  let n ← int 0
  match ← fraction f Processor.firstVector with
  | .finite s d e => answerFraction f (.finite s d (e + n))
  | x => answerFraction f x

/-- A fraction with the sign of a second one. -/
def copySign (f : Format) : Routine := do
  let x ← fraction f Processor.firstVector
  let y ← fraction f Processor.secondVector
  answerFraction f (x.withSign y.isNegative)

/-- Numbers of six bits as characters, from the lowest on. -/
def sixBits (n : Nat) : Nat → Bytes
  | 0 => []
  | bound + 1 =>
    if n = 0 then []
    else
      let d := n % 64
      let c := if d < 12 then d + 46 else if d < 38 then d + 53 else d + 59
      UInt8.ofNat c :: sixBits (n / 64) bound

/-- The number of six bits that a character stands for. -/
def sixBitValue? (b : UInt8) : Option Nat :=
  if 46 ≤ b && b < 58 then some (b.toNat - 46)
  else if 65 ≤ b && b < 91 then some (b.toNat - 53)
  else if 97 ≤ b && b < 123 then some (b.toNat - 59)
  else none

/-- The number that characters of six bits write. -/
def ofSixBits : Nat → Bytes → Nat
  | 0, _ => 0
  | _, [] => 0
  | bound + 1, b :: rest =>
    match sixBitValue? b with
    | some n => n + 64 * ofSixBits bound rest
    | none => 0

/-- Where a text stands that is a result. -/
def resultText : UInt64 := 0x2001200

/-- A text as a result. -/
def answerText (bs : Bytes) : Routine := do
  putText resultText bs
  return resultText

/-- The functions that read numbers, with their names. -/
def readers : List (String × Routine) :=
  ["strtol", "strtoll", "strtoimax", "strtoq", "strtol_l", "strtoll_l", "__strtol_internal",
    "__strtoll_internal", "__strtol_l", "__strtoll_l"].map (·, readNumber true) ++
  ["strtoul", "strtoull", "strtoumax", "strtouq", "strtoul_l", "strtoull_l", "__strtoul_internal",
    "__strtoull_internal", "__strtoul_l", "__strtoull_l"].map (·, readNumber false)

/-- The functions that tell the class of a character, with their names. -/
def classifiers : List (String × Routine) :=
  classNames.flatMap fun e =>
      ["is" ++ e.1, "is" ++ e.1 ++ "_l", "__is" ++ e.1 ++ "_l"].map (·, inClass e.2)

/-- The functions on numbers with their names. -/
def numbers : List (String × Routine) :=
  readers ++ classifiers ++
  [("abs", do return ofInt (← int 0).natAbs),
    ("labs", do return ofLong (← long 0).natAbs), ("llabs", do return ofLong (← long 0).natAbs),
    ("imaxabs", do return ofLong (← long 0).natAbs),
    ("div", divideShort), ("ldiv", divideLong), ("lldiv", divideLong), ("imaxdiv", divideLong),
    ("ffs", firstSet .four), ("__ffs", firstSet .four),
    ("ffsl", firstSet .eight), ("ffsll", firstSet .eight),
    ("atoi", do return ofInt (Width.four.signed (← readDecimal).toNat)),
    ("atol", readDecimal), ("atoll", readDecimal),
    ("htonl", reversed 4), ("ntohl", reversed 4), ("htons", exchanged), ("ntohs", exchanged),
    ("tolower", inCase lower), ("tolower_l", inCase lower), ("__tolower_l", inCase lower),
    ("_tolower", inCase lower), ("toupper", inCase upper), ("toupper_l", inCase upper),
    ("__toupper_l", inCase upper), ("_toupper", inCase upper),
    ("toascii", do return (← argument 0) &&& 0x7F), ("__toascii_l", do return (← argument 0) &&& 0x7F),
    ("isascii", do return if (← argument 0).toNat % 0x100000000 < 128 then 1 else 0),
    ("__isascii_l", do return if (← argument 0).toNat % 0x100000000 < 128 then 1 else 0),
    ("isctype", do return UInt64.ofNat (classOf (← int 0) &&& (← argument 1).toNat)),
    ("__isctype", do return UInt64.ofNat (classOf (← int 0) &&& (← argument 1).toNat)),
    ("rand", random), ("random", random), ("rand_r", randomOf),
    ("srand", do
      seedRandom ((← argument 0).toNat % 0x100000000)
      return 0),
    ("srandom", do
      seedRandom ((← argument 0).toNat % 0x100000000)
      return 0),
    ("lrand48", do return UInt64.ofNat ((← stepLong longState) / 0x20000)),
    ("mrand48", do return (Width.four.extend ((← stepLong longState) / 0x10000))),
    ("nrand48", do return UInt64.ofNat ((← stepLong (← argument 0)) / 0x20000)),
    ("jrand48", do return (Width.four.extend ((← stepLong (← argument 0)) / 0x10000))),
    ("drand48", do answerFraction .double (.finite false (← stepLong longState) (-48))),
    ("erand48", do answerFraction .double (.finite false (← stepLong (← argument 0)) (-48))),
    ("srand48", do
      writeMemory longState ((← argument 0).toNat % 0x100000000 * 0x10000 + 0x330E) 6
      return 0),
    ("difftime", do
      answerFraction .double (.ofInt ((← long 0) - (← long 1)))),
    ("ldexp", scaleFraction .double), ("scalbn", scaleFraction .double),
    ("ldexpf", scaleFraction .single), ("scalbnf", scaleFraction .single),
    ("copysign", copySign .double),
    ("copysignf", copySign .single),
    ("isnan", testFraction .double fun x => if x.isNan then 1 else 0),
    ("__isnan", testFraction .double fun x => if x.isNan then 1 else 0),
    ("isnanf", testFraction .single fun x => if x.isNan then 1 else 0),
    ("__isnanf", testFraction .single fun x => if x.isNan then 1 else 0),
    ("isinf", testFraction .double infinity), ("__isinf", testFraction .double infinity),
    ("isinff", testFraction .single infinity), ("__isinff", testFraction .single infinity),
    ("finite", testFraction .double finiteness), ("__finite", testFraction .double finiteness),
    ("finitef", testFraction .single finiteness), ("__finitef", testFraction .single finiteness),
    ("l64a", do answerText (sixBits ((← argument 0).toNat % 0x100000000) 6)),
    ("a64l", do return UInt64.ofNat (ofSixBits 6 (← text 0) % 0x100000000)),
    ("gnu_dev_major", do
      let n := (← argument 0).toNat
      return UInt64.ofNat (n / 0x100 % 0x1000 + n / 0x100000000000 * 0x1000)),
    ("gnu_dev_minor", do
      let n := (← argument 0).toNat
      return UInt64.ofNat (n % 0x100 + n / 0x100000 % 0x1000000 * 0x100)),
    ("gnu_dev_makedev", do
      let major := (← argument 0).toNat % 0x100000000
      let minor := (← argument 1).toNat % 0x100000000
      return UInt64.ofNat (major % 0x1000 * 0x100 + major / 0x1000 * 0x100000000000 + minor % 0x100 +
        minor / 0x100 * 0x100000)),
    ("dysize", do
      let y ← int 0
      return if y % 4 = 0 ∧ (y % 100 ≠ 0 ∨ y % 400 = 0) then 366 else 365)]

end Routine
end GrammarAssay
