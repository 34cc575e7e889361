import GrammarAssay.Platform.Function.Number

/-!
# Functions of the system on wide texts

**Input.** The addresses of texts whose characters have 32 bits each, and which end with a zero.

**Algorithm.** These texts are treated as the others are, character by character. Between the two kinds,
only characters of ASCII are converted.

**Results.**
* `Routine.wide`: the functions with their names.
-/

namespace GrammarAssay
namespace Routine

open Execution

/-- The characters from an address on, up to a zero or a bound. -/
def wideUpTo : Nat → UInt64 → Execution (List Nat)
  | 0, _ => return []
  | bound + 1, address => do
    let c ← readMemory address 4
    if c = 0 then return [] else return c :: (← wideUpTo bound (address + 4))

/-- So many characters from an address on. -/
def wideAt (address : UInt64) : Nat → Execution (List Nat)
  | 0 => return []
  | count + 1 => do return (← readMemory address 4) :: (← wideAt (address + 4) count)

/-- Writes characters. -/
def putWide (address : UInt64) : List Nat → Execution Unit
  | [] => return
  | c :: rest => do
    writeMemory address c 4
    putWide (address + 4) rest

/-- The wide text that an argument tells. -/
def wideText (number : Nat) : Execution (List Nat) := do
  wideUpTo longest (← argument number)

/-- The address of a character. -/
def wideAddress (address : UInt64) (index : Nat) : UInt64 :=
  address + 4 * UInt64.ofNat index

/-- The address of a character that was found, or zero. -/
def wideAddressOf (address : UInt64) (index : Option Nat) : UInt64 :=
  match index with
  | some i => wideAddress address i
  | none => 0

/-- The order of two characters, which have a sign. -/
def wideOrder (a b : Nat) : Int :=
  let a := Width.four.signed a
  let b := Width.four.signed b
  if a < b then -1 else if a = b then 0 else 1

/-- The order of the first two characters that differ. -/
def wideDifference : List Nat → List Nat → Int
  | a :: as, b :: bs => if a = b then wideDifference as bs else wideOrder a b
  | _ :: _, [] => 1
  | [], _ :: _ => -1
  | [], [] => 0

/-- The difference of the first two characters that differ. -/
def wideDistance : List Nat → List Nat → Int
  | a :: as, b :: bs => if a = b then wideDistance as bs else Width.four.signed a - Width.four.signed b
  | a :: _, [] => Width.four.signed a
  | [], b :: _ => -(Width.four.signed b)
  | [], [] => 0

/-- The index of a run of characters. -/
def findWideRun? (run : List Nat) : List Nat → Option Nat
  | [] => if run.isEmpty then some 0 else none
  | c :: rest =>
    if run.isPrefixOf (c :: rest) then some 0 else (findWideRun? run rest).map (· + 1)

/-- Copies a wide text; the result is where it begins, or where it ends. -/
def copyWide (atEnd : Bool) : Routine := do
  let cs ← wideText 1
  let target ← argument 0
  putWide target (cs ++ [0])
  return if atEnd then wideAddress target cs.length else target

/-- Copies so many characters, with zeros behind them. -/
def copyWideCut (atEnd : Bool) : Routine := do
  let n ← count 2
  let cs := (← wideText 1).take n
  let target ← argument 0
  putWide target (cs ++ List.replicate (n - cs.length) 0)
  return if atEnd then wideAddress target cs.length else target

/-- Copies so many characters. -/
def copyWideTo (atEnd : Bool) : Routine := do
  let n ← count 2
  let target ← argument 0
  putWide target (← wideAt (← argument 1) n)
  return if atEnd then wideAddress target n else target

/-- Fills a stretch with a character. -/
def fillWide : Routine := do
  putWide (← argument 0) (List.replicate (← count 2) ((← argument 1).toNat % 0x100000000))
  argument 0

/-- Joins characters to a wide text. -/
def joinWide (cs : List Nat) : Routine := do
  let target ← argument 0
  putWide (wideAddress target (← wideText 0).length) (cs ++ [0])
  return target

/-- The lower case of a wide character. -/
def wideLower (c : Nat) : Nat :=
  if 65 ≤ c ∧ c < 91 then c + 32 else c

/-- The upper case of a wide character. -/
def wideUpper (c : Nat) : Nat :=
  if 97 ≤ c ∧ c < 123 then c - 32 else c

/-- The argument as a character of 32 bits. -/
def character (number : Nat) : Execution Nat :=
  return (← argument number).toNat % 0x100000000

/-- Has a wide character one of some classes? The classes are the answer, but for digits. -/
def inWideClass (bits : Nat) : Routine := do
  let classes ← inClass bits
  return if bits = digitBit ∧ classes ≠ 0 then 1 else classes

/-- The functions that tell the class of a wide character, with their names. -/
def wideClassifiers : List (String × Routine) :=
  classNames.flatMap fun e =>
      ["isw" ++ e.1, "isw" ++ e.1 ++ "_l", "__isw" ++ e.1 ++ "_l"].map fun name =>
        (name, inWideClass e.2)

/-- The functions on wide texts with their names. -/
def wide : List (String × Routine) :=
  wideClassifiers ++
  [("wcslen", do return UInt64.ofNat (← wideText 0).length),
    ("wcsnlen", do return UInt64.ofNat ((← wideText 0).take (← count 1)).length),
    ("wcscpy", copyWide false), ("wcpcpy", copyWide true),
    ("__wcscpy_chk", copyWide false), ("__wcpcpy_chk", copyWide true),
    ("wcsncpy", copyWideCut false), ("wcpncpy", copyWideCut true),
    ("__wcsncpy_chk", copyWideCut false), ("__wcpncpy_chk", copyWideCut true),
    ("wmemcpy", copyWideTo false), ("wmemmove", copyWideTo false), ("wmempcpy", copyWideTo true),
    ("__wmemcpy_chk", copyWideTo false), ("__wmemmove_chk", copyWideTo false),
    ("__wmempcpy_chk", copyWideTo true),
    ("wmemset", fillWide), ("__wmemset_chk", fillWide),
    ("wcscat", do joinWide (← wideText 1)), ("__wcscat_chk", do joinWide (← wideText 1)),
    ("wcsncat", do joinWide ((← wideText 1).take (← count 2))),
    ("__wcsncat_chk", do joinWide ((← wideText 1).take (← count 2))),
    ("wcscmp", do return ofInt (wideDifference (← wideText 0) (← wideText 1))),
    ("wcscoll", do return ofInt (wideDifference (← wideText 0) (← wideText 1))),
    ("wcsncmp", do
      let n ← count 2
      return ofInt (wideDifference ((← wideText 0).take n) ((← wideText 1).take n))),
    ("wmemcmp", do
      let n ← count 2
      return ofInt (wideDifference (← wideAt (← argument 0) n) (← wideAt (← argument 1) n))),
    ("wcscasecmp", do
      return ofInt (wideDistance ((← wideText 0).map wideLower) ((← wideText 1).map wideLower))),
    ("wcschr", do
      return wideAddressOf (← argument 0) (((← wideText 0) ++ [0]).idxOf? (← character 1))),
    ("wcschrnul", do
      let cs ← wideText 0
      return wideAddress (← argument 0) ((cs.idxOf? (← character 1)).getD cs.length)),
    ("wcsrchr", do
      let cs := (← wideText 0) ++ [0]
      let index? := (cs.reverse.idxOf? (← character 1)).map fun i => cs.length - 1 - i
      return wideAddressOf (← argument 0) index?),
    ("wmemchr", do
      return wideAddressOf (← argument 0)
        ((← wideAt (← argument 0) (← count 2)).idxOf? (← character 1))),
    ("wcsstr", do return wideAddressOf (← argument 0) (findWideRun? (← wideText 1) (← wideText 0))),
    ("wcswcs", do return wideAddressOf (← argument 0) (findWideRun? (← wideText 1) (← wideText 0))),
    ("wcsspn", do
      let set ← wideText 1
      return UInt64.ofNat ((← wideText 0).takeWhile set.contains).length),
    ("wcscspn", do
      let set ← wideText 1
      return UInt64.ofNat ((← wideText 0).takeWhile fun c => !set.contains c).length),
    ("wcspbrk", do
      let set ← wideText 1
      return wideAddressOf (← argument 0) ((← wideText 0).findIdx? set.contains)),
    ("towlower", do return UInt64.ofNat (wideLower (← character 0))),
    ("towupper", do return UInt64.ofNat (wideUpper (← character 0))),
    ("btowc", do
      let c ← int 0
      return ofInt (if 0 ≤ c ∧ c < 128 then c else -1)),
    ("wctob", do
      let c ← int 0
      return ofInt (if 0 ≤ c ∧ c < 128 then c else -1)),
    ("mbsinit", do
      let place ← argument 0
      if place = 0 then return 1
      return if (← readMemory place 4) = 0 then 1 else 0)]

end Routine
end GrammarAssay
