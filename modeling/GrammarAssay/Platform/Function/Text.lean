import GrammarAssay.Platform.Function.Memory

/-!
# Functions of the system on texts

**Input.** The addresses of texts, each of which ends with a zero.

**Algorithm.** A text is measured, copied, joined, compared or searched. Letters are those of ASCII. A text
can be taken apart word by word; where the next word begins is kept in memory.

**Results.**
* `Routine.text`: the functions with their names.
-/

namespace GrammarAssay
namespace Routine

open Execution

/-- Where a search for words goes on, if the program does not tell. -/
def wordsLeft : UInt64 := 0x2000000

/-- The lower case of a letter. -/
def lower (b : UInt8) : UInt8 :=
  if 65 ≤ b && b < 91 then b + 32 else b

/-- The upper case of a letter. -/
def upper (b : UInt8) : UInt8 :=
  if 97 ≤ b && b < 123 then b - 32 else b

/-- The text that an argument tells. -/
def text (number : Nat) : Execution Bytes := do
  textAt (← argument number)

/-- The text that an argument tells, cut off behind the number of bytes that another one tells. -/
def cutText (number bound : Nat) : Execution Bytes :=
  return (← text number).take (← count bound)

/-- Copies a text; the result is where it begins, or where it ends. -/
def copyText (atEnd : Bool) : Routine := do
  let bs ← text 1
  let target ← argument 0
  putText target bs
  return if atEnd then target + UInt64.ofNat bs.length else target

/-- Copies so many bytes of a text, with zeros behind it. -/
def copyCut (atEnd : Bool) : Routine := do
  let n ← count 2
  let bs := (← text 1).take n
  let target ← argument 0
  putBytes target (bs ++ List.replicate (n - bs.length) 0)
  return if atEnd then target + UInt64.ofNat bs.length else target

/-- Joins a text to another one. -/
def join (bs : Bytes) : Routine := do
  let target ← argument 0
  putText (target + UInt64.ofNat (← text 0).length) bs
  return target

/-- Copies as much of a text and its end as there is room for, and gives its length. -/
def copyPart : Routine := do
  let bs ← text 1
  putBytes (← argument 0) ((bs ++ [0]).take (← count 2))
  return UInt64.ofNat bs.length

/-- Compares two texts after a change of their bytes. -/
def compareText (change : UInt8 → UInt8) (bound : Option Nat) : Routine := do
  let cut (bs : Bytes) : Execution Bytes := do
    match bound with
    | some number => return bs.take (← count number)
    | none => return bs
  return ofInt (difference ((← cut (← text 0)).map change) ((← cut (← text 1)).map change))

/-- Searches a text for a byte; its end can be found too. -/
def findByte (search : UInt8 → Bytes → Option Nat) : Routine := do
  return addressOf (← argument 0) (search (← byte 1) ((← text 0) ++ [0]))

/-- How many bytes of a text come before one that fails a test. -/
def span (test : UInt8 → Bool) (bs : Bytes) : Nat :=
  (bs.takeWhile test).length

/-- Searches a text for another one, after a change of their bytes. -/
def findText (change : UInt8 → UInt8) : Routine := do
  return addressOf (← argument 0) (findRun? ((← text 1).map change) ((← text 0).map change))

/-- Takes the next word of a text, and tells where the text behind it begins. -/
def takeWord (address : UInt64) (delimiters : Bytes) : Execution (UInt64 × UInt64) := do
  if address = 0 then return (0, 0)
  let bs ← textAt address
  let skipped := span delimiters.contains bs
  let rest := bs.drop skipped
  let start := address + UInt64.ofNat skipped
  if rest.isEmpty then return (0, start)
  let length := span (fun b => !delimiters.contains b) rest
  if length = rest.length then return (start, start + UInt64.ofNat length)
  putBytes (start + UInt64.ofNat length) [0]
  return (start, start + UInt64.ofNat (length + 1))

/-- Takes words one by one; where the next one begins stands at an address. -/
def nextWord (state : UInt64) : Routine := do
  let given ← argument 0
  let address ← if given = 0 then wordAt state else pure given
  let (word, rest) ← takeWord address (← text 1)
  putWord state rest
  return word

/-- Cuts a text at the first of some bytes. -/
def cutAt : Routine := do
  let place ← argument 0
  let address ← wordAt place
  if address = 0 then return 0
  let delimiters ← text 1
  let bs ← textAt address
  let length := span (fun b => !delimiters.contains b) bs
  if length = bs.length then putWord place 0
  else
    putBytes (address + UInt64.ofNat length) [0]
    putWord place (address + UInt64.ofNat (length + 1))
  return address

/-- The part of a path behind its last slash. -/
def lastPart : Routine := do
  let bs ← text 0
  return (← argument 0) + UInt64.ofNat (match findLast? 47 bs with
    | some i => i + 1
    | none => 0)

/-- What the digits before a place are: none, a number, zeros, or what follows zeros. -/
inductive Run where
  | none
  | number
  | zeros
  | fraction
deriving DecidableEq

/-- The kind of a byte in a comparison of versions. -/
inductive VersionByte where
  | other
  | digit
  | zero
deriving DecidableEq

/-- The kind of a byte. -/
def VersionByte.of (b : UInt8) : VersionByte :=
  if b = 48 then .zero else if 48 < b && b < 58 then .digit else .other

/-- What the digits are after one more byte. -/
def Run.next : Run → VersionByte → Run
  | _, .other => .none
  | .none, .digit => .number
  | .none, .zero => .zeros
  | .number, _ => .number
  | .zeros, .digit => .fraction
  | .zeros, .zero => .zeros
  | .fraction, _ => .fraction

/-- The order of two runs of digits by their lengths. -/
def compareLengths (as bs : Bytes) (otherwise : Int) : Int :=
  let m := (as.takeWhile fun b => VersionByte.of b ≠ .other).length
  let n := (bs.takeWhile fun b => VersionByte.of b ≠ .other).length
  if n < m then 1 else if m < n then -1 else otherwise

/-- The order of two versions from the first bytes on that differ. Numbers count by their lengths, and zeros
in front make a number smaller. -/
def decideVersions (run : Run) (a b : UInt8) (as bs : Bytes) : Int :=
  let plain : Int := (a.toNat : Int) - b.toNat
  match run, VersionByte.of a, VersionByte.of b with
  | .none, .digit, .digit => compareLengths as bs plain
  | .number, .other, .other => plain
  | .number, .other, _ => -1
  | .number, _, .other => 1
  | .number, _, _ => compareLengths as bs plain
  | .zeros, .other, .other => plain
  | .zeros, .other, _ => 1
  | .zeros, _, .other => -1
  | _, _, _ => plain

/-- Compares two texts; runs of digits count as numbers. Both end with a zero. -/
def compareVersions (run : Run) : Bytes → Bytes → Int
  | a :: as, b :: bs =>
    if a = b then compareVersions (run.next (VersionByte.of a)) as bs
    else decideVersions run a b as bs
  | _, _ => 0

/-- The functions on texts with their names. -/
def texts : List (String × Routine) :=
  [("strlen", do return UInt64.ofNat (← text 0).length),
    ("strnlen", do return UInt64.ofNat (← cutText 0 1).length),
    ("strcpy", copyText false), ("__strcpy_chk", copyText false),
    ("stpcpy", copyText true), ("__stpcpy", copyText true), ("__stpcpy_chk", copyText true),
    ("strncpy", copyCut false), ("__strncpy_chk", copyCut false),
    ("stpncpy", copyCut true), ("__stpncpy", copyCut true), ("__stpncpy_chk", copyCut true),
    ("strcat", do join (← text 1)), ("__strcat_chk", do join (← text 1)),
    ("strncat", do join (← cutText 1 2)), ("__strncat_chk", do join (← cutText 1 2)),
    ("strcmp", compareText id none), ("strcoll", compareText id none),
    ("strcoll_l", compareText id none), ("__strcoll_l", compareText id none),
    ("strncmp", compareText id (some 2)),
    ("strcasecmp", compareText lower none), ("__strcasecmp", compareText lower none),
    ("strcasecmp_l", compareText lower none), ("__strcasecmp_l", compareText lower none),
    ("strncasecmp", compareText lower (some 2)), ("strncasecmp_l", compareText lower (some 2)),
    ("__strncasecmp_l", compareText lower (some 2)),
    ("strverscmp", do return ofInt (compareVersions .none ((← text 0) ++ [0]) ((← text 1) ++ [0]))),
    ("__strverscmp", do return ofInt (compareVersions .none ((← text 0) ++ [0]) ((← text 1) ++ [0]))),
    ("strchr", findByte find?), ("index", findByte find?),
    ("strrchr", findByte findLast?), ("rindex", findByte findLast?),
    ("strchrnul", do
      return (← argument 0) +
        UInt64.ofNat (span (· != (← byte 1)) (← text 0))),
    ("strstr", findText id), ("strcasestr", findText lower), ("__strcasestr", findText lower),
    ("strspn", do return UInt64.ofNat (span (← text 1).contains (← text 0))),
    ("strcspn", do
      let stops ← text 1
      return UInt64.ofNat (span (fun b => !stops.contains b) (← text 0))),
    ("strpbrk", do
      let stops ← text 1
      return addressOf (← argument 0) ((← text 0).findIdx? stops.contains)),
    ("strtok", nextWord wordsLeft),
    ("strtok_r", do nextWord (← argument 2)), ("__strtok_r", do nextWord (← argument 2)),
    ("strsep", cutAt), ("__strsep_g", cutAt),
    ("basename", lastPart),
    ("strxfrm", copyPart), ("strxfrm_l", copyPart), ("__strxfrm_l", copyPart)]

end Routine
end GrammarAssay
