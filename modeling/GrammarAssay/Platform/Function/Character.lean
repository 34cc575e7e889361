import GrammarAssay.Platform.Function.Store
import GrammarAssay.Platform.Function.Wide

/-!
# Functions of the system on wide characters

**Input.** Characters of 32 bits, and bytes that stand for them.

**Algorithm.** A byte of ASCII stands for the character with its number, and every other byte for none. Where
a byte or a character has no counterpart, the conversion ends with a mistake. Classes and changes of
characters have numbers under which they are used later.

**Results.**
* `Routine.convert`: a text of bytes as one of characters, or the other way round.
* `Routine.characters`: the functions with their names.
-/

namespace GrammarAssay
namespace Routine

open Execution

/-- The error of a character without a counterpart. -/
def badSequence : Nat := 84

/-- The result of a mistake. -/
def mistake : UInt64 := 0xFFFFFFFFFFFFFFFF

/-- The characters that come before one without a counterpart. -/
def convertible (cs : List Nat) : List Nat :=
  cs.takeWhile (· < 128)

/-- The character that begins a stretch of bytes; its length is the result, or zero for the last one. -/
def readCharacter (target source : UInt64) (room width : Nat) (tooShort : UInt64) : Routine := do
  if source = 0 then return 0
  else if room = 0 then return tooShort
  else
    let c ← readMemory source 1
    if 128 ≤ c then refuse badSequence mistake
    else
      if target ≠ 0 then writeMemory target c width
      return if c = 0 then 0 else 1

/-- Writes the byte of a character. -/
def writeCharacter (target : UInt64) (c : Nat) (alone : UInt64) : Routine := do
  if target = 0 then return alone
  else if 128 ≤ c then refuse badSequence mistake
  else
    writeMemory target c 1
    return 1

/-- What a conversion of texts does: where the text stands and how many bytes a character has there, where it
goes, and how many characters may be read and written. -/
structure Conversion where
  source : UInt64
  isWide : Bool
  target : UInt64
  most : Nat
  room : Nat

/-- Converts a text. The result is how many characters were written, without the zero at the end, and where
the conversion stopped, or zero behind the end. -/
def convert (c : Conversion) : Execution (UInt64 × UInt64) := do
  let cs ← if c.isWide then wideUpTo longest c.source else
    pure ((← textAt c.source).map UInt8.toNat)
  let all := if c.target = 0 then cs ++ [0] else (cs ++ [0]).take c.room
  let all := all.take c.most
  let good := convertible all
  let stopped := c.source + (if c.isWide then 4 else 1) * UInt64.ofNat good.length
  if c.target ≠ 0 then
    if c.isWide then putBytes c.target (good.map UInt8.ofNat) else putWide c.target good
  if good.length < all.length then return (← refuse badSequence mistake, stopped)
  else if good.getLast? = some 0 then return (UInt64.ofNat (good.length - 1), 0)
  else return (UInt64.ofNat good.length, stopped)

/-- Converts the text that the second argument tells. -/
def convertText (isWide : Bool) : Routine := do
  return (← convert ⟨← argument 1, isWide, ← argument 0, longest, ← count 2⟩).1

/-- Converts the text whose address stands where the second argument tells, and keeps there where the
conversion stopped. -/
def convertOn (isWide hasMost : Bool) : Routine := do
  let place ← argument 1
  let target ← argument 0
  let most ← if hasMost then count 2 else pure longest
  let room ← count (if hasMost then 3 else 2)
  let (value, stopped) ← convert ⟨← wordAt place, isWide, target, most, room⟩
  if target ≠ 0 then putWord place stopped
  return value

/-- A character in another case, by the number of the change. -/
def changed (change : UInt64) (c : Nat) : Nat :=
  if change = 1 then wideLower c else if change = 2 then wideUpper c else c

/-- The number of the name that the first argument tells, or zero. -/
def numberOfName (names : List (String × Nat)) : Routine := do
  let name := String.ofList ((← text 0).map fun b => Char.ofNat b.toNat)
  return UInt64.ofNat ((names.lookup name).getD 0)

/-- Is a wide character in the class with a number? -/
def isInClass : Routine := do
  let c ← int 0
  let bits := (← argument 1).toNat
  return if 0 ≤ c ∧ c < 128 ∧ classOf c &&& bits ≠ 0 then 1 else 0

/-- How many columns a character takes, or minus one. -/
def columns (c : Nat) : Int :=
  if c = 0 then 0 else if classOf c &&& printBit ≠ 0 then 1 else -1

/-- How many columns a text takes. -/
def textColumns : Routine := do
  let cs := (← wideText 0).take (← count 1)
  return ofInt (if cs.all fun c => columns c = 1 then cs.length else -1)

/-- Copies as much of a wide text and its end as there is room for, and gives its length. -/
def copyWidePart : Routine := do
  let cs ← wideText 1
  putWide (← argument 0) ((cs ++ [0]).take (← count 2))
  return UInt64.ofNat cs.length

/-- Takes words of a wide text one by one; where the next one begins stands at an address. -/
def nextWideWord : Routine := do
  let given ← argument 0
  let state ← argument 2
  let address ← if given = 0 then wordAt state else pure given
  if address = 0 then return 0
  else
    let delimiters ← wideText 1
    let cs ← wideUpTo longest address
    let skipped := (cs.takeWhile delimiters.contains).length
    let start := wideAddress address skipped
    let rest := cs.drop skipped
    let length := (rest.takeWhile fun c => !delimiters.contains c).length
    if rest.isEmpty then
      putWord state 0
      return 0
    else if length = rest.length then
      putWord state 0
      return start
    else
      writeMemory (wideAddress start length) 0 4
      putWord state (wideAddress start (length + 1))
      return start

/-- Reads a number from a wide text, and tells where it ends. -/
def readWideNumber (isSigned : Bool) : Routine := do
  let start ← argument 0
  let cs ← wideText 0
  readNumberFrom isSigned (cs.map fun c => UInt8.ofNat (min c 255)) fun length => wideAddress start length

/-- A new stretch that holds a wide text. -/
def keepWideText : Routine := do
  let cs ← wideText 0
  let new ← allocate (4 * (cs.length + 1))
  putWide new (cs ++ [0])
  return new

/-- The functions that read numbers from wide texts, with their names. -/
def wideReaders : List (String × Routine) :=
  ["wcstol", "wcstoll", "wcstoimax", "wcstoq", "wcstol_l", "wcstoll_l", "__wcstol_internal",
    "__wcstoll_internal", "__wcstol_l", "__wcstoll_l"].map (·, readWideNumber true) ++
  ["wcstoul", "wcstoull", "wcstoumax", "wcstouq", "wcstoul_l", "wcstoull_l", "__wcstoul_internal",
    "__wcstoull_internal", "__wcstoul_l", "__wcstoull_l"].map (·, readWideNumber false)

/-- The functions that convert characters, with their names. -/
def converters : List (String × Routine) :=
  ["mbrtowc", "__mbrtowc", "mbrtoc32"].map (·, do
    readCharacter (← argument 0) (← argument 1) (← count 2) 4 (mistake - 1)) ++
  ["mbrlen", "__mbrlen"].map (·, do readCharacter 0 (← argument 0) (← count 1) 4 (mistake - 1)) ++
  ["wcrtomb", "__wcrtomb_chk", "c32rtomb"].map (·, do
    writeCharacter (← argument 0) (← character 1) 1) ++
  ["wctomb", "__wctomb_chk"].map (·, do writeCharacter (← argument 0) (← character 1) 0) ++
  ["mbstowcs", "__mbstowcs_chk"].map (·, convertText false) ++
  ["wcstombs", "__wcstombs_chk"].map (·, convertText true) ++
  ["mbsrtowcs", "__mbsrtowcs_chk"].map (·, convertOn false false) ++
  ["wcsrtombs", "__wcsrtombs_chk"].map (·, convertOn true false) ++
  ["mbsnrtowcs", "__mbsnrtowcs_chk"].map (·, convertOn false true) ++
  ["wcsnrtombs", "__wcsnrtombs_chk"].map (·, convertOn true true) ++
  [("mbtowc", do readCharacter (← argument 0) (← argument 1) (← count 2) 4 mistake),
    ("mblen", do readCharacter 0 (← argument 0) (← count 1) 4 mistake),
    ("mbrtoc16", do readCharacter (← argument 0) (← argument 1) (← count 2) 2 (mistake - 1)),
    ("mbrtoc8", do readCharacter (← argument 0) (← argument 1) (← count 2) 1 (mistake - 1)),
    ("c16rtomb", do writeCharacter (← argument 0) ((← character 1) % 0x10000) 1),
    ("c8rtomb", do writeCharacter (← argument 0) ((← character 1) % 0x100) 1)]

/-- The functions on wide characters with their names. -/
def characters : List (String × Routine) :=
  wideReaders ++ converters ++
  ["wctype", "wctype_l", "__wctype_l"].map (·, numberOfName classNames) ++
  ["iswctype", "iswctype_l", "__iswctype", "__iswctype_l"].map (·, isInClass) ++
  ["wctrans", "wctrans_l", "__wctrans_l"].map (·, numberOfName [("tolower", 1), ("toupper", 2)]) ++
  ["towctrans", "towctrans_l", "__towctrans", "__towctrans_l"].map (·, do
    return UInt64.ofNat (changed (← argument 1) (← character 0))) ++
  ["towlower_l", "__towlower_l"].map (·, do return UInt64.ofNat (wideLower (← character 0))) ++
  ["towupper_l", "__towupper_l"].map (·, do return UInt64.ofNat (wideUpper (← character 0))) ++
  ["wcsncasecmp", "wcsncasecmp_l", "__wcsncasecmp_l"].map (·, do
    let n ← count 2
    return ofInt (wideDistance (((← wideText 0).take n).map wideLower)
      (((← wideText 1).take n).map wideLower))) ++
  ["wcscasecmp_l", "__wcscasecmp_l"].map (·, do
    return ofInt (wideDistance ((← wideText 0).map wideLower) ((← wideText 1).map wideLower))) ++
  ["wcscoll_l", "__wcscoll_l"].map (·, do
    return ofInt (wideDifference (← wideText 0) (← wideText 1))) ++
  ["wcsxfrm", "wcsxfrm_l", "__wcsxfrm_l"].map (·, copyWidePart) ++
  [("wcsdup", keepWideText), ("wcstok", nextWideWord),
    ("wcwidth", do return ofInt (columns (← character 0))), ("wcswidth", textColumns)]

end Routine
end GrammarAssay
