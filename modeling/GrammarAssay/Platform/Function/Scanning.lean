import GrammarAssay.Platform.Function.Printing
import GrammarAssay.Platform.Pattern

/-!
# Functions of the system that read texts

**Input.** The addresses of a text and of a pattern, and addresses to which the values are written.

**Algorithm.** The pattern is followed from its front. A blank in it stands for any number of blanks, another
character for itself, and a directive for a value, which is written as soon as it was read. All ends where the
text does not fit. The result is how many values were read, or minus one if the text ended before the first.

**Results.**
* `Routine.scanned`: how many values a pattern reads from a text.
* `Routine.scanners`: the functions with their names.
-/

namespace GrammarAssay
namespace Routine

open Execution
open Template (Characters Size)
open Pattern (Directive)

/-- How far a text was read. -/
structure Reading where
  rest : Characters
  /-- How many characters were read. -/
  read : Nat
  /-- How many values were written. -/
  values : Nat
  /-- The addresses that are left. -/
  places : Supply

/-- What stops the reading of a text. -/
inductive Stop where
  /-- The text ended. -/
  | ended
  /-- The text does not fit. -/
  | different
deriving DecidableEq

/-- A part of a reading, which can be stopped. -/
abbrev Read := ExceptT Stop (StateT Reading Execution)

/-- A part of a service within a reading. -/
def serving {α : Type} (action : Execution α) : Read α :=
  liftM action

/-- Goes on behind so many characters. -/
def skip (count : Nat) : Read Unit :=
  modify fun r => { r with rest := r.rest.drop count, read := r.read + count }

/-- Goes on behind blanks. -/
def skipBlanks : Read Unit := do
  skip ((← get).rest.takeWhile Pattern.isBlank).length

/-- Stops if the text ended. -/
def requireMore : Read Unit := do
  if (← get).rest.isEmpty then throw .ended

/-- The address for a value: the next one, or the one with a number. -/
def placeFor (d : Directive) : Read UInt64 := do
  let r ← get
  match d.position with
  | none =>
    let (address, rest) ← serving (Supply.word.run r.places)
    set { r with places := rest }
    return address
  | some n => serving (do
    let (addresses, _) ← ((List.replicate (n + 1) Supply.word).mapM id).run r.places
    return addresses.getLastD 0)

def countValue : Read Unit :=
  modify fun r => { r with values := r.values + 1 }

/-- Writes a number for a directive. -/
def keepNumber (d : Directive) (n : Nat) : Read Unit := do
  if !d.isDropped then
    let address ← placeFor d
    let w := widthOf (if d.letter = 'p' then .long else d.size)
    serving (writeMemory address (n % w.modulus) w.bytes)

/-- The base of the numbers that a letter reads. -/
def baseOfLetter (letter : Char) : Nat :=
  if letter = 'o' then 8
  else if letter = 'x' ∨ letter = 'X' ∨ letter = 'p' then 16
  else if letter = 'i' then 0
  else 10

/-- The characters that a directive can read at most. -/
def Directive.within (d : Directive) (cs : Characters) : Characters :=
  match d.width with
  | some n => cs.take n
  | none => cs

/-- Reads a number. -/
def readInteger (d : Directive) : Read Unit := do
  skipBlanks
  requireMore
  let cs := Directive.within d (← get).rest
  if d.letter = 'p' && Pattern.startsWith "(nil)" cs then
    skip 5
    keepNumber d 0
  else
    let (digits, base, length) := Pattern.takeInteger (baseOfLetter d.letter) cs
    skip length
    let (n, used) := parseNumber base (digits.map UInt8.ofNat)
    if used = 0 then throw .different
    keepNumber d (fit (d.letter = 'd' ∨ d.letter = 'i') n).toNat
  if !d.isDropped then countValue

/-- The format of the fractions of a size. -/
def formatOf : Size → Format
  | .widest => .extended
  | .long => .double
  | _ => .single

def readFraction (d : Directive) : Read Unit := do
  skipBlanks
  requireMore
  let cs := Directive.within d (← get).rest
  match Pattern.takeFraction cs with
  | none => throw .different
  | some length =>
    skip length
    match Fraction.read? ((cs.take length).map UInt8.ofNat) with
    | none => throw .different
    | some (x, _) =>
      if !d.isDropped then
        let address ← placeFor d
        let f := formatOf d.size
        let width := if d.size = .widest then 10 else (1 + f.exponentBits + f.tailBits) / 8
        serving (writeMemory address (f.encode (f.round .nearest x).1) width)
        countValue

/-- Keeps characters for a directive, with a zero behind them where they are a text. -/
def keepCharacters (d : Directive) (isText : Bool) (cs : Characters) : Read Unit := do
  if !d.isDropped then
    let address ← placeFor d
    let isLong := d.size = .long ∨ d.letter = 'S' ∨ d.letter = 'C'
    let cs := if isText then cs ++ [0] else cs
    serving (do
      let target ←
        if d.isFresh then
          let new ← allocate (cs.length * (if isLong then 4 else 1))
          putWord address new
          pure new
        else pure address
      if isLong then putWide target cs else putBytes target (cs.map UInt8.ofNat))
    countValue

/-- Reads a text as far as its characters fit. -/
def readText (d : Directive) (fits : Nat → Bool) : Read Unit := do
  requireMore
  let cs := (Directive.within d (← get).rest).takeWhile fits
  if cs.isEmpty then throw .different
  skip cs.length
  keepCharacters d true cs

/-- Reads so many characters. -/
def readCharacters (d : Directive) : Read Unit := do
  requireMore
  let cs := (← get).rest.take (d.width.getD 1)
  skip cs.length
  keepCharacters d false cs

/-- Follows a directive. -/
def follow (d : Directive) : Read Unit := do
  match d.letter with
  | '%' =>
    skipBlanks
    requireMore
    if (← get).rest.head? ≠ some Template.percent then throw .different
    skip 1
  | 'n' => keepNumber d (← get).read
  | 'c' | 'C' => readCharacters d
  | 's' | 'S' =>
    skipBlanks
    readText d fun c => !Pattern.isBlank c
  | '[' => readText d d.set.contains
  | 'd' | 'i' | 'u' | 'o' | 'x' | 'X' | 'p' => readInteger d
  | 'a' | 'A' | 'e' | 'E' | 'f' | 'F' | 'g' | 'G' => readFraction d
  | _ => throw .different

/-- Follows a pattern. -/
def followAll : Nat → Characters → Read Unit
  | 0, _ => return
  | _ + 1, [] => return
  | bound + 1, c :: cs => do
    if c = Template.percent then
      let (d, rest) := Pattern.takeDirective cs
      follow d
      followAll bound rest
    else if Pattern.isBlank c then
      skipBlanks
      followAll bound cs
    else
      requireMore
      if (← get).rest.head? ≠ some c then throw .different
      skip 1
      followAll bound cs

/-- How many values a pattern reads from a text, and the addresses that are left. -/
def scanned (pattern text : Characters) : StateT Supply Execution UInt64 := fun places => do
  let (stop, r) ← ((followAll pattern.length pattern).run).run ⟨text, 0, 0, places⟩
  let isEnded :=
    match stop with
    | .error .ended => r.values == 0
    | _ => false
  return (if isEnded then ofInt (-1) else UInt64.ofNat r.values, r.places)

/-- Reads a text by the pattern behind it; the addresses follow, or stand in a list that follows. -/
def scan (isWide isList : Bool) : Routine := do
  let list ← argument 2
  let places ← if isList then Supply.ofList list else Supply.own 2
  let text ← charactersAt isWide none (← argument 0)
  let pattern ← charactersAt isWide none (← argument 1)
  let (count, rest) ← (scanned pattern text).run places
  if isList then rest.leave list
  return count

/-- A fraction as a result, and the error of one that is too large or too small. -/
def answerRead (f : Format) (x : Fraction) : Routine := do
  let (y, notes) := f.round .nearest x
  if f.hasLead then modify fun p => { p with fractions := p.fractions.push y }
  else modify fun p => p.setVector Processor.firstVector (f.encode y)
  if notes &&& (Fraction.tooLarge ||| Fraction.tooSmall) = 0 then return 0
  else refuse badRange 0

/-- Reads a fraction from a text, and tells where it ends. -/
def readFractionText (f : Format) (isWide : Bool) : Routine := do
  let start ← argument 0
  let place ← argument 1
  let cs ← charactersAt isWide none start
  let (x, length) := (Fraction.read? (cs.map fun c => UInt8.ofNat (min c 255))).getD (.zero, 0)
  let width := if isWide then 4 else 1
  if place ≠ 0 then putWord place (start + UInt64.ofNat (width * length))
  answerRead f x

/-- The functions that read texts, with their names. -/
def scanners : List (String × Routine) :=
  ["sscanf", "__isoc99_sscanf", "_IO_sscanf"].map (·, scan false false) ++
  ["vsscanf", "__isoc99_vsscanf", "__vsscanf"].map (·, scan false true) ++
  ["swscanf", "__isoc99_swscanf"].map (·, scan true false) ++
  ["vswscanf", "__isoc99_vswscanf"].map (·, scan true true) ++
  ["strtod", "strtod_l", "__strtod_l", "__strtod_internal", "strtof64", "strtof32x", "strtof64_l",
    "strtof32x_l"].map (·, readFractionText .double false) ++
  ["strtof", "strtof_l", "__strtof_l", "__strtof_internal", "strtof32", "strtof32_l"].map
    (·, readFractionText .single false) ++
  ["strtold", "strtold_l", "__strtold_l", "__strtold_internal", "strtof64x", "strtof64x_l"].map
    (·, readFractionText .extended false) ++
  ["wcstod", "wcstod_l", "__wcstod_l", "__wcstod_internal", "wcstof64", "wcstof32x", "wcstof64_l",
    "wcstof32x_l"].map (·, readFractionText .double true) ++
  ["wcstof", "wcstof_l", "__wcstof_l", "__wcstof_internal", "wcstof32", "wcstof32_l"].map
    (·, readFractionText .single true) ++
  ["wcstold", "wcstold_l", "__wcstold_l", "__wcstold_internal", "wcstof64x", "wcstof64x_l"].map
    (·, readFractionText .extended true) ++
  [("atof", do answerRead .double ((Fraction.read? (← text 0)).getD (.zero, 0)).1)]

end Routine
end GrammarAssay
