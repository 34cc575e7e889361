import GrammarAssay.Platform.ErrorText
import GrammarAssay.Platform.Function.Supply
import GrammarAssay.Platform.Function.Wide
import GrammarAssay.Platform.Template

/-!
# Functions of the system that print

**Input.** The address of a template, and the values for its directives.

**Algorithm.** All values are taken first, in the order of their numbers. Then the parts of the template are
written one behind the other; a directive can also ask how many characters there are so far. The text goes to
an address, to a new stretch of memory, or away. The characters of a template, and of what is written, are
bytes or have 32 bits each.

**Results.**
* `Routine.rendered`: the text that a template makes of its values.
* `Routine.printers`: the functions with their names.
-/

namespace GrammarAssay
namespace Routine

open Execution
open Template (Characters Claim Demand Form Piece Size)

/-- A value for a directive. -/
inductive PrintValue where
  | word (n : UInt64)
  | fraction (format : Format) (x : Fraction)
deriving DecidableEq

/-- The next value of a kind. -/
def takeValue : Demand → StateT Supply Execution PrintValue
  | .word => return .word (← Supply.word)
  | .double => return .fraction .double (Format.double.decode (← Supply.double))
  | .extended => return .fraction .extended (Format.extended.decode (← Supply.extended))

/-- The value with a number, as a number. -/
def wordOf (values : List PrintValue) (number : Option Nat) : UInt64 :=
  match number.bind fun n => values[n]? with
  | some (.word n) => n
  | _ => 0

/-- The number that an amount tells or takes. -/
def amountOf (values : List PrintValue) (number : Option Nat) (a : Template.Amount) : Option Int :=
  match a with
  | .absent => none
  | .given n => some n
  | .taken _ => some (Width.four.signed (wordOf values number).toNat)

/-- The form of a directive. A negative width puts the blanks behind, and a negative number of places tells
none. -/
def formOf (values : List PrintValue) (c : Claim) : Form :=
  let style := c.directive.style
  let width := (amountOf values c.width c.directive.width).getD 0
  let places := amountOf values c.places c.directive.places
  { style := if width < 0 then { style with isLeft := true } else style
    width := width.natAbs
    places := places.bind fun n => if n < 0 then none else some n.toNat }

/-- How wide a number is. -/
def widthOf : Size → Width
  | .byte => .one
  | .short => .two
  | .plain => .four
  | .long | .widest => .eight

/-- Characters that are all in ASCII. -/
def asciiOnly (cs : Characters) : Option Characters :=
  if cs.all (· < 128) then some cs else none

/-- Characters of one breadth as those of another. -/
def converted (isWide isLong : Bool) (cs : Characters) : Option Characters :=
  if isWide = isLong then some cs else asciiOnly cs

/-- The characters at an address, up to a zero or a bound. -/
def charactersAt (isLong : Bool) (bound : Option Nat) (address : UInt64) : Execution Characters := do
  let bound := min (bound.getD longest) longest
  if isLong then wideUpTo bound address
  else return ((← get).memory.textUpTo bound address).map UInt8.toNat

/-- The text of a directive for a text. -/
def textOf (isWide isLong : Bool) (f : Form) (address : UInt64) : Execution (Option Characters) := do
  if address = 0 then
    let isShort := f.places.any (· < 6)
    return some (f.fill (if isShort then [] else Template.ofChars "(null)".toList))
  else
    let cs ← charactersAt isLong f.places address
    return (converted isWide isLong cs).map f.fill

/-- The text of a directive for a number of a kind. -/
def wordText (isWide : Bool) (f : Form) (d : Template.Directive) (n : UInt64) :
    Execution (Option Characters) := do
  let w := widthOf d.size
  let isLong := d.size = .long ∨ d.letter.isUpper
  match d.letter with
  | 'd' | 'i' =>
    let v := w.signed n.toNat
    return some (Template.numberText f 'd' (f.sign (v < 0)) v.natAbs)
  | 'p' =>
    if n = 0 then return some (f.fill (Template.ofChars "(nil)".toList))
    else
      let f := { f with style := { f.style with isMarked := true } }
      return some (Template.numberText f 'x' (f.sign false) n.toNat)
  | 's' | 'S' => textOf isWide isLong f n
  | 'c' | 'C' =>
    let c := n.toNat % (if isLong then 0x100000000 else 0x100)
    return (converted isWide isLong [c]).map f.fill
  | letter => return some (Template.numberText f letter [] (n.toNat % w.modulus))

/-- The text of a directive, when there are so many characters in front of it. -/
def directiveText (isWide : Bool) (values : List PrintValue) (c : Claim) (before : Nat) :
    Execution (Option Characters) := do
  let f := formOf values c
  let d := c.directive
  if d.letter.toNat = 0 ∨ Template.largestAmount < f.width ∨ Template.largestAmount < f.places.getD 0 then
    return none
  else
    match d.letter, (c.value.bind fun n => values[n]?) with
    | '%', _ => return some [Template.percent]
    | 'm', _ => return some (f.fill ((ErrorText.ofNumber (← lastError)).map UInt8.toNat))
    | 'n', some (.word address) =>
      writeMemory address before (widthOf d.size).bytes
      return some []
    | letter, some (.fraction format x) => return some (Template.fractionText f format letter x)
    | _, some (.word n) => wordText isWide f d n
    | letter, none => return some (Template.strangeText f letter)

/-- The text of parts, behind those that there are already. -/
def partsText (isWide : Bool) (values : List PrintValue) (before : Characters) :
    List Claim → List Piece → Execution (Option Characters)
  | _, [] => return some before
  | cs, .text t :: rest => partsText isWide values (before ++ t) cs rest
  | [], .directive _ :: _ => return none
  | c :: cs, .directive _ :: rest => do
    match ← directiveText isWide values c before.length with
    | some t => partsText isWide values (before ++ t) cs rest
    | none => return none

/-- The text that a template makes of its values, and the values that are left. There is no text if a
directive is cut off, or if a character cannot be written. -/
def rendered (isWide : Bool) (template : Characters) :
    StateT Supply Execution (Option Characters) := do
  let pieces := Template.pieces template
  let claims := Template.claims 0 pieces
  let values ← (Template.demands claims).mapM takeValue
  partsText isWide values [] claims pieces

/-- Where a text goes. -/
inductive Sink where
  /-- To the address that the first argument tells. -/
  | address
  /-- There too, as far as the second argument allows. -/
  | bounded
  /-- To a new stretch, whose address is written to the one that the first argument tells. -/
  | fresh
  /-- To a stream. -/
  | stream
deriving DecidableEq

/-- Writes characters and a zero behind them. -/
def putCharacters (isWide : Bool) (address : UInt64) (cs : Characters) : Execution Unit :=
  if isWide then putWide address (cs ++ [0]) else putText address (cs.map UInt8.ofNat)

/-- Writes a text to where it goes, and gives its length. A wide text that does not fit is a mistake. -/
def deliver (isWide : Bool) (cs : Characters) : Sink → Routine
  | .address => do
    putCharacters isWide (← argument 0) cs
    return UInt64.ofNat cs.length
  | .bounded => do
    let room ← count 1
    if room ≠ 0 then putCharacters isWide (← argument 0) (cs.take (room - 1))
    return if isWide && room ≤ cs.length then ofInt (-1) else UInt64.ofNat cs.length
  | .fresh => do
    putWord (← argument 0) (← keepText (cs.map UInt8.ofNat))
    return UInt64.ofNat cs.length
  | .stream => return UInt64.ofNat cs.length

/-- Prints; the template is an argument, and its values follow it or stand in a list that follows it. -/
def print (isWide : Bool) (sink : Sink) (template : Nat) (isList : Bool) : Routine := do
  let list ← argument (template + 1)
  let supply ← if isList then Supply.ofList list else Supply.own (template + 1)
  let parts ← charactersAt isWide none (← argument template)
  let (result, rest) ← (rendered isWide parts).run supply
  if isList then rest.leave list
  match result with
  | some cs => deliver isWide cs sink
  | none => return ofInt (-1)

/-- Prints a fraction with so many digits to the address that the second argument tells. -/
def printShort : Routine := do
  let n ← int 0
  let target ← argument 1
  let x ← fraction .double Processor.firstVector
  let f : Form := ⟨.plain, 0, if n < 0 then none else some (min n.toNat 17)⟩
  putCharacters false target (Template.fractionText f .double 'g' x)
  return target

/-- Prints one fraction of 32 bits by a template of its own. -/
def printSingle : Routine := do
  let x ← fraction .single Processor.firstVector
  let pieces := Template.pieces (← charactersAt false none (← argument 2))
  let claims := Template.claims 0 pieces
  match ← partsText false [.fraction .single x] [] claims pieces with
  | some cs => deliver false cs .bounded
  | none => return ofInt (-1)

/-- The functions that print, with their names. -/
def printers : List (String × Routine) :=
  ["sprintf", "_IO_sprintf"].map (·, print false .address 1 false) ++
  ["vsprintf", "_IO_vsprintf"].map (·, print false .address 1 true) ++
  ["snprintf", "strfromd", "strfromf64", "strfromf32x"].map (·, print false .bounded 2 false) ++
  ["vsnprintf", "__vsnprintf"].map (·, print false .bounded 2 true) ++
  ["asprintf", "__asprintf"].map (·, print false .fresh 1 false) ++
  ["printf", "_IO_printf"].map (·, print false .stream 0 false) ++
  ["fprintf", "_IO_fprintf", "dprintf"].map (·, print false .stream 1 false) ++
  ["vfprintf", "_IO_vfprintf", "vdprintf"].map (·, print false .stream 1 true) ++
  ["strfromf", "strfromf32"].map (·, printSingle) ++
  [("__sprintf_chk", print false .address 3 false), ("__vsprintf_chk", print false .address 3 true),
    ("__snprintf_chk", print false .bounded 4 false), ("__vsnprintf_chk", print false .bounded 4 true),
    ("vasprintf", print false .fresh 1 true), ("__asprintf_chk", print false .fresh 2 false),
    ("__vasprintf_chk", print false .fresh 2 true), ("vprintf", print false .stream 0 true),
    ("__printf_chk", print false .stream 1 false), ("__vprintf_chk", print false .stream 1 true),
    ("__fprintf_chk", print false .stream 2 false), ("__vfprintf_chk", print false .stream 2 true),
    ("__dprintf_chk", print false .stream 2 false), ("__vdprintf_chk", print false .stream 2 true),
    ("swprintf", print true .bounded 2 false), ("vswprintf", print true .bounded 2 true),
    ("__swprintf_chk", print true .bounded 4 false), ("__vswprintf_chk", print true .bounded 4 true),
    ("wprintf", print true .stream 0 false), ("vwprintf", print true .stream 0 true),
    ("fwprintf", print true .stream 1 false), ("vfwprintf", print true .stream 1 true),
    ("__wprintf_chk", print true .stream 1 false), ("__vwprintf_chk", print true .stream 1 true),
    ("__fwprintf_chk", print true .stream 2 false), ("__vfwprintf_chk", print true .stream 2 true),
    ("gcvt", printShort)]

end Routine
end GrammarAssay
