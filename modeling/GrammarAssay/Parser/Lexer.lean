import GrammarAssay.Linker.Call
import GrammarAssay.Parser.Tree

/-!
# Lexers

**Input.** A text, and code that recognises the tokens of a language.

**Algorithm.** The code sees one character of the text after the other. In memory stand the character that it
sees and the token that it found, and behind them the addresses of services: to go on, to mark the end of a
token, to tell the column, to tell whether a part of the text begins here, to tell whether the text is at its
end, and one that does nothing. All else that the lexer knows stands behind these.

**Results.**
* `Lexer`: where the code is in the text.
* `Lexer.load`, `Lexer.save`: a lexer in memory.
* `Lexer.door`: the services.
* `Lexer.reset`, `Lexer.start`, `Lexer.finish`: what is done around a token.
-/

namespace GrammarAssay

/-- Where the code that recognises tokens is in a text. -/
structure Lexer where
  /-- The character that the code sees; zero at the end of the text. -/
  lookahead : Nat
  /-- The token that was found. -/
  result : Nat
  position : TextLength
  /-- Where the token begins. -/
  tokenStart : TextLength
  /-- Where the token ends, if that was marked. -/
  tokenEnd : Option TextLength
  /-- How many bytes the character has that the code sees; zero if it is not known yet. -/
  width : Nat
  /-- From where on the text was read. -/
  chunk : Option Nat
  isAtEnd : Bool

namespace Lexer

/-- Where the lexer stands in memory. -/
def place : UInt64 := 0x2300000

/-- A lexer at the beginning of a text. -/
def fresh : Lexer :=
  ⟨0, 0, .zero, .zero, none, 0, none, false⟩

/-- The numbers of 32 bits at which a length stands. -/
def loadLength (m : Memory) (address : UInt64) : TextLength :=
  ⟨m.number address 4, m.number (address + 4) 4, m.number (address + 8) 4⟩

/-- Writes a length. -/
def saveLength (m : Memory) (address : UInt64) (l : TextLength) : Memory :=
  ((m.putNumber address l.bytes 4).putNumber (address + 4) l.rows 4).putNumber (address + 8)
    l.columns 4

/-- The lexer in memory. -/
def load (m : Memory) : Lexer :=
  { lookahead := m.number place 4
    result := m.number (place + 4) 2
    position := loadLength m (place + 64)
    tokenStart := loadLength m (place + 76)
    tokenEnd := if m.number (place + 100) 4 = 0 then none else some (loadLength m (place + 88))
    width := m.number (place + 104) 4
    chunk := if m.number (place + 112) 4 = 0 then none else some (m.number (place + 108) 4)
    isAtEnd := m.number (place + 116) 4 != 0 }

/-- A number that tells whether there is something. -/
def presence (isThere : Bool) : Nat :=
  if isThere then 1 else 0

/-- Writes the lexer. -/
def save (x : Lexer) (m : Memory) : Memory :=
  let m := m.putNumber place x.lookahead 4
  let m := m.putNumber (place + 4) x.result 2
  let m := saveLength m (place + 64) x.position
  let m := saveLength m (place + 76) x.tokenStart
  let m := saveLength m (place + 88) (x.tokenEnd.getD .zero)
  let m := m.putNumber (place + 100) (presence x.tokenEnd.isSome) 4
  let m := m.putNumber (place + 104) x.width 4
  let m := m.putNumber (place + 108) (x.chunk.getD 0) 4
  let m := m.putNumber (place + 112) (presence x.chunk.isSome) 4
  m.putNumber (place + 116) (presence x.isAtEnd) 4

/-- The bytes of a text from a position on, as many as a character can have. -/
def window (text : Array UInt8) (position : Nat) : Bytes :=
  (text.extract position (position + 4)).toList

/-- The character at a position, and how many bytes it has. -/
def characterAt (text : Array UInt8) (position : Nat) : Nat × Nat :=
  match Text.Utf8.scan (window text position) with
  | some c :: _ => (c.toNat, c.utf8Size)
  | none :: _ => (0xFFFFFFFF, 1)
  | [] => (0, 1)

/-- Sees the character at the position. -/
def look (text : Array UInt8) (x : Lexer) : Lexer :=
  let (c, width) := characterAt text x.position.bytes
  { x with lookahead := c, width := width }

/-- Reads the text from the position on, and notes if there is none. -/
def read (text : Array UInt8) (x : Lexer) : Lexer :=
  if x.position.bytes < text.size then { x with chunk := some x.position.bytes }
  else { x with chunk := none, isAtEnd := true }

/-- Was the text read at the position? -/
def isRead (text : Array UInt8) (x : Lexer) : Bool :=
  x.chunk.any fun start => start ≤ x.position.bytes && x.position.bytes < text.size

/-- The position behind the character that the code sees. -/
def next (x : Lexer) : TextLength :=
  if x.width = 0 then x.position
  else if x.lookahead = 10 then ⟨x.position.bytes + x.width, x.position.rows + 1, 0⟩
  else { x.position with
    bytes := x.position.bytes + x.width
    columns := x.position.columns + x.width }

/-- Goes on behind the character that the code sees, which may be a blank in front of the token. -/
def advance (text : Array UInt8) (skips : Bool) (x : Lexer) : Lexer :=
  if x.chunk.isNone then x
  else
    let x := { x with position := x.next }
    let x := if skips then { x with tokenStart := x.position } else x
    let x := if x.isRead text then x else x.read text
    x.look text

/-- Marks the end of the token. -/
def markEnd (x : Lexer) : Lexer :=
  { x with tokenEnd := some x.position }

/-- Goes on to a position, and counts the characters. -/
def countTo (text : Array UInt8) (goal : Nat) : Nat → Nat → Lexer → Nat × Lexer
  | 0, n, x => (n, x)
  | bound + 1, n, x =>
    if x.position.bytes < goal && x.chunk.isSome then
      let x := x.advance text false
      if x.isAtEnd then (n + 1, x) else countTo text goal bound (n + 1) x
    else (n, x)

/-- The number of characters from the beginning of the line to the position. -/
def column (text : Array UInt8) (x : Lexer) : Nat × Lexer :=
  let goal := x.position.bytes
  let x :=
    { x with position := ⟨goal - x.position.columns, x.position.rows, 0⟩ }
  let isBefore := x.position.bytes < x.chunk.getD 0
  let x := if isBefore then { x with chunk := some x.position.bytes } else x
  if x.isAtEnd then (0, x) else countTo text goal (goal - x.position.bytes) 0 (x.look text)

/-- Goes to a position. -/
def goTo (text : Array UInt8) (position : TextLength) (x : Lexer) : Lexer :=
  let x := { x with position := position, isAtEnd := false, width := 0, lookahead := 0 }
  if x.isRead text then x else { x with chunk := none }

/-- Goes to a position, unless the lexer is there. -/
def reset (text : Array UInt8) (position : TextLength) (x : Lexer) : Lexer :=
  if position.bytes = x.position.bytes then x else x.goTo text position

/-- The mark that can stand in front of a text. -/
def textMark : Nat := 0xFEFF

/-- Begins a token. -/
def start (text : Array UInt8) (x : Lexer) : Lexer :=
  let x := { x with tokenStart := x.position, tokenEnd := none, result := 0 }
  if x.isAtEnd then x
  else
    let x := if x.chunk.isNone then x.read text else x
    let x := if x.width = 0 then x.look text else x
    if x.position.bytes = 0 && x.lookahead = textMark then x.advance text true else x

/-- Ends a token. -/
def finish (x : Lexer) : Lexer :=
  let x := if x.tokenEnd.isNone then x.markEnd else x
  let stop := x.tokenEnd.getD .zero
  if stop.bytes < x.tokenStart.bytes then { x with tokenStart := stop } else x

open Execution

/-- A service that changes the lexer and gives a result. -/
def service (f : Lexer → UInt64 × Lexer) : Execution Unit := do
  let (value, x) := f (load (← get).memory)
  modify fun p => { p with memory := x.save p.memory }
  answer value

/-- The first address of the services. -/
def firstService : UInt64 := 0x8100

/-- The services, by their numbers. -/
def services (text : Array UInt8) (number : Nat) : Service := fun _ =>
  match number with
  | 0 => do
    let skips ← argument 1
    service fun x => (0, x.advance text (skips % 256 != 0))
  | 1 => service fun x => (0, x.markEnd)
  | 2 => service fun x => let (n, x) := x.column text; (UInt64.ofNat n, x)
  | 3 => service fun x => (if !x.isAtEnd && x.position.bytes = 0 then 1 else 0, x)
  | 4 => service fun x => (if x.isAtEnd then 1 else 0, x)
  | _ => return_

/-- The door to the services. -/
def door (text : Array UInt8) : Door :=
  ⟨firstService, 6 * Module.stride, services text⟩

/-- Puts a lexer at the beginning of a text into memory. -/
def install (m : Memory) : Memory :=
  let m := (List.range 6).foldl (fun m i =>
    m.putWord (place + 8 * UInt64.ofNat (i + 1)) (firstService + Module.stride * UInt64.ofNat i)) m
  fresh.save m

end Lexer
end GrammarAssay
