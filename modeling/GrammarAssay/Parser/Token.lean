import GrammarAssay.Parser.Lexer
import GrammarAssay.Parser.Stack

/-!
# Tokens

**Input.** A parse: the text, the language in memory, and the stack.

**Algorithm.** The next token of a version is recognised by code of the language: by the scanner, if the state
wants it, and then by the function for tokens. If neither finds one, all tokens of the language are tried, and
then characters are passed over until one is found or the text ends. A token that stands for all words can be
a keyword. The scanner is brought to the state that it left behind its last token, and its state is kept with
the next one. A token of its that takes nothing of the text is passed over where it could come again for ever.

**Results.**
* `Parse`, `Parsing`: a parse, and an action on one.
* `Parsing.call`: the result of a function of the language.
* `Parsing.token?`: the next token of a version.
-/

namespace GrammarAssay

/-- A token that was recognised. -/
structure CachedToken where
  token : Tree
  /-- Where the parser was. -/
  position : Nat
  scanner : Option Bytes

/-- A parse of a text with a language in memory. -/
structure Parse where
  linker : Linker
  /-- Where the tables of the language stand. -/
  address : UInt64
  text : Array UInt8
  /-- What the scanner gave when it was made. -/
  scanner : UInt64
  stack : ParseStack
  finished : Option Tree
  /-- How often a tree was finished. -/
  accepted : Nat
  cached : Option CachedToken

/-- An action on a parse. -/
abbrev Parsing := StateM Parse

namespace Parsing

/-- The tables of the language, as memory is now. -/
def table : Parsing ParseTable := do
  let x ← get
  return ⟨x.linker.memory, x.address⟩

/-- The result of a function of the language. -/
def call (function : UInt64) (arguments : List UInt64) : Parsing UInt64 := do
  let x ← get
  let (value, l) := x.linker.callWith [Lexer.door x.text] function arguments
  set { x with linker := l }
  return value

def lexer : Parsing Lexer := do
  return Lexer.load (← get).linker.memory

def changeLexer (f : Array UInt8 → Lexer → Lexer) : Parsing Unit :=
  modify fun x =>
    let m := x.linker.memory
    { x with linker := x.linker.setMemory ((f x.text (Lexer.load m)).save m) }

/-- A part of the stack. -/
def onStack {α : Type} (f : ParseStack → α) : Parsing α := do
  return f (← get).stack

def changeStack (f : ParseStack → ParseStack) : Parsing Unit :=
  modify fun x => { x with stack := f x.stack }

/-- Changes the stack, with a result. -/
def useStack {α : Type} (f : ParseStack → α × ParseStack) : Parsing α :=
  modifyGet fun x =>
    let (value, stack) := f x.stack
    (value, { x with stack := stack })

/-- Where bytes are kept that the scanner reads or writes. -/
def scratch : UInt64 := 0x2301000

/-- Brings the scanner to a state. -/
def restoreScanner (state : Option Bytes) : Parsing Unit := do
  let t ← table
  let x ← get
  let bytes := state.getD []
  set { x with linker := x.linker.setMemory (x.linker.memory.putBytes scratch bytes) }
  let place := if state.isSome then scratch else 0
  discard (call (t.part 216) [x.scanner, place, UInt64.ofNat bytes.length])

def scannerState : Parsing Bytes := do
  let t ← table
  let x ← get
  let size ← call (t.part 208) [x.scanner, scratch]
  return (← get).linker.memory.bytes scratch (size.toNat % 0x10000)

/-- Did a function answer that it found something? -/
def isFound (value : UInt64) : Bool :=
  value % 256 != 0

/-- Lets the scanner look for a token. -/
def scan (state : Nat) : Parsing Bool := do
  let t ← table
  let x ← get
  let wanted := t.part 168 + UInt64.ofNat (t.count 16 * state)
  return isFound (← call (t.part 200) [x.scanner, Lexer.place, wanted])

/-- The symbol of a token of the scanner. -/
def scannerSymbol (t : ParseTable) (token : Nat) : Nat :=
  t.half (t.part 176) token

/-- Is a token of the scanner worth taking? -/
def isUseful (v state : Nat) (isAnywhere isChanged : Bool) (position : TextLength) (x : Lexer) :
    Parsing Bool := do
  let t ← table
  let isEmpty := (x.tokenEnd.getD .zero).bytes ≤ position.bytes
  let isStuck := isAnywhere || !(← onStack fun s => s.hasAdvanced v)
  let symbol := scannerSymbol t x.result
  return !isEmpty || !(isStuck || t.nextState state symbol = state) || isChanged

/-- The state of the scanner behind a token that it finds. -/
def scanToken? (v state : Nat) (isAnywhere : Bool) (mode : LexMode) : Parsing (Option Bytes) := do
  if mode.scannerState = 0 then return none
  let position := (← lexer).position
  changeLexer Lexer.start
  let before ← onStack fun s => (s.version v).scanner
  restoreScanner before
  let isFound ← scan mode.scannerState
  changeLexer fun _ => Lexer.finish
  if isFound then
    let after ← scannerState
    if ← isUseful v state isAnywhere (after != before.getD []) position (← lexer) then
      return some after
  changeLexer fun text => Lexer.reset text position
  return none

/-- Lets the function for tokens look for a token. -/
def findToken (mode : LexMode) : Parsing Bool := do
  changeLexer Lexer.start
  let isFound := isFound (← call ((← table).part 144) [Lexer.place, UInt64.ofNat mode.state])
  changeLexer fun _ => Lexer.finish
  return isFound

/-- Where characters were passed over. -/
structure Skipped where
  start : TextLength
  stop : TextLength

/-- What the code of a language finds. -/
inductive Finding where
  /-- A token, with the state of the scanner if it is one of its. -/
  | token (scanner : Option Bytes)
  | skipped (s : Skipped)

/-- Passes over a character, unless the text is at its end. -/
def skipCharacter (s : Option Skipped) : Parsing (Option Skipped × Bool) := do
  let x ← lexer
  let s := s.getD ⟨x.tokenStart, x.tokenStart⟩
  if x.position.bytes = s.stop.bytes then
    if x.isAtEnd then return (some s, true)
    changeLexer fun text => Lexer.advance text false
  let x ← lexer
  return (some { s with stop := x.position }, false)

/-- Looks for a token, with all tokens of the language, at one position after the other. -/
def searchAnywhere (v state : Nat) : Nat → Option Skipped → Parsing Finding
  | 0, _ => return .token none
  | bound + 1, s => do
    let mode := (← table).lexMode ParseTable.errorState
    match ← scanToken? v state true mode with
    | some scanner => return s.elim (.token (some scanner)) .skipped
    | none =>
      if ← findToken mode then return s.elim (.token none) .skipped
      match ← skipCharacter s with
      | (some s, true) => return .skipped s
      | (s, _) => searchAnywhere v state bound s

/-- Looks for a token. -/
def search (v state : Nat) (mode : LexMode) : Parsing Finding := do
  let bound := (← get).text.size + 2
  if state = ParseTable.errorState then searchAnywhere v state bound none
  else
    match ← scanToken? v state false mode with
    | some scanner => return .token (some scanner)
    | none =>
      if ← findToken mode then return .token none
      let start ← onStack fun s => s.position v
      changeLexer fun text => Lexer.reset text start
      searchAnywhere v state bound none

/-- The keyword that a word is, where the state allows it. -/
def keyword? (state : Nat) (x : Lexer) : Parsing (Bool × Option Nat) := do
  changeLexer fun text => Lexer.reset text x.tokenStart
  changeLexer Lexer.start
  let isFound := isFound (← call ((← table).part 152) [Lexer.place, 0])
  let t ← table
  let y ← lexer
  let isWhole := (y.tokenEnd.map TextLength.bytes).getD 0 == (x.tokenEnd.getD .zero).bytes
  let isAllowed := isFound && isWhole && t.hasActions state y.result
  return (isFound, if isAllowed then some y.result else none)

/-- The token that the lexer found. -/
def finishToken (v state : Nat) (scanner : Option Bytes) : Parsing Tree := do
  let start ← onStack fun s => s.position v
  let before ← onStack fun s => (s.version v).scanner
  let x ← lexer
  let padding := x.tokenStart.sub start
  let size := (x.tokenEnd.getD .zero).sub x.tokenStart
  let t ← table
  match scanner with
  | some after =>
    return { Tree.leaf t (scannerSymbol t x.result) padding size state with
      scanner := some after
      changesScanner := after != before.getD [] }
  | none =>
    if x.result = t.wordToken && x.result != 0 then
      let (isKeyword, keyword) ← keyword? state x
      let t ← table
      return { Tree.leaf t (keyword.getD x.result) padding size state with isKeyword := isKeyword }
    else return Tree.leaf t x.result padding size state

/-- The next token of a version, unless its state needs none. -/
def token? (v state : Nat) : Parsing (Option Tree) := do
  let mode := (← table).lexMode state
  if mode.state = ParseTable.noToken then return none
  let start ← onStack fun s => s.position v
  changeLexer fun text => Lexer.reset text start
  match ← search v state mode with
  | .token scanner => some <$> finishToken v state scanner
  | .skipped s =>
    return some (Tree.leaf (← table) ParseTable.errorSymbol (s.start.sub start)
      (s.stop.sub s.start) state)

end Parsing
end GrammarAssay
