import GrammarAssay.Parser.Recovery

/-!
# Parsing a text

**Input.** The libraries in memory, the address of the tables of a language, and a text.

**Algorithm.** Every version takes its next token, with all nodes that this asks for, until it is further in the
text than all others. Then the versions are compared. The worse of two goes, and two that have come to the same
place become one. A version without a place for its token waits, and loses its way if no other one is better.
The parse ends when no version is left, or when a finished tree costs less than what is left.

**Results.**
* `Parsing.advance`: lets a version take its next token.
* `Parsing.condense`: compares the versions.
* `Parse.rootOf`: the root of a text's tree.
-/

namespace GrammarAssay
namespace Parsing

/-- Can a token that was recognised in another state be used in a state? -/
def isReusable (t : ParseTable) (state : Nat) (token : Tree) (entry : TableEntry) : Bool :=
  let mode := t.lexMode state
  let isSame := !entry.actions.isEmpty && t.lexMode token.state == mode &&
    (token.symbol != t.wordToken || (!token.isKeyword && token.state == state))
  let isEmpty := token.size.bytes == 0 && !token.isEnd
  mode.state != ParseTable.noToken &&
    (isSame || (!isEmpty && mode.scannerState == 0 && entry.isReusable))

/-- The token that was recognised last, if it is the next one of a version. -/
def cached? (v state : Nat) : Parsing (Option Tree) := do
  let x ← get
  let t ← table
  match x.cached with
  | none => return none
  | some c =>
    let isHere := c.position == (x.stack.position v).bytes &&
      c.scanner.getD [] == (x.stack.version v).scanner.getD []
    if isHere && isReusable t state c.token (t.entry state c.token.symbol) then
      return some c.token
    else return none

/-- Recognises the next token of a version, and keeps it for other versions. -/
def nextToken? (v state : Nat) : Parsing (Option Tree) := do
  match ← token? v state with
  | none => return none
  | some token =>
    modify fun x =>
      let scanner := (x.stack.version v).scanner
      { x with cached := some ⟨token, (x.stack.position v).bytes, scanner⟩ }
    return some token

/-- What comes of the actions for a token. -/
inductive Progress where
  | finished
  /-- Nodes were made; the last version that is new, if any is. -/
  | reduced (new : Option Nat)
  /-- There was nothing to do. -/
  | stuck

/-- Carries out the actions for a token, as far as one ends the turn of the version. -/
def carryOut (v state : Nat) (token : Option Tree) : List ParseAction → Progress → Parsing Progress
  | [], progress => return progress
  | action :: rest, progress => do
    match action, token with
    | .shift _ _ true, _ => carryOut v state token rest progress
    | .shift next isExtra false, some token =>
      shift v (if isExtra then state else next) token isExtra
      return .finished
    | .reduce symbol count precedence production, _ =>
      let new ← reduce v ⟨symbol, count, precedence, production, token.isNone⟩
      let last :=
        match progress with
        | .reduced last => new.or last
        | _ => new
      carryOut v state token rest (.reduced last)
    | .accept, some token =>
      accept v token
      return .finished
    | .recover _ _, some token =>
      recover v token
      return .finished
    | _, _ => carryOut v state token rest progress

/-- The word that a keyword is, if the word has its place where the keyword has none. -/
def asWord? (t : ParseTable) (state : Nat) (token : Tree) : Option Tree :=
  let word := t.wordToken
  if token.isKeyword && token.symbol != word && !(t.entry state word).actions.isEmpty then
    some { token with symbol := word, isVisible := t.isVisible word }
  else none

/-- Lets a version take a token. Without a token, the nodes are made that end a rule that is allowed
everywhere, and then the next token is recognised. -/
def take (v : Nat) : Nat → Option Tree → Parsing Unit
  | 0, _ => changeStack fun s => s.halt v
  | bound + 1, token => do
    let state ← onStack fun s => s.state v
    let t ← table
    let symbol := (token.map Tree.symbol).getD ParseTable.endSymbol
    match ← carryOut v state token (t.entry state symbol).actions .stuck with
    | .finished => return
    | .reduced (some new) =>
      changeStack fun s => s.renumber new v
      match token with
      | some token => take v bound token
      | none => take v bound (← nextToken? v (← onStack fun s => s.state v))
    | .reduced none => changeStack fun s => s.halt v
    | .stuck =>
      match token with
      | none => changeStack fun s => s.halt v
      | some token =>
        match asWord? t state token with
        | some word => take v bound (some word)
        | none =>
          if state = ParseTable.errorState then recover v token
          else changeStack fun s => s.pause v (some token)

/-- How many nodes are made before a token, at most. -/
def mostNodes : Nat := 100000

/-- Lets a version take its next token. -/
def advance (v : Nat) : Parsing Unit := do
  let state ← onStack fun s => s.state v
  match ← cached? v state with
  | some token => take v mostNodes (some token)
  | none => take v mostNodes (← nextToken? v state)

/-- What a comparison of a version with an earlier one leaves to compare. -/
inductive Comparison where
  /-- The version is gone. -/
  | gone
  /-- The earlier one is gone. -/
  | earlierGone
  | both

/-- Compares a version with an earlier one. -/
def comparePair (v earlier : Nat) (rank : VersionRank) : Parsing Comparison := do
  let earlierRank ← Parsing.rank earlier
  let merged ← onStack fun s => s.merge? earlier v
  match earlierRank.compare rank, merged with
  | .takeFirst, _ =>
    changeStack fun s => s.remove v
    return .gone
  | .takeSecond, _ =>
    changeStack fun s => s.remove earlier
    return .earlierGone
  | _, some s =>
    changeStack fun _ => s
    return .gone
  | .preferSecond, none =>
    changeStack fun s => s.swap v earlier
    return .both
  | _, none => return .both

/-- Compares a version with all earlier ones from a number on, and gives the number of the next version. -/
def compareEarlier (rank : VersionRank) : Nat → Nat → Nat → Parsing Nat
  | 0, v, _ => return v + 1
  | bound + 1, v, earlier => do
    if v ≤ earlier then return v + 1
    else
      match ← comparePair v earlier rank with
      | .gone => return v
      | .earlierGone => compareEarlier rank bound (v - 1) earlier
      | .both => compareEarlier rank bound v (earlier + 1)

/-- Compares all versions from a number on, and gives the lowest cost of one that is not lost. -/
def compareAll : Nat → Nat → Option Nat → Parsing (Option Nat)
  | 0, _, lowest => return lowest
  | bound + 1, v, lowest => do
    let s ← onStack id
    if s.size ≤ v then return lowest
    else if s.isHalted v then
      changeStack fun s => s.remove v
      compareAll bound v lowest
    else
      let rank ← Parsing.rank v
      let lowest := if rank.isLost then lowest else some (min rank.cost (lowest.getD rank.cost))
      let next ← compareEarlier rank (v + 1) v 0
      compareAll bound next lowest

/-- Lets the first version lose its way, if it waits, and removes all others that wait. -/
def resumeBest : Nat → Nat → Bool → Option Nat → Parsing (Option Nat)
  | 0, _, _, lowest => return lowest
  | left + 1, v, isGoing, lowest => do
    let x ← get
    if x.stack.isPaused v then
      if !isGoing && x.accepted < mostVersions then
        let cost := x.stack.cost v
        match ← useStack fun s => s.resume v with
        | some token => loseWay v token
        | none => pure ()
        resumeBest left (v + 1) true (some cost)
      else
        changeStack fun s => s.remove v
        resumeBest left v isGoing lowest
    else resumeBest left (v + 1) true lowest

/-- Compares the versions, and gives the lowest cost of one of them. -/
def condense : Parsing (Option Nat) := do
  let size ← onStack ParseStack.size
  let lowest ← compareAll (size * size + size + 1) 0 none
  changeStack fun s => { s with versions := s.versions.extract 0 mostVersions }
  resumeBest (← onStack ParseStack.size) 0 false lowest

/-- Lets a version take tokens until it is further in the text than a position. Gives the position that is to be
passed next. -/
def goPast (v : Nat) : Nat → Nat → Parsing Nat
  | 0, last => return last
  | bound + 1, last => do
    if !(← onStack fun s => s.isActive v) then return last
    advance v
    let position := (← onStack fun s => s.position v).bytes
    if last < position || (0 < v && position = last) then return position
    else goPast v bound last

/-- Lets all versions from a number on take tokens. -/
def goAll (patience : Nat) : Nat → Nat → Nat → Parsing Nat
  | 0, _, last => return last
  | bound + 1, v, last => do
    if (← onStack ParseStack.size) ≤ v then return last
    goAll patience bound (v + 1) (← goPast v patience last)

/-- Is there a finished tree that costs less than all versions? -/
def isDone (lowest : Option Nat) : Parsing Bool := do
  return (← get).finished.any fun t =>
    match lowest with
    | some lowest => t.errorCost < lowest
    | none => true

/-- Lets the versions take tokens and compares them, until the parse ends. -/
def go : Nat → Nat → Parsing Unit
  | 0, _ => return
  | bound + 1, last => do
    let last ← goAll mostNodes mostNodes 0 last
    if ← isDone (← condense) then return
    else if (← onStack ParseStack.size) = 0 then return
    else go bound last

/-- Makes the scanner of a language, if it has one. -/
def makeScanner : Parsing Unit := do
  let t ← table
  if t.part 168 != 0 && t.part 184 != 0 then
    let value ← call (t.part 184) []
    modify fun x => { x with scanner := value }

/-- Gives the scanner up. -/
def dropScanner : Parsing Unit := do
  let t ← table
  if (← get).scanner != 0 && t.part 192 != 0 then
    discard (call (t.part 192) [(← get).scanner])

/-- How many turns a parse takes, at most. -/
def mostTurns : Nat := 1000000

/-- Parses the text. -/
def all : Parsing Unit := do
  makeScanner
  go mostTurns 0
  dropScanner

end Parsing

namespace Parse

/-- A parse that has not begun. -/
def fresh (l : Linker) (address : UInt64) (text : Bytes) : Parse where
  linker := l.setMemory (Lexer.install l.memory)
  address := address
  text := text.toArray
  scanner := 0
  stack := .fresh
  finished := none
  accepted := 0
  cached := none

/-- The kind of the root of a text's tree, and the libraries after the parse, which runs their code on the
machine. -/
def rootOf (l : Linker) (address : UInt64) (text : String) : Option String × Linker :=
  let x := (Parsing.all.run (fresh l address (Text.Utf8.encode text))).2
  let table : ParseTable := ⟨x.linker.memory, address⟩
  let name := x.finished.bind fun t => table.symbolName? t.symbol
  (name.map Text.Utf8.lossy, { l with machine := x.linker.machine })

end Parse
end GrammarAssay
