import GrammarAssay.Language.Layout

/-!
# Parse tables in memory

**Input.** Memory, the address of the tables of a language, the state of a parser, and a symbol.

**Algorithm.** The first states have a row each, with a place for every symbol. The other states have groups
of symbols with the same value. The value for a token leads to a list of actions, and the value for any other
symbol is the state that follows it. Two symbols beyond all others mark what is wrong in a text.

**Results.**
* `ParseAction`, `TableEntry`: what a parser does when it sees a token in a state.
* `ParseTable.entry`, `ParseTable.nextState`: the actions for a token, and the state that follows a symbol.
* `ParseTable.lexMode`: how tokens are recognised in a state.
-/

namespace GrammarAssay

/-- What a parser can do. -/
inductive ParseAction where
  /-- Take the token, and go to a state. -/
  | shift (state : Nat) (isExtra isRepetition : Bool)
  /-- Make a node of what was taken last. -/
  | reduce (symbol count : Nat) (precedence : Int) (production : Nat)
  | accept
  /-- Look for a state in which the token has its place. -/
  | recover (isExtra isRepetition : Bool)
  | none
deriving DecidableEq

/-- The actions for a token in a state. -/
structure TableEntry where
  actions : List ParseAction
  /-- Can the token be used in another state? -/
  isReusable : Bool
deriving DecidableEq

/-- How tokens are recognised in a state. -/
structure LexMode where
  state : Nat
  scannerState : Nat
deriving DecidableEq

/-- The tables of a language in memory. -/
structure ParseTable where
  memory : Memory
  address : UInt64

namespace ParseTable

/-- The symbol at the end of a text. -/
def endSymbol : Nat := 0

/-- The symbol of what is wrong in a text. -/
def errorSymbol : Nat := 0xFFFF

/-- The symbol of a part of what is wrong. -/
def errorPart : Nat := 0xFFFE

/-- The state in which a parser looks for a way out of what is wrong. -/
def errorState : Nat := 0

/-- Does a symbol mark what is wrong? -/
def isErroneous (symbol : Nat) : Bool :=
  symbol == errorSymbol || symbol == errorPart

/-- The 32 bits at a distance from the address of the tables. -/
def count (t : ParseTable) (distance : UInt64) : Nat :=
  (Layout.count t.memory t.address distance).toNat

/-- The address that stands at a distance from the address of the tables. -/
def part (t : ParseTable) (distance : UInt64) : UInt64 :=
  t.memory.word (t.address + distance)

/-- The 16 bits with a number behind an address. -/
def half (t : ParseTable) (address : UInt64) (index : Nat) : Nat :=
  t.memory.number (address + 2 * UInt64.ofNat index) 2

/-- How many symbols are tokens. -/
def tokenCount (t : ParseTable) : Nat :=
  t.count 12

/-- The value of a symbol in groups that begin at an address. -/
def inGroups (t : ParseTable) (symbol : Nat) : Nat → UInt64 → Nat
  | 0, _ => 0
  | groups + 1, address =>
    let size := t.half address 1
    if (List.range size).any fun i => t.half address (i + 2) == symbol then t.half address 0
    else inGroups t symbol groups (address + 4 + 2 * UInt64.ofNat size)

/-- The value of a symbol in a state. -/
def value (t : ParseTable) (state symbol : Nat) : Nat :=
  let large := t.count 24
  if large ≤ state then
    let index := t.memory.number (t.part 56 + 4 * UInt64.ofNat (state - large)) 4
    let address := t.part 48 + 2 * UInt64.ofNat index
    t.inGroups symbol (t.half address 0) (address + 2)
  else t.half (t.part 40) (state * t.count 4 + symbol)

/-- The action at an address. -/
def action (t : ParseTable) (address : UInt64) : ParseAction :=
  let byte (i : UInt64) := t.memory.number (address + i) 1
  let half (i : UInt64) := t.memory.number (address + i) 2
  match byte 0 with
  | 0 => .shift (half 2) (byte 4 != 0) (byte 5 != 0)
  | 1 => .reduce (half 2) (byte 1) (Int.bmod (half 4) 0x10000) (half 6)
  | 2 => .accept
  | 3 => .recover (byte 4 != 0) (byte 5 != 0)
  | _ => .none

/-- The actions for a token in a state. -/
def entry (t : ParseTable) (state symbol : Nat) : TableEntry :=
  if isErroneous symbol then ⟨[], false⟩
  else
    let address := t.part 64 + 8 * UInt64.ofNat (t.value state symbol)
    let count := t.memory.number address 1
    ⟨(List.range count).map fun i => t.action (address + 8 * UInt64.ofNat (i + 1)),
      t.memory.number (address + 1) 1 != 0⟩

/-- Is anything done with a symbol in a state? -/
def hasActions (t : ParseTable) (state symbol : Nat) : Bool :=
  t.value state symbol != 0

/-- Does a token in a state first make a node? -/
def reducesFirst (t : ParseTable) (state symbol : Nat) : Bool :=
  match (t.entry state symbol).actions.head? with
  | some (.reduce _ _ _ _) => true
  | _ => false

/-- The state that follows a symbol, or zero. -/
def nextState (t : ParseTable) (state symbol : Nat) : Nat :=
  if isErroneous symbol then 0
  else if symbol < t.tokenCount then
    match (t.entry state symbol).actions.getLast? with
    | some (.shift next isExtra _) => if isExtra then state else next
    | _ => 0
  else t.value state symbol

/-- Is a token allowed everywhere? -/
def isExtra (t : ParseTable) (symbol : Nat) : Bool :=
  match (t.entry 1 symbol).actions.getLast? with
  | some (.shift _ isExtra _) => isExtra
  | _ => false

/-- How tokens are recognised in a state. -/
def lexMode (t : ParseTable) (state : Nat) : LexMode :=
  let address := t.part 136 + 4 * UInt64.ofNat state
  ⟨t.half address 0, t.half address 1⟩

/-- The state of tokens for a parser that needs none. -/
def noToken : Nat := 0xFFFF

/-- The token that stands for all words, or zero. -/
def wordToken (t : ParseTable) : Nat :=
  t.memory.number (t.address + 160) 2

/-- Is a symbol visible in a tree? -/
def isVisible (t : ParseTable) (symbol : Nat) : Bool :=
  if symbol = errorSymbol then true
  else if symbol = errorPart then false
  else t.memory.byte (t.part 104 + 3 * UInt64.ofNat symbol) != 0

/-- Gives a production another name to the child with an index? -/
def renames (t : ParseTable) (production index : Nat) : Bool :=
  if production = 0 then false
  else
    let width := t.memory.number (t.address + 36) 2
    t.half (t.part 128) (production * width + index) != 0

def symbolName? (t : ParseTable) (symbol : Nat) : Option Bytes :=
  if symbol = errorSymbol then some (Text.Utf8.encode "ERROR")
  else if symbol = errorPart then some (Text.Utf8.encode "_ERROR")
  else if symbol < (Layout.symbolCount t.memory t.address).toNat then
    some (Layout.symbolName t.memory t.address (UInt64.ofNat symbol))
  else none

end ParseTable
end GrammarAssay
