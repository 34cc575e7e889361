import GrammarAssay.Parser.Table

/-!
# Trees

**Input.** The tokens of a text, and the nodes that a parser makes of them.

**Algorithm.** A tree knows how much of the text stands in front of it and how much it takes itself, in bytes,
lines and columns. The cost of what is wrong in a tree is the sum of the costs of its children, and more where
the tree itself stands for something that is wrong. A missing token costs as much as a recovery and itself.
Children that the grammar does not show count with what they show.

**Results.**
* `TextLength`: how much of a text something takes.
* `Tree`: a token or a node.
* `Tree.node`: the node of some children.
* `Tree.compare`: the order of trees.
* `Tree.isBetter`: which of two trees is taken.
-/

namespace GrammarAssay

/-- How much of a text something takes. -/
structure TextLength where
  bytes : Nat
  rows : Nat
  /-- The bytes behind the last line end. -/
  columns : Nat
deriving DecidableEq

namespace TextLength

/-- Nothing of a text. -/
def zero : TextLength :=
  ⟨0, 0, 0⟩

/-- Two parts of a text one behind the other. -/
def add (a b : TextLength) : TextLength :=
  ⟨a.bytes + b.bytes, a.rows + b.rows, if b.rows = 0 then a.columns + b.columns else b.columns⟩

/-- What is left of a part of a text behind its beginning. -/
def sub (a b : TextLength) : TextLength :=
  ⟨a.bytes - b.bytes, a.rows - b.rows, if b.rows < a.rows then a.columns else a.columns - b.columns⟩

end TextLength

/-- A token or a node. -/
structure Tree where
  symbol : Nat
  /-- What stands in front of the tree. -/
  padding : TextLength
  size : TextLength
  isVisible : Bool
  /-- Is the tree allowed everywhere? -/
  isExtra : Bool
  isMissing : Bool
  isKeyword : Bool
  /-- The state of the parser that asked for the token. -/
  state : Nat
  /-- The cost of what is wrong, but for a token that is missing. -/
  cost : Nat
  precedence : Int
  visibleChildren : Nat
  visibleDescendants : Nat
  /-- The state that the scanner left, if the token is one of its. -/
  scanner : Option Bytes
  /-- Did the scanner change its state? -/
  changesScanner : Bool
  production : Nat
  children : List Tree

namespace Tree

def recoveryCost : Nat := 500

/-- The cost of a token that is missing. -/
def missingCost : Nat := 110

/-- The cost of a tree that is passed over. -/
def skippedCost : Nat := 100

/-- The cost of a line that is passed over. -/
def lineCost : Nat := 30

/-- How much of the text the tree takes with what stands in front of it. -/
def total (t : Tree) : TextLength :=
  t.padding.add t.size

/-- The cost of what is wrong. -/
def errorCost (t : Tree) : Nat :=
  if t.isMissing then missingCost + recoveryCost else t.cost

/-- Does the tree stand for something that is wrong? -/
def isError (t : Tree) : Bool :=
  t.symbol == ParseTable.errorSymbol

/-- Is the tree the end of the text? -/
def isEnd (t : Tree) : Bool :=
  t.symbol == ParseTable.endSymbol

/-- How many nodes the tree shows. -/
def nodeCount (t : Tree) : Nat :=
  t.visibleDescendants + (if t.isVisible then 1 else 0) +
    (if t.symbol = ParseTable.errorPart then 1 else 0)

/-- A token. -/
def leaf (table : ParseTable) (symbol : Nat) (padding size : TextLength) (state : Nat) : Tree :=
  { symbol := symbol
    padding := padding
    size := size
    isVisible := table.isVisible symbol
    isExtra := symbol == ParseTable.endSymbol
    isMissing := false
    isKeyword := false
    state := state
    cost := 0
    precedence := 0
    visibleChildren := 0
    visibleDescendants := 0
    scanner := none
    changesScanner := false
    production := 0
    children := [] }

/-- A token that is missing. -/
def missing (table : ParseTable) (symbol : Nat) (padding : TextLength) : Tree :=
  { leaf table symbol padding .zero 0 with isMissing := true, isExtra := false }

/-- What a node has to pay for a child that was passed over. -/
def skipCost (child : Tree) : Nat :=
  if child.isExtra || (child.isError && child.children.isEmpty) then 0
  else if child.isVisible then skippedCost
  else skippedCost * child.visibleChildren

/-- Adds a child to a node, as the one with an index among those that are not allowed everywhere. -/
def addChild (table : ParseTable) (index : Nat) (t child : Tree) : Tree :=
  let isRenamed := !child.isExtra && child.symbol != 0 && table.renames t.production index
  let shows := isRenamed || child.isVisible
  { t with
    cost := t.cost + (if child.symbol = ParseTable.errorPart then 0 else child.errorCost) +
      (if ParseTable.isErroneous t.symbol then child.skipCost else 0)
    precedence := t.precedence + child.precedence
    visibleChildren := t.visibleChildren + (if shows then 1 else child.visibleChildren)
    visibleDescendants := t.visibleDescendants + child.visibleDescendants + (if shows then 1 else 0)
    changesScanner := t.changesScanner || child.changesScanner }

/-- Adds children to a node. -/
def addChildren (table : ParseTable) : Nat → Tree → List Tree → Tree
  | _, t, [] => t
  | index, t, child :: rest =>
    addChildren table (if child.isExtra then index else index + 1) (t.addChild table index child) rest

/-- How much of the text children take, the first without what stands in front of it. -/
def sizeOf : List Tree → TextLength
  | [] => .zero
  | first :: rest => rest.foldl (fun l t => l.add t.total) first.size

/-- The node of some children. -/
def node (table : ParseTable) (symbol production : Nat) (children : List Tree) : Tree :=
  let size := sizeOf children
  let start : Tree :=
    { leaf table symbol ((children.head?.map padding).getD .zero) size 0 with
      isExtra := false
      production := production
      children := children }
  let t := addChildren table 0 start children
  if ParseTable.isErroneous symbol then
    { t with cost := t.cost + recoveryCost + size.bytes + lineCost * size.rows }
  else t

/-- The node of children that are wrong. -/
def error (table : ParseTable) (children : List Tree) (isExtra : Bool) : Tree :=
  { node table ParseTable.errorSymbol 0 children with isExtra := isExtra }

/-- The order of trees: by the first place where symbols or numbers of children differ. -/
def compare : Nat → List (Tree × Tree) → Ordering
  | 0, _ => .eq
  | _, [] => .eq
  | bound + 1, (a, b) :: rest =>
    let here := (Ord.compare a.symbol b.symbol).then
      (Ord.compare a.children.length b.children.length)
    if here = .eq then compare bound (a.children.zip b.children ++ rest) else here

/-- How many trees a comparison goes through, at most. -/
def patience : Nat := 100000

/-- Is the second of two trees the one that is taken? -/
def isBetter (old new : Tree) : Bool :=
  if new.errorCost ≠ old.errorCost then new.errorCost < old.errorCost
  else if new.precedence ≠ old.precedence then old.precedence < new.precedence
  else if 0 < old.errorCost then true
  else compare patience [(old, new)] = .gt

/-- Can one of two trees stand for both? -/
def isLike (a b : Tree) : Bool :=
  a.symbol == b.symbol &&
    ((0 < a.errorCost && 0 < b.errorCost) ||
      (a.padding.bytes == b.padding.bytes && a.size.bytes == b.size.bytes &&
        a.children.length == b.children.length && a.isExtra == b.isExtra &&
        a.scanner.getD [] == b.scanner.getD []))

/-- Splits trees into those in front and the ones at the end that are allowed everywhere. -/
def splitExtras (trees : List Tree) : List Tree × List Tree :=
  let back := trees.reverse
  ((back.dropWhile isExtra).reverse, (back.takeWhile isExtra).reverse)

end Tree
end GrammarAssay
