import GrammarAssay.Parser.Token

/-!
# Taking tokens and making nodes

**Input.** A parse, a version of its stack, and an action of the tables.

**Algorithm.** A token is put on top of the version. A node is made of the trees that were taken last, but for
those at their end that are allowed everywhere; where several paths lead to the same place, the better trees
become the node, and where paths lead to several places, every one becomes a version. A version that comes to
the place of an earlier one becomes one with it. At the end of the text the trees on the stack become the
root.

**Results.**
* `Parsing.shift`: takes a token.
* `Parsing.reduce`: makes a node.
* `Parsing.accept`: makes the root.
-/

namespace GrammarAssay
namespace Parsing

/-- Takes a token. -/
def shift (v state : Nat) (token : Tree) (isExtra : Bool) : Parsing Unit := do
  changeStack fun s => s.push v (some { token with isExtra := isExtra }) state
  if token.scanner.isSome then
    changeStack fun s => s.change v fun x => { x with scanner := token.scanner }

/-- The most versions that are kept. -/
def mostVersions : Nat := 6

/-- The most versions that there can be for a while. -/
def mostForNow : Nat := 10

/-- A node that is to be made. -/
structure NodePlan where
  symbol : Nat
  count : Nat
  precedence : Int
  production : Nat
  /-- Does the node end a rule that is allowed everywhere? -/
  endsExtra : Bool

/-- The trees of slices with the same version, of which the first ones lead. -/
def groupSlices : List StackSlice → List (Nat × List (List Tree))
  | [] => []
  | slice :: rest =>
    match groupSlices rest with
    | (v, group) :: groups =>
      if v = slice.version then (v, slice.trees :: group) :: groups
      else (slice.version, [slice.trees]) :: (v, group) :: groups
    | [] => [(slice.version, [slice.trees])]

/-- The better of a node and the one that other trees make, with what follows it. -/
def choose (table : ParseTable) (plan : NodePlan) (best : Tree × List Tree) (trees : List Tree) :
    Tree × List Tree :=
  let (children, extras) := Tree.splitExtras trees
  if best.1.isBetter (Tree.node table plan.symbol 0 children) then
    (Tree.node table plan.symbol plan.production children, extras)
  else best

/-- The best node of several lists of trees, with what follows it. -/
def bestNode (table : ParseTable) (plan : NodePlan) : List (List Tree) → Tree × List Tree
  | [] => (Tree.node table plan.symbol plan.production [], [])
  | trees :: others =>
    let (children, extras) := Tree.splitExtras trees
    others.foldl (choose table plan) (Tree.node table plan.symbol plan.production children, extras)

/-- Makes a version one with the first earlier one with which that can be, if there is one. -/
def mergeInto (s : ParseStack) (candidates : List Nat) (v : Nat) : Option ParseStack :=
  candidates.findSome? fun other => s.merge? other v

/-- Puts a node on top of a version, with what follows it. -/
def pushNode (v : Nat) (plan : NodePlan) (lists : List (List Tree)) : Parsing Unit := do
  let t ← table
  let (node, extras) := bestNode t plan lists
  let state ← onStack fun s => s.state v
  let next := t.nextState state plan.symbol
  let node := { node with
    isExtra := plan.endsExtra && next == state
    precedence := node.precedence + plan.precedence }
  changeStack fun s => (node :: extras).foldl (fun s tree => s.push v (some tree) next) s

/-- Makes nodes in new versions, of which so many were removed. -/
def makeNodes (v limit : Nat) (plan : NodePlan) : Nat → List (Nat × List (List Tree)) → Parsing Unit
  | _, [] => return
  | removed, (version, lists) :: rest => do
    let version := version - removed
    if limit < version then
      changeStack fun s => s.remove version
      makeNodes v limit plan (removed + 1) rest
    else
      pushNode version plan lists
      match mergeInto (← get).stack ((List.range version).filter (· != v)) version with
      | some s =>
        changeStack fun _ => s
        makeNodes v limit plan (removed + 1) rest
      | none => makeNodes v limit plan removed rest

/-- Makes a node, and gives the first version that is new. -/
def reduce (v : Nat) (plan : NodePlan) : Parsing (Option Nat) := do
  let before ← onStack ParseStack.size
  let slices ← useStack fun s => s.popCount v plan.count
  let halted ← onStack fun s => ((List.range s.size).filter s.isHalted).length
  makeNodes v (mostForNow + halted) plan 0 (groupSlices slices)
  return if before < (← onStack ParseStack.size) then some before else none

/-- The root of the trees on a stack: the last one that is not allowed everywhere, with the children that
stand around its own. -/
def rootOf (table : ParseTable) (trees : List Tree) : Option Tree :=
  let back := trees.reverse.takeWhile Tree.isExtra
  match (trees.reverse.dropWhile Tree.isExtra) with
  | [] => none
  | last :: front =>
    some (Tree.node table last.symbol last.production
      (front.reverse ++ last.children ++ back.reverse))

/-- The better of a finished tree and a new one. -/
def betterTree (old : Option Tree) (new : Tree) : Tree :=
  match old with
  | some old => if old.isBetter new then new else old
  | none => new

/-- Finishes a tree at the end of the text. -/
def accept (v : Nat) (token : Tree) : Parsing Unit := do
  changeStack fun s => s.push v (some token) 1
  let slices ← useStack fun s => s.popAll v
  let t ← table
  for slice in slices do
    match rootOf t slice.trees with
    | some root =>
      modify fun x =>
        { x with finished := some (betterTree x.finished root), accepted := x.accepted + 1 }
    | none => pure ()
  match slices with
  | slice :: _ => changeStack fun s => s.remove slice.version
  | [] => pure ()
  changeStack fun s => s.halt v

end Parsing
end GrammarAssay
