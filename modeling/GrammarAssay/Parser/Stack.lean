import GrammarAssay.Parser.Tree

/-!
# Stacks of parsers

**Input.** The trees that a parser takes, in several versions where a text can be read in several ways.

**Algorithm.** The stack is a graph. A node has a state and a position, and links to nodes below it, each with
a tree, or without one where the parser lost its way. A version is a node at the top. Versions that come to
one state at one position become one. To pop trees is to walk down all paths at once: each path is a walk, and
a walk at a fork becomes several.

**Results.**
* `ParseStack`: the nodes and the versions.
* `ParseStack.push`, `ParseStack.popCount`, `ParseStack.popAll`: trees onto the stack and from it.
* `ParseStack.merge`: two versions become one.
* `ParseStack.cost`: the cost of what is wrong in a version.
-/

namespace GrammarAssay

/-- A way from a node to one below it. -/
structure StackLink where
  node : Nat
  tree : Option Tree

/-- A node of a stack. -/
structure StackNode where
  state : Nat
  position : TextLength
  links : List StackLink
  cost : Nat
  count : Nat
  precedence : Int

/-- A state on the stack below the place where the parser lost its way. -/
structure StackLevel where
  position : TextLength
  depth : Nat
  state : Nat

/-- What becomes of a version. -/
inductive VersionStatus where
  | active
  /-- The token has no place. -/
  | paused (token : Option Tree)
  | halted

/-- A version of a stack. -/
structure StackVersion where
  node : Nat
  levels : Option (List StackLevel)
  /-- How many nodes there were when the parser lost its way. -/
  countAtError : Nat
  /-- The state that the scanner left behind its last token. -/
  scanner : Option Bytes
  status : VersionStatus

/-- The nodes of a stack, and its versions. -/
structure ParseStack where
  nodes : Array StackNode
  versions : Array StackVersion

namespace StackNode

/-- The node at the bottom. -/
def bottom : StackNode :=
  ⟨1, .zero, [], 0, 0, 0⟩

/-- A node on top of another one. -/
def above (below : StackNode) (index : Nat) (tree : Option Tree) (state : Nat) : StackNode where
  state := state
  position := below.position.add ((tree.map Tree.total).getD .zero)
  links := [⟨index, tree⟩]
  cost := below.cost + (tree.map Tree.errorCost).getD 0
  count := below.count + (tree.map Tree.nodeCount).getD 0
  precedence := below.precedence + (tree.map Tree.precedence).getD 0

end StackNode

/-- A walk down from the top of a stack, with the trees that it took, the lowest first. -/
structure StackWalk where
  node : Nat
  trees : List Tree
  count : Nat

/-- The trees that a walk took, and the version that is left. -/
structure StackSlice where
  trees : List Tree
  version : Nat

/-- What is done at the node of a walk: are its trees taken, and does it end? -/
structure WalkChoice where
  pops : Bool
  stops : Bool

namespace ParseStack

/-- A stack with nothing on it. -/
def fresh : ParseStack :=
  ⟨#[.bottom], #[⟨0, none, 0, none, .active⟩]⟩

/-- The version with a number. -/
def version (s : ParseStack) (v : Nat) : StackVersion :=
  (s.versions[v]?).getD ⟨0, none, 0, none, .halted⟩

/-- The node with a number. -/
def node (s : ParseStack) (n : Nat) : StackNode :=
  (s.nodes[n]?).getD .bottom

/-- The node at the top of a version. -/
def top (s : ParseStack) (v : Nat) : StackNode :=
  s.node (s.version v).node

/-- How many versions there are. -/
def size (s : ParseStack) : Nat :=
  s.versions.size

/-- The state of a version. -/
def state (s : ParseStack) (v : Nat) : Nat :=
  (s.top v).state

/-- The position of a version. -/
def position (s : ParseStack) (v : Nat) : TextLength :=
  (s.top v).position

/-- Changes a version. -/
def change (s : ParseStack) (v : Nat) (f : StackVersion → StackVersion) : ParseStack :=
  { s with versions := s.versions.modify v f }

/-- Does a version go on? -/
def isActive (s : ParseStack) (v : Nat) : Bool :=
  match (s.version v).status with
  | .active => true
  | _ => false

/-- Does a version wait? -/
def isPaused (s : ParseStack) (v : Nat) : Bool :=
  match (s.version v).status with
  | .paused _ => true
  | _ => false

/-- Is a version given up? -/
def isHalted (s : ParseStack) (v : Nat) : Bool :=
  match (s.version v).status with
  | .halted => true
  | _ => false

/-- Gives a version up. -/
def halt (s : ParseStack) (v : Nat) : ParseStack :=
  s.change v fun x => { x with status := .halted }

/-- Lets a version wait. -/
def pause (s : ParseStack) (v : Nat) (token : Option Tree) : ParseStack :=
  let count := (s.top v).count
  s.change v fun x => { x with status := .paused token, countAtError := count }

/-- Lets a version go on that waits, and gives the token for which it waits. -/
def resume (s : ParseStack) (v : Nat) : Option Tree × ParseStack :=
  let token :=
    match (s.version v).status with
    | .paused token => token
    | _ => none
  (token, s.change v fun x => { x with status := .active })

/-- Removes a version. -/
def remove (s : ParseStack) (v : Nat) : ParseStack :=
  { s with versions := s.versions.eraseIdxIfInBounds v }

/-- Puts a version in the place of an earlier one. -/
def renumber (s : ParseStack) (v target : Nat) : ParseStack :=
  if v = target then s
  else
    let new := s.version v
    let old := s.version target
    ((s.change target fun _ => { new with levels := new.levels.or old.levels }).remove v)

/-- Exchanges two versions. -/
def swap (s : ParseStack) (v other : Nat) : ParseStack :=
  let a := s.version v
  let b := s.version other
  (s.change v fun _ => b).change other fun _ => a

/-- Adds a copy of a version. -/
def copyVersion (s : ParseStack) (v : Nat) : Nat × ParseStack :=
  (s.size, { s with versions := s.versions.push { s.version v with levels := none } })

/-- Puts a tree on top of a version, or nothing where the parser loses its way. -/
def push (s : ParseStack) (v : Nat) (tree : Option Tree) (state : Nat) : ParseStack :=
  let below := (s.version v).node
  let node := (s.node below).above below tree state
  let s := { s with nodes := s.nodes.push node }
  let index := s.nodes.size - 1
  s.change v fun x =>
    { x with
      node := index
      countAtError := if tree.isNone then node.count else x.countAtError }

/-- How many links a node can have. -/
def mostLinks : Nat := 8

/-- Raises the precedence of a node to that of a way down from it. -/
def raise (s : ParseStack) (n : Nat) (link : StackLink) : ParseStack :=
  let precedence := (s.node link.node).precedence + (link.tree.map Tree.precedence).getD 0
  { s with nodes := s.nodes.modify n fun x => { x with precedence := max x.precedence precedence } }

/-- Can the trees of two links stand for each other? -/
def isLike (a b : StackLink) : Bool :=
  match a.tree, b.tree with
  | some a, some b => a.isLike b
  | none, none => true
  | _, _ => false

/-- Can the nodes below two links become one? -/
def isSamePlace (s : ParseStack) (a b : StackLink) : Bool :=
  let a := s.node a.node
  let b := s.node b.node
  a.state == b.state && a.position.bytes == b.position.bytes && a.cost == b.cost

/-- The tree of a link in the place of that of another one, if it has the higher precedence. -/
def prefer (s : ParseStack) (n index : Nat) (link : StackLink) : ParseStack :=
  let precedence (l : StackLink) := (l.tree.map Tree.precedence).getD 0
  let base := (s.node link.node).precedence
  { s with
    nodes := s.nodes.modify n fun x =>
      match x.links[index]? with
      | some old =>
        if precedence old < precedence link then
          { x with links := x.links.set index link, precedence := base + precedence link }
        else x
      | none => x }

/-- Adds a link to a node where no other one is like it. -/
def appendLink (s : ParseStack) (n : Nat) (link : StackLink) : ParseStack :=
  if (s.node n).links.length ≥ mostLinks then s
  else
    let count := (s.node link.node).count + (link.tree.map Tree.nodeCount).getD 0
    let s :=
      { s with
        nodes := s.nodes.modify n fun x =>
          { x with links := x.links ++ [link], count := max x.count count } }
    s.raise n link

/-- Adds a link to a node. If another link is like it, and leads to the same node or to one that can become
the same, no link is added there, but links are added further down. -/
def addLink : Nat → ParseStack → Nat → StackLink → ParseStack
  | 0, s, _, _ => s
  | bound + 1, s, n, link =>
    if link.node = n then s
    else
      let like := (s.node n).links.zipIdx.find? fun e =>
        isLike e.1 link && (e.1.node == link.node || s.isSamePlace e.1 link)
      match like with
      | none => s.appendLink n link
      | some (old, index) =>
        if old.node = link.node then s.prefer n index link
        else
          let s := (s.node link.node).links.foldl (fun s l => addLink bound s old.node l) s
          s.raise n link

/-- Can two versions become one? -/
def canMerge (s : ParseStack) (v other : Nat) : Bool :=
  let a := s.top v
  let b := s.top other
  s.isActive v && s.isActive other && a.state == b.state &&
    a.position.bytes == b.position.bytes && a.cost == b.cost &&
    (s.version v).scanner.getD [] == (s.version other).scanner.getD []

/-- Makes two versions one, if that can be. -/
def merge? (s : ParseStack) (v other : Nat) : Option ParseStack :=
  if s.canMerge v other then
    let n := (s.version v).node
    let s := (s.top other).links.foldl (fun s l => addLink (s.nodes.size + 1) s n l) s
    let top := s.node n
    let s :=
      if top.state = ParseTable.errorState then s.change v fun x => { x with countAtError := top.count }
      else s
    some (s.remove other)
  else none

/-- Keeps the trees of a walk. A walk that ends where another one ended belongs to its version. -/
def addSlice (s : ParseStack) (v : Nat) (walk : StackWalk) (slices : List StackSlice) :
    List StackSlice × ParseStack :=
  let isThere (slice : StackSlice) : Bool := (s.version slice.version).node == walk.node
  match slices.reverse.find? isThere with
  | some same =>
    let back := slices.reverse.takeWhile fun slice => !isThere slice
    let front := (slices.reverse.dropWhile fun slice => !isThere slice).reverse
    (front ++ ⟨walk.trees, same.version⟩ :: back.reverse, s)
  | none =>
    let old := s.version v
    let new : StackVersion := ⟨walk.node, none, old.countAtError, old.scanner, .active⟩
    (slices ++ [⟨walk.trees, s.size⟩], { s with versions := s.versions.push new })

/-- A walk that goes on along a link. -/
def follow (walk : StackWalk) (link : StackLink) : StackWalk where
  node := link.node
  trees :=
    match link.tree with
    | some t => t :: walk.trees
    | none => walk.trees
  count := if link.tree.any Tree.isExtra then walk.count else walk.count + 1

/-- How many walks there can be. -/
def mostWalks : Nat := 64

/-- What is known in a round of walks: the walks that went on, those that forked off, the trees that were
taken, the stack, and what the choice remembers. -/
structure Round (σ : Type) where
  done : List StackWalk
  forks : List StackWalk
  slices : List StackSlice
  stack : ParseStack
  memory : σ

/-- Goes on from the node of a walk, when `waiting` others have not gone on. -/
def forkOut {σ : Type} (links : List StackLink) (walk : StackWalk) (waiting : Nat) (r : Round σ) :
    Round σ :=
  match links with
  | [] => r
  | first :: others =>
    let r := others.foldl (fun r link =>
      if r.done.length + 1 + waiting + r.forks.length < mostWalks then
        { r with forks := r.forks ++ [follow walk link] }
      else r) r
    { r with done := r.done ++ [follow walk first] }

/-- One round of walks, each of which goes one link down. -/
def walkRound {σ : Type} (choose : ParseStack → StackWalk → σ → WalkChoice × σ) (v : Nat) :
    List StackWalk → Round σ → Round σ
  | [], r => r
  | walk :: rest, r =>
    let (choice, memory) := choose r.stack walk r.memory
    let r := { r with memory := memory }
    let links := (r.stack.node walk.node).links
    let (slices, stack) :=
      if choice.pops then r.stack.addSlice v walk r.slices else (r.slices, r.stack)
    let r := { r with slices := slices, stack := stack }
    let r := if choice.stops || links.isEmpty then r else forkOut links walk rest.length r
    walkRound choose v rest r

/-- Walks down from a version, for as many rounds as a bound tells. -/
def walk {σ : Type} (choose : ParseStack → StackWalk → σ → WalkChoice × σ) (v : Nat) :
    Nat → List StackWalk → Round σ → Round σ
  | 0, _, r => r
  | bound + 1, walks, r =>
    if walks.isEmpty then r
    else
      let r := walkRound choose v walks { r with done := [], forks := [] }
      walk choose v bound (r.done ++ r.forks) r

/-- Walks down from a version. -/
def walkDown {σ : Type} (s : ParseStack) (v : Nat) (start : σ)
    (choose : ParseStack → StackWalk → σ → WalkChoice × σ) : Round σ :=
  walk choose v (s.nodes.size + 1) [⟨(s.version v).node, [], 0⟩] ⟨[], [], [], s, start⟩

/-- Takes a number of trees, without those that are allowed everywhere. -/
def popCount (s : ParseStack) (v count : Nat) : List StackSlice × ParseStack :=
  let r := s.walkDown v () fun _ walk _ =>
    let isThere := walk.count == count
    (⟨isThere, isThere⟩, ())
  (r.slices, r.stack)

/-- Takes all trees. -/
def popAll (s : ParseStack) (v : Nat) : List StackSlice × ParseStack :=
  let r := s.walkDown v () fun s walk _ => (⟨(s.node walk.node).links.isEmpty, false⟩, ())
  (r.slices, r.stack)

/-- Takes the error at the top of a version, if there is one. -/
def popError (s : ParseStack) (v : Nat) : Option Tree × ParseStack :=
  if (s.top v).links.any fun link => link.tree.any Tree.isError then
    let r := s.walkDown v false fun _ walk found =>
      match walk.trees with
      | [] => (⟨false, false⟩, found)
      | t :: _ => if !found && t.isError then (⟨true, true⟩, true) else (⟨false, true⟩, found)
    match r.slices with
    | [] => (none, r.stack)
    | slice :: _ => (slice.trees.head?, r.stack.renumber slice.version v)
  else (none, s)

/-- How far down the states are noted when the parser loses its way. -/
def mostLevels : Nat := 16

/-- Adds a level, unless it is there. -/
def addLevel (levels : List StackLevel) (new : StackLevel) : List StackLevel :=
  let near := levels.reverse.takeWhile fun l => new.depth ≤ l.depth
  if near.any fun l => l.depth == new.depth && l.state == new.state then levels
  else levels ++ [new]

/-- Notes the states below the top of a version. -/
def recordLevels (s : ParseStack) (v : Nat) : ParseStack :=
  let r := s.walkDown v [] fun s walk levels =>
    if mostLevels < walk.count then (⟨false, true⟩, levels)
    else
      let n := s.node walk.node
      (⟨false, false⟩, addLevel levels ⟨n.position, walk.count, n.state⟩)
  s.change v fun x => { x with levels := some r.memory }

/-- Did a version lose its way at its top? -/
def isLost (s : ParseStack) (v : Nat) : Bool :=
  let n := s.top v
  n.state == ParseTable.errorState && (n.links.head?.map fun l => l.tree.isNone).getD true

/-- The cost of what is wrong in a version. -/
def cost (s : ParseStack) (v : Nat) : Nat :=
  (s.top v).cost + (if s.isPaused v || s.isLost v then Tree.recoveryCost else 0)

/-- How many nodes a version made since it lost its way. A version can have fewer than then; this is noted
too. -/
def countSinceError (s : ParseStack) (v : Nat) : Nat × ParseStack :=
  let count := (s.top v).count
  let s := s.change v fun x => { x with countAtError := min x.countAtError count }
  (count - (s.version v).countAtError, s)

/-- Did a version take any of the text behind the node of which it lost its way? -/
def advancedFrom (s : ParseStack) (countAtError : Nat) : Nat → Nat → Bool
  | 0, _ => false
  | bound + 1, n =>
    let node := s.node n
    match node.links with
    | ⟨below, some t⟩ :: _ =>
      if 0 < t.total.bytes then true
      else if countAtError < node.count && t.errorCost == 0 then advancedFrom s countAtError bound below
      else false
    | _ => false

/-- Did a version take any of the text since it lost its way? -/
def hasAdvanced (s : ParseStack) (v : Nat) : Bool :=
  (s.top v).cost == 0 ||
    s.advancedFrom (s.version v).countAtError (s.nodes.size + 1) (s.version v).node

end ParseStack
end GrammarAssay
