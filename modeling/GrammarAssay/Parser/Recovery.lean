import GrammarAssay.Parser.Reduction

/-!
# Recovery

**Input.** A parse whose versions have no place for their next token.

**Algorithm.** All nodes are made that can be made with any token, and a missing token is put in where the one
that follows has its place behind it. Then the parser counts as lost. It goes back to a state, near the top of
the stack, in which the token has its place, and what lies above becomes an error. It also passes over the
token. What would cost more than another version is left out. At the end of the text all becomes an error.

**Results.**
* `Parsing.status`, `Parsing.compare`: how good a version is.
* `Parsing.recover`: goes on from a token that has no place.
* `Parsing.loseWay`: makes a version count as lost, and goes on.
-/

namespace GrammarAssay

/-- How good a version is. -/
structure VersionRank where
  cost : Nat
  count : Nat
  precedence : Int
  isLost : Bool

/-- Which of two versions is better, and by how much. -/
inductive Preference where
  | takeFirst
  | preferFirst
  | none
  | preferSecond
  | takeSecond
deriving DecidableEq

namespace VersionRank

/-- The difference of costs from which on a version is dropped. -/
def mostDifference : Nat := 1800

/-- Which of two versions is better. -/
def compare (a b : VersionRank) : Preference :=
  if !a.isLost && b.isLost then (if a.cost < b.cost then .takeFirst else .preferFirst)
  else if a.isLost && !b.isLost then (if b.cost < a.cost then .takeSecond else .preferSecond)
  else if a.cost < b.cost then
    if mostDifference < (b.cost - a.cost) * (1 + a.count) then .takeFirst else .preferFirst
  else if b.cost < a.cost then
    if mostDifference < (a.cost - b.cost) * (1 + b.count) then .takeSecond else .preferSecond
  else if b.precedence < a.precedence then .preferFirst
  else if a.precedence < b.precedence then .preferSecond
  else .none

end VersionRank

namespace Parsing

/-- How good a version is that has a cost. -/
def rankWith (v cost : Nat) (isLost : Bool) : Parsing VersionRank := do
  let count ← useStack fun s => s.countSinceError v
  let precedence ← onStack fun s => (s.top v).precedence
  return ⟨cost, count, precedence, isLost⟩

/-- How good a version is. -/
def rank (v : Nat) : Parsing VersionRank := do
  let isPaused ← onStack fun s => s.isPaused v
  let cost ← onStack fun s => s.cost v
  let isLost ← onStack fun s => isPaused || s.state v == ParseTable.errorState
  rankWith v (if isPaused then cost + Tree.skippedCost else cost) isLost

/-- Is one of several versions better than one with a rank? -/
def isBeaten (v : Nat) (rank : VersionRank) : List Nat → Parsing Bool
  | [] => return false
  | other :: rest => do
    let s := (← get).stack
    if other = v || !s.isActive other || (s.position other).bytes < (s.position v).bytes then
      isBeaten v rank rest
    else
      match rank.compare (← Parsing.rank other) with
      | .takeSecond => return true
      | .preferSecond =>
        if (← get).stack.canMerge other v then return true else isBeaten v rank rest
      | _ => isBeaten v rank rest

/-- Is there a version that is better than a version if that has a cost? -/
def isWorse (v cost : Nat) : Parsing Bool := do
  let x ← get
  if x.finished.any fun t => t.errorCost ≤ cost then return true
  isBeaten v (← rankWith v cost false) (List.range x.stack.size)

/-- Adds an error of trees on top of a version, with what follows them. -/
def pushError (v state : Nat) (trees : List Tree) : Parsing Unit := do
  let t ← table
  let (children, extras) := Tree.splitExtras trees
  let errors := if children.isEmpty then [] else [Tree.error t children true]
  changeStack fun s => (errors ++ extras).foldl (fun s tree => s.push v (some tree) state) s

/-- Goes on in new versions that have come back to a state. -/
def returnIn (state : Nat) (last : Option Nat) : List StackSlice → Parsing (Option Nat)
  | [] => return last
  | slice :: rest => do
    if last = some slice.version then returnIn state last rest
    else if (← onStack fun s => s.state slice.version) ≠ state then
      changeStack fun s => s.halt slice.version
      returnIn state last rest
    else
      let error ← useStack fun s => s.popError slice.version
      pushError slice.version state (((error.map Tree.children).getD []) ++ slice.trees)
      returnIn state (some slice.version) rest

/-- Goes back to a state. -/
def returnTo (v depth state : Nat) : Parsing Bool := do
  let slices ← useStack fun s => s.popCount v depth
  return (← returnIn state none slices).isSome

/-- The cost of going back to a level. -/
def returnCost (cost : Nat) (position : TextLength) (level : StackLevel) : Nat :=
  cost + level.depth * Tree.skippedCost + (position.bytes - level.position.bytes) +
    (position.rows - level.position.rows) * Tree.lineCost

/-- Goes back to the first of several levels in which a token has its place. -/
def returnToAny (v count cost versions : Nat) (token : Tree) : List StackLevel → Parsing Bool
  | [] => return false
  | level :: rest => do
    let s := (← get).stack
    let position := s.position v
    let isThere := (List.range versions).any fun other =>
      s.state other == level.state && (s.position other).bytes == position.bytes
    if level.state = ParseTable.errorState || level.position.bytes = position.bytes || isThere then
      returnToAny v count cost versions token rest
    else if ← isWorse v (returnCost cost position level) then return false
    else
      let depth := if 0 < count then level.depth + 1 else level.depth
      if (← table).hasActions level.state token.symbol then
        if ← returnTo v depth level.state then return true
      returnToAny v count cost versions token rest

/-- Removes the versions from a number on that do not go on. -/
def removeInactive (first : Nat) (s : ParseStack) : ParseStack :=
  let kept := s.versions.toList.zipIdx.filter fun e => e.2 < first || s.isActive e.2
  { s with versions := (kept.map Prod.fst).toArray }

/-- Ends a text with an error. -/
def acceptLost (v : Nat) (token : Tree) : Parsing Unit := do
  let t ← table
  changeStack fun s => s.push v (some (Tree.error t [] false)) 1
  accept v token

/-- The part of an error at the top of a version, and a new part, as one part. -/
def joinParts (v : Nat) (part : Tree) : Parsing Tree := do
  let slices ← useStack fun s => s.popCount v 1
  match slices with
  | [] => return part
  | slice :: _ =>
    changeStack fun s => { s with versions := s.versions.extract 0 (slice.version + 1) }
    changeStack fun s => s.renumber slice.version v
    return Tree.node (← table) ParseTable.errorPart 0 (slice.trees ++ [part])

/-- Passes over a token. -/
def skipToken (v count : Nat) (token : Tree) : Parsing Unit := do
  let t ← table
  let token := { token with isExtra := token.isExtra || t.isExtra token.symbol }
  let part := Tree.node t ParseTable.errorPart 0 [token]
  let part ← if 0 < count then joinParts v part else pure part
  changeStack fun s => s.push v (some part) ParseTable.errorState
  if token.scanner.isSome then
    changeStack fun s => s.change v fun x => { x with scanner := token.scanner }

/-- The cost of passing over a token. -/
def skipCost (cost : Nat) (token : Tree) : Nat :=
  cost + Tree.skippedCost + token.total.bytes + token.total.rows * Tree.lineCost

/-- Goes on from a token that has no place. -/
def recover (v : Nat) (token : Tree) : Parsing Unit := do
  let versions ← onStack ParseStack.size
  let count ← useStack fun s => s.countSinceError v
  let cost ← onStack fun s => s.cost v
  let levels ← onStack fun s => (s.version v).levels.getD []
  let isBack ←
    if token.isError then pure false else returnToAny v count cost versions token levels
  changeStack (removeInactive versions)
  if token.isEnd then acceptLost v token
  else
    let isFull := mostVersions < (← onStack ParseStack.size)
    if isBack && (isFull || token.changesScanner) then changeStack fun s => s.halt v
    else if ← isWorse v (skipCost cost token) then changeStack fun s => s.halt v
    else skipToken v count token

/-- Nodes that can be made, each with a symbol and a number of children once. -/
def addPlan (plans : List NodePlan) : ParseAction → List NodePlan
  | .reduce symbol count precedence production =>
    if count = 0 || plans.any (fun p => p.symbol == symbol && p.count == count) then plans
    else plans ++ [⟨symbol, count, precedence, production, false⟩]
  | _ => plans

/-- Does an action take a token for good? -/
def takes : ParseAction → Bool
  | .shift _ isExtra isRepetition | .recover isExtra isRepetition => !isExtra && !isRepetition
  | _ => false

/-- The actions for a token in a state, or for any token. -/
def actionsFor (t : ParseTable) (state : Nat) (token : Option Nat) : List ParseAction :=
  let tokens :=
    match token with
    | some token => [token]
    | none => (List.range (t.tokenCount % 0x10000)).drop 1
  tokens.flatMap fun token => (t.entry state token).actions

/-- Makes all nodes that can be made in a version, and gives the last version that is new. -/
def makeAll (v : Nat) (plans : List NodePlan) : Parsing (Option Nat) :=
  plans.foldlM (fun _ plan => reduce v plan) none

/-- Makes all nodes that can be made before a token, or any token, from a version on. Tells whether the token
can be taken then. -/
def reduceFrom (first initial : Nat) (token : Option Nat) : Nat → Nat → Nat → Bool → Parsing Bool
  | 0, _, _, found => return found
  | bound + 1, round, v, found => do
    let size ← onStack ParseStack.size
    if size ≤ v then return found
    let earlier := (List.range v).drop initial
    match mergeInto (← get).stack earlier v with
    | some s =>
      changeStack fun _ => s
      reduceFrom first initial token bound (round + 1) v found
    | none =>
      let t ← table
      let actions := actionsFor t (← onStack fun s => s.state v) token
      let new ← makeAll v (actions.foldl addPlan [])
      let next := if v = first then size else v + 1
      if actions.any takes then reduceFrom first initial token bound (round + 1) next true
      else
        match new with
        | some new =>
          if round < mostVersions then
            changeStack fun s => s.renumber new v
            reduceFrom first initial token bound (round + 1) v found
          else
            if token.isSome then changeStack fun s => s.remove v
            reduceFrom first initial token bound (round + 1) next found
        | none =>
          if token.isSome then changeStack fun s => s.remove v
          reduceFrom first initial token bound (round + 1) next found

/-- How many rounds there are, at most. -/
def mostRounds : Nat := 10000

/-- Makes all nodes that can be made before a token, or any token. -/
def reduceAll (v : Nat) (token : Option Nat) : Parsing Bool := do
  reduceFrom v (← onStack ParseStack.size) token mostRounds 0 v false

/-- Puts a missing token on top of a copy of a version, if the next token has its place behind it. -/
def insertMissing (v : Nat) (position : TextLength) (token : Tree) : List Nat → Parsing Bool
  | [] => return false
  | missing :: rest => do
    let t ← table
    let state ← onStack fun s => s.state v
    let next := t.nextState state missing
    if next = 0 || next = state || !t.reducesFirst next token.symbol then
      insertMissing v position token rest
    else
      changeLexer fun text x => (Lexer.reset text position x).markEnd
      let stop := ((← lexer).tokenEnd.getD .zero)
      let copy ← useStack fun s => s.copyVersion v
      let tree := Tree.missing t missing (stop.sub position)
      changeStack fun s => s.push copy (some tree) next
      let symbol := if token.symbol = 0 then none else some token.symbol
      if ← reduceAll copy symbol then return true else insertMissing v position token rest

/-- Makes versions lost, one of which may get a missing token. -/
def loseVersions (position : TextLength) (token : Tree) : Bool → List Nat → Parsing Unit
  | _, [] => return
  | isInserted, v :: rest => do
    let tokens := (List.range ((← table).tokenCount % 0x10000)).drop 1
    let isInserted ← if isInserted then pure true else insertMissing v position token tokens
    changeStack fun s => s.push v none ParseTable.errorState
    loseVersions position token isInserted rest

/-- Makes a version lost, and goes on. -/
def loseWay (v : Nat) (token : Tree) : Parsing Unit := do
  let before ← onStack ParseStack.size
  discard (reduceAll v none)
  let versions := (List.range (← onStack ParseStack.size)).drop before
  let position ← onStack fun s => s.position v
  loseVersions position token false (v :: versions)
  changeStack fun s =>
    versions.foldl (fun s _ => (s.merge? v before).getD s) s
  changeStack fun s => s.recordLevels v
  recover v token

end Parsing
end GrammarAssay
