import GrammarAssay.Linker.Fetch

/-!
# Libraries that are needed

**Input.** A library in memory.

**Algorithm.** What the library needs is fetched first, in the order in which it names its needs; then what
these need, and so on. The first library that cannot be fetched ends it, unless it may be missing. Some needs
come in front of the library that names them, and all others at the end. The libraries are linked in
another order: every one behind those that it needs, as far as a walk from the last to the first finds them
to be free of circles, and the library that was asked for behind all others.

**Results.**
* `Linker.gather`: a library with all that it needs, every one once.
* `Linker.linkOrder`: the order in which they are linked.
-/

namespace GrammarAssay
namespace Linker

/-- Fetches a library that is needed, if it is there or has to be. -/
def fetchNeed (t : FileTree) (user : Module) (need : Need) : Linking (Option Nat) :=
  match need.kind with
  | .plain | .filter => some <$> fetch t user need.name
  | .auxiliary => tryCatch (some <$> fetch t user need.name) fun _ => return none

/-- Puts a library in front of another one, unless it is in front already. -/
def putBefore (n user : Nat) (found : List Nat) : List Nat :=
  let front := found.takeWhile (· != user)
  if n = user || front.contains n then found
  else front ++ n :: ((found.dropWhile (· != user)).filter (· != n))

/-- Puts a library where its kind of need wants it. -/
def place (kind : NeedKind) (n user : Nat) (found : List Nat) : List Nat :=
  match kind with
  | .plain => if found.contains n then found else found ++ [n]
  | .auxiliary | .filter => putBefore n user found

/-- Fetches the libraries that a library needs, and adds them to those that were found. -/
def fetchNeeds (t : FileTree) (user : Module) : List Need → List Nat → Linking (List Nat)
  | [], found => return found
  | need :: rest, found => do
    match ← fetchNeed t user need with
    | none => fetchNeeds t user rest found
    | some n =>
      modifyThe Linker fun l => l.change user.number fun m => { m with needs := m.needs ++ [n] }
      fetchNeeds t user rest (place need.kind n user.number found)

/-- Fetches what the libraries of a list need, the first of them first, as far as that is not done. -/
def gatherFrom (t : FileTree) : Nat → List Nat → List Nat → Linking (List Nat)
  | 0, _, found => return found
  | bound + 1, done, found => do
    let l ← getThe Linker
    match (found.find? fun n => !done.contains n).bind l.module? with
    | none => return found
    | some m =>
      modifyThe Linker fun l => l.change m.number fun m => { m with needs := [] }
      let found ← fetchNeeds t m (m.wanted l.memory) found
      gatherFrom t bound (m.number :: done) found

/-- A library with all that it needs. No file becomes two libraries, which bounds their number. -/
def gather (t : FileTree) (number : Nat) : Linking (List Nat) := do
  gatherFrom t ((← getThe Linker).modules.length + t.nodes.length + 1) [] [number]

/-- Walks to a library, and lists it behind those that it needs, unless it was walked to before. The
needs of the library `root` do not count. -/
def walkNeeds (l : Linker) (root : Nat) : Nat → List Nat × List Nat → Nat → List Nat × List Nat
  | 0, state, _ => state
  | bound + 1, (seen, listed), n =>
    if seen.contains n then (seen, listed)
    else
      let needs := if n = root then [] else ((l.module? n).map Module.needs).getD []
      let (seen, listed) := needs.foldl (walkNeeds l root bound) (n :: seen, listed)
      (seen, listed ++ [n])

/-- The order in which a library and those that it needs are linked. -/
def linkOrder (l : Linker) (root : Nat) (scope : List Nat) : List Nat :=
  let (_, listed) := scope.reverse.foldl (walkNeeds l root scope.length) ([], [])
  (listed.filter fun n => n != root) ++ [root]

end Linker
end GrammarAssay
