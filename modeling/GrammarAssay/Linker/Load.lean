import GrammarAssay.Linker.Needs
import GrammarAssay.Linker.Relocation

/-!
# Loading libraries

**Input.** A file tree, the libraries in memory, and a path.

**Algorithm.** A library that is there already with all that it needs is taken. Otherwise it is fetched, and
so is what it needs. The libraries that are new are relocated, and then their initialisers run. If anything
goes wrong, the libraries that are new are taken out of memory again.

**Results.**
* `Linker.load`: the number of the library at a path, or the words in which it is refused.
* `Linker.lookIn`: what a name stands for in a loaded library and in those that it needs.
-/

namespace GrammarAssay
namespace Linker

/-- The arguments of an initialiser: the program was started with its name alone. -/
def initialArguments : List UInt64 :=
  [1, 0, 0]

/-- Runs the initialisers of a library: the one that it names by itself, then those of its list, each of
which is read when the ones before have run. -/
def prepare (m : Module) : StateM Linker Unit := do
  match m.table? with
  | none => return
  | some t =>
    for function in (t.address? .initializer).toList do
      modify fun l => (l.call function initialArguments).2
    for place in t.functionPlaces .initializers .initializerSize do
      modify fun l => (l.call (l.memory.word place) initialArguments).2

/-- Links the libraries of a list that are new. -/
def link (first : Nat) (scope order : List Nat) : Linking Unit := do
  let l ← getThe Linker
  let new := (order.filter fun n => first ≤ n).filterMap l.module?
  new.forM (relocate scope)
  new.forM fun m => prepare m

/-- Loads a library with all that it needs. What is new is not taken out again if that fails. -/
def loadNew (t : FileTree) (path : Path) : Linking Nat := do
  let first := (← getThe Linker).opened
  let number ← fetch t program path
  let l ← getThe Linker
  if (l.module? number).any fun m => m.scope.isEmpty then
    let scope ← gather t number
    modifyThe Linker fun l => l.change number fun m => { m with scope := scope }
    link first scope ((← getThe Linker).linkOrder number scope)
  return number

/-- Loads a library with all that it needs. -/
def load (t : FileTree) (l : Linker) (path : Path) : Except String Nat × Linker :=
  match (loadNew t path).run l with
  | (.ok number, after) => (.ok number, after)
  | (.error words, after) => (.error words, after.select fun n => n < l.opened)

/-- What a name stands for in a loaded library and in those that it needs. -/
def lookIn (l : Linker) (number : Nat) (name : Bytes) : Option (Module × Binding) × Linker :=
  l.look (((l.module? number).map Module.scope).getD []) name false

end Linker
end GrammarAssay
