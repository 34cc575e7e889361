import GrammarAssay.Linker
import GrammarAssay.Linker.Directories

/-!
# Fetching libraries

**Input.** A file tree, the libraries in memory, the one among them that asks for a library, and the name
for which it asks.

**Algorithm.** A library in memory that has the name is taken. Otherwise a name with a slash is a path. Its
placeholders are replaced as the library that asks wants it. A bare name is looked for in lists of
directories: those of the library that asks and of the ones that asked for it, unless it has a list for
itself alone; then its own list; at last the directories of the system. A file that is found may be in
memory already, under other names. If it is not, its segments are put there.

**Results.**
* `Linking`: an action on the libraries in memory that can fail, with the words that tell why.
* `Linker.fetch`: the number of the library with a name.
-/

namespace GrammarAssay

/-- An action on the libraries in memory. What it did before it fails is not undone. -/
abbrev Linking := ExceptT String (StateM Linker)

namespace Linker

/-- A library with those that asked for it, from the last to the first. -/
def askers (l : Linker) : Nat → Module → List Module
  | 0, _ => []
  | bound + 1, m =>
    m :: ((m.user.bind l.module?).map (askers l bound)).getD []

/-- The directories in a list of a library. -/
def listedIn (l : Linker) (list? : Memory → LinkTable → Option Bytes) (m : Module) : List Path :=
  ((m.table?.bind (list? l.memory)).map (directoriesOf m.directory)).getD []

/-- The lists of directories in which a library looks for bare names. -/
def lists (l : Linker) (m : Module) : List (List Path) :=
  let own := l.listedIn LinkTable.directories? m
  let ownList := m.table?.bind (LinkTable.directories? l.memory)
  let inherited :=
    if ownList.isSome then []
    else (l.askers l.modules.length m).map (l.listedIn LinkTable.inheritedDirectories?)
  let system := if m.table?.any LinkTable.avoidsSystem then [] else Platform.directories
  inherited ++ [own, system]

/-- The directory from which a library that asks for a name was opened, or the program was started. -/
def originOf (t : FileTree) (user : Module) : Path :=
  if user.number = 0 then t.programDirectory else user.directory

/-- The file that a path with a slash leads to, for a library that asks for a name. -/
def findPath (t : FileTree) (user : Module) (name : Path) : Except String OpenedFile :=
  match openFile t (name.expand (originOf t user)) with
  | .ok f => .ok f
  | .error (.broken words) => .error words
  | .error .wordSize => .error (refusal name ImageFault.wordSize.reason)
  | .error (.obstacle o) => .error (notFound name o)

/-- What a search gives at its end. -/
def settle (name : Path) (r : Trail) : Except String OpenedFile :=
  match r.result with
  | some result => result
  | none =>
    if r.sawWordSize then .error (refusal name ImageFault.wordSize.reason)
    else .error (notFound name r.obstacle)

/-- The file with a bare name. -/
def findBare (t : FileTree) (user : Module) (name : Path) : Linking OpenedFile := do
  let l ← getThe Linker
  let r := (l.lists user).foldl (Trail.follow t name) (Trail.fresh l.missing)
  modifyThe Linker fun l => { l with missing := r.missing }
  MonadExcept.ofExcept (settle name r)

/-- The directory in which the file of a path stands; nothing is looked up for it. -/
def directoryOf (t : FileTree) (path : Path) : Path :=
  let here : Path := ⟨t.workingDirectory.flatMap fun n => slash :: n.bytes⟩
  let b := (here.join path).bytes
  let front := ((b.reverse.dropWhile (· != slash)).drop 1).reverse
  ⟨if front.isEmpty then [slash] else front⟩

/-- The next library, made from a file that was found under a name. -/
def moduleOf (t : FileTree) (l : Linker) (user : Module) (name : Path) (f : OpenedFile) : Module :=
  { number := l.opened
    path := f.path
    names := [f.path, name]
    file := some f.number
    base := l.free
    body := .described ⟨[], none⟩
    directory := directoryOf t f.path
    user := some user.number
    needs := []
    scope := [] }

/-- Adds a library that leaves memory free from an address on. -/
def enter (l : Linker) (m : Module) (memory : Memory) (free : UInt64) : Linker :=
  { l.setMemory memory with
    modules := l.modules ++ [m]
    opened := l.opened + 1
    free := free }

/-- Puts the image in a file into memory. -/
def enterImage (l : Linker) (m : Module) (name : Path) (bytes : Filler) : Except String Linker :=
  match Image.mappingFault? bytes with
  | some e => .error (refusal name e.reason)
  | none =>
    let file := Image.map bytes l.free
    let memory := l.memory.map file
    let table := Image.table memory bytes file.base
    match Image.tableFault? table with
    | some e => .error (refusal name e.reason)
    | none =>
      let m :=
        { m with
          names := m.names ++ (table.ownName? memory).toList
          base := file.base
          body := .image table (Image.sealed bytes) (Image.threadData bytes) }
      .ok (l.enter m memory (file.start + file.extent + pageSize))

/-- Puts what a file holds into memory. -/
def enterFile (t : FileTree) (l : Linker) (user : Module) (name : Path) (f : OpenedFile) :
    Except String Linker :=
  let m := moduleOf t l user name f
  match f.content with
  | .library lib =>
    .ok (l.enter { m with body := .described lib } l.memory (l.free + 2 * Module.exportRoom))
  | .filler bytes => l.enterImage m name bytes

/-- The file with a name. -/
def find (t : FileTree) (user : Module) (name : Path) : Linking OpenedFile :=
  if name.bytes.contains slash then MonadExcept.ofExcept (findPath t user name)
  else findBare t user name

/-- The number of the library with a name, which is put into memory if it is not there. -/
def fetch (t : FileTree) (user : Module) (name : Path) : Linking Nat := do
  match (← getThe Linker).named? name with
  | some m => return m.number
  | none =>
    let f ← find t user name
    let l ← getThe Linker
    match l.ofFile? f.number with
    | some m =>
      set (l.addName m.number name)
      return m.number
    | none =>
      set (← MonadExcept.ofExcept (enterFile t l user name f))
      return l.opened

end Linker
end GrammarAssay
