import GrammarAssay.Proofs.Assay.Violation
import GrammarAssay.Proofs.Library.FileName
import GrammarAssay.Proofs.Linker.Alone
import GrammarAssay.Text.Utf8.RoundTrip

/-!
# Loading a described library

**Input.** A file with a described library that is not in memory, and the name under which it is asked for.

**Algorithm.** The library comes to those in memory. It needs nothing, and there is nothing in it to relocate or
to initialise. So it is loaded with itself alone as its scope, and its entry point is looked up there.

**Results.**
* `standsAlone_of_described`: a described library asks for nothing.
* `load_described`: the library comes to those in memory, and is loaded.
* `lookEntry_described`: its entry point is found exactly if it is exported.
* `outcome_loadAt_described`: the entry point returns the language of the description.
* `findPath_of_resolve`: a path without a dollar sign is opened as it is spelled.
* `load_start_described`, `outcome_loadAt_start_described`, `delivers_start_described`: a program that has opened
  nothing loads a described library.
-/

namespace GrammarAssay
namespace Linker

variable {t : FileTree} {l : Linker} {path : Path} {number : Nat} {lib : Library}

/-- The library in memory that a file becomes that holds a described library. -/
def describedModule (t : FileTree) (l : Linker) (path : Path) (f : OpenedFile) (lib : Library) :
    Module :=
  { moduleOf t l program path f with body := .described lib }

/-- The libraries in memory when a described library was loaded. -/
def withDescribed (t : FileTree) (l : Linker) (path : Path) (f : OpenedFile) (lib : Library) :
    Linker :=
  l.enter { describedModule t l path f lib with scope := [l.opened] } l.memory
    (l.free + 2 * Module.exportRoom)

theorem standsAlone_of_described {m : Module} (h : m.body = .described lib) : m.StandsAlone where
  wanted := fun memory => by rw [Module.wanted, h]
  relocate := fun scope l => by
    rw [relocate, h]
    rfl
  prepare := fun l => by
    rw [prepare, Module.table?, h]
    rfl

/-- The library comes to those that were in memory when its file was found. -/
theorem load_described {f : OpenedFile} {m : Linker} (hl : l.Numbered)
    (hnamed : l.named? path = none) (hfind : (find t program path).run l = (.ok f, m))
    (hcontent : f.content = .library lib) (hfile : m.ofFile? f.number = none) :
    l.load t path = (.ok l.opened, withDescribed t m path f lib) := by
  have henter : enterFile t m program path f =
      .ok (m.enter (describedModule t m path f lib) m.memory (m.free + 2 * Module.exportRoom)) := by
    rw [enterFile, hcontent]
    rfl
  exact load_alone hl hnamed hfind hfile henter rfl rfl rfl (standsAlone_of_described rfl)
    (standsAlone_of_described rfl)

theorem module?_withDescribed (t : FileTree) (path : Path) (f : OpenedFile) (lib : Library)
    (hl : l.Numbered) : (withDescribed t l path f lib).module? l.opened =
      some { describedModule t l path f lib with scope := [l.opened] } :=
  module?_enter hl rfl _ _

/-- What a name means in a described library. -/
theorem define?_described {m : Module} {n : Nat} (hmodule : l.module? n = some m)
    (hbody : m.body = .described lib) (s : String) :
    l.define? [n] (Text.Utf8.encode s) false =
      (lib.exports.idxOf? s).map fun i => (m, ⟨m.exportAddress i, 0, false, false⟩) := by
  simp only [define?, List.findSome?_cons, List.findSome?_nil, hmodule, Module.define?, hbody,
    Text.Utf8.decode?_encode, Option.bind_some, Option.bind_eq_bind]
  cases lib.exports.idxOf? s with
  | none => rfl
  | some i => rfl

/-- What a lookup finds in a described library that is its own scope. -/
theorem lookIn_described {m : Module} {n : Nat} (hmodule : l.module? n = some m)
    (hbody : m.body = .described lib) (hscope : m.scope = [n]) (s : String) :
    l.lookIn n (Text.Utf8.encode s) =
      ((lib.exports.idxOf? s).map fun i => (m, ⟨m.exportAddress i, 0, false, false⟩), l) := by
  rw [lookIn, hmodule, Option.map_some, Option.getD_some, hscope, look,
    define?_described hmodule hbody]
  cases lib.exports.idxOf? s with
  | none => rfl
  | some i => rfl

end Linker

/-- Is the name that a lookup of a symbol compares among the exports of a library? -/
def Library.Exports (lib : Library) (symbol : String) : Prop :=
  ∃ s, soughtSymbol? symbol = some s ∧ s ∈ lib.exports

section Opening

variable {t : FileTree} {l : Linker} {path : Path} {number : Nat} {lib : Library} {name : String}

/-- An entry point is found in a described library exactly if it is exported. -/
theorem Library.lookEntry_described {m : Module} {n : Nat} (hmodule : l.module? n = some m)
    (hbody : m.body = .described lib) (hscope : m.scope = [n]) (symbol : String) :
    (lib.Exports symbol → ∃ binding, lookEntry l n symbol = (some (m, binding), l)) ∧
      (¬ lib.Exports symbol → lookEntry l n symbol = (none, l)) := by
  have hlook := Linker.lookIn_described hmodule hbody hscope
  constructor
  · rintro ⟨s, hs, hmem⟩
    cases hi : lib.exports.idxOf? s with
    | none => exact absurd hmem (List.idxOf?_eq_none_iff.mp hi)
    | some i =>
        refine ⟨⟨m.exportAddress i, 0, false, false⟩, ?_⟩
        rw [lookEntry, hs]
        dsimp only
        rw [hlook, hi]
        rfl
  · intro hnot
    rw [lookEntry]
    cases hs : soughtSymbol? symbol with
    | none => rfl
    | some s =>
        have hnone : lib.exports.idxOf? s = none :=
          List.idxOf?_eq_none_iff.mpr fun hmem => hnot ⟨s, hs, hmem⟩
        dsimp only
        rw [hlook, hnone]
        rfl

/-- What a described library delivers that is loaded for a grammar. -/
theorem Loader.outcome_loadAt_described {n : Nat} {m : Linker} {home : Module}
    (hfile : t.isFile path = true) (hload : l.load t path = (.ok n, m))
    (hmodule : m.module? n = some home) (hbody : home.body = .described lib)
    (hscope : home.scope = [n]) :
    (lib.Exports (Library.entrySymbol name) →
      (loadAt t name path).outcome l = (.ok ⟨lib.entry.map .written, some n⟩, m)) ∧
    (¬ lib.Exports (Library.entrySymbol name) →
      (loadAt t name path).outcome l =
        (.error (.noEntryPoint (Library.entrySymbol name)), m)) := by
  obtain ⟨hfound, hmissing⟩ :=
    Library.lookEntry_described hmodule hbody hscope (Library.entrySymbol name)
  constructor
  · intro hexports
    obtain ⟨binding, hlook⟩ := hfound hexports
    rw [outcome_loadAt, Library.outcome_openAt, if_pos hfile, hload]
    simp only [hlook, EntryPoint.language, hbody]
    rfl
  · intro hnot
    rw [outcome_loadAt, Library.outcome_openAt, if_pos hfile, hload]
    simp only [hmissing hnot]

/-- A path with a slash that is handed over as it is spelled, and that is no name of what every program is
started with. -/
structure Path.Plain (path : Path) : Prop where
  slash : path.bytes.contains slash = true
  dollar : dollar ∉ path.bytes
  unknown : path ∉ Platform.startNames

namespace Linker

theorem opened_start : start.opened = 1 := by
  rfl

/-- A path that is no name of what every program is started with. -/
theorem named?_start (hunknown : path ∉ Platform.startNames) : start.named? path = none := by
  refine List.find?_eq_none.mpr ?_
  intro m hm
  rw [List.mem_singleton.mp hm]
  simpa [program] using hunknown

/-- What a path without a dollar sign leads to is opened as it is spelled. -/
theorem findPath_of_resolve (user : Module) (hdollar : Path.dollar ∉ path.bytes)
    {content : Content} (hresolve : t.resolve path = .ok (.file number content)) :
    findPath t user path =
      match checkHeader path content with
      | .ok _ => .ok ⟨path, number, content⟩
      | .error (.broken words) => .error words
      | .error .wordSize => .error (refusal path ImageFault.wordSize.reason)
      | .error (.obstacle o) => .error (notFound path o) := by
  have hexpand : path.expand (originOf t user) = path := by
    rw [Path.expand, Path.expandBytes_of_notMem _ _ hdollar]
  rw [findPath, hexpand, openFile, hresolve]
  dsimp only
  cases checkHeader path content with
  | ok _ => rfl
  | error e => cases e <;> rfl

/-- A described library is found at its path, whatever is in memory. -/
theorem find_described (hpath : path.Plain)
    (hresolve : t.resolve path = .ok (.file number (.library lib))) (user : Module) (l : Linker) :
    (find t user path).run l = (.ok ⟨path, number, .library lib⟩, l) := by
  rw [find, if_pos hpath.slash, findPath_of_resolve user hpath.dollar hresolve]
  rfl

/-- A program that has opened nothing loads a described library. -/
theorem load_start_described (hpath : path.Plain)
    (hresolve : t.resolve path = .ok (.file number (.library lib))) :
    start.load t path =
      (.ok 1, withDescribed t start path ⟨path, number, .library lib⟩ lib) := by
  have hload := load_described numbered_start (named?_start hpath.unknown)
    (find_described hpath hresolve program start) rfl rfl
  rwa [opened_start] at hload

end Linker

/-- How a program that has opened nothing gets at a described library. -/
theorem Loader.outcome_loadAt_start_described (hpath : path.Plain)
    (hresolve : t.resolve path = .ok (.file number (.library lib))) (name : String) :
    (lib.Exports (Library.entrySymbol name) →
      (loadAt t name path).outcome Linker.start =
        (.ok ⟨lib.entry.map .written, some 1⟩,
          Linker.withDescribed t Linker.start path ⟨path, number, .library lib⟩ lib)) ∧
    (¬ lib.Exports (Library.entrySymbol name) →
      (loadAt t name path).outcome Linker.start =
        (.error (.noEntryPoint (Library.entrySymbol name)),
          Linker.withDescribed t Linker.start path ⟨path, number, .library lib⟩ lib)) := by
  have hfile : t.isFile path = true := by
    rw [FileTree.isFile, hresolve]
  have hmodule := Linker.module?_withDescribed t path ⟨path, number, .library lib⟩ lib
    Linker.numbered_start
  -- The number is rewritten rather than computed: `start` holds all names that the system defines.
  rw [Linker.opened_start] at hmodule
  exact outcome_loadAt_described hfile (Linker.load_start_described hpath hresolve) hmodule rfl rfl

end Opening

/-- The library of a grammar `x`. -/
def libraryOfX : Library :=
  ⟨["tree_sitter_x"], Language.withRoot? 14 "program" [] []⟩

theorem exports_libraryOfX : libraryOfX.Exports (Library.entrySymbol "x") :=
  ⟨"tree_sitter_x", by decide, by decide⟩

theorem slash_notMem_x : '/' ∉ "x".toList := by
  decide

/-- The name of its file. -/
def fileOfX : Name :=
  Library.nameOf "x" slash_notMem_x

end GrammarAssay
