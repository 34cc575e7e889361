import GrammarAssay.Library.Open
import GrammarAssay.Origin
import GrammarAssay.Search

/-!
# Loaders

**Input.** A loader knows where a grammar comes from and how to get at it.

**Results.**
* `Loader`: the ways of getting at a grammar.
* `Loader.origin`: where the grammar comes from.
* `Loader.load`: what the grammar's entry point returns, or what is wrong.
* `Loader.ofPath?`: the loader of a library whose file name tells the grammar.
-/

namespace GrammarAssay

/-- A way of getting at a grammar. -/
inductive Loader where
  | builtIn (grammar : BuiltIn)
  | entryPoint (id : String) (entry : Option Language)
  | library (name : String) (path : Path)
  | search (name : String) (paths : List Path)
deriving DecidableEq

/-- What an entry point returned, and the library that was loaded for it. -/
structure Artifact where
  entry : Option LanguageSource
  library : Option Nat
deriving DecidableEq

namespace Loader

/-- Where the grammar comes from. -/
def origin : Loader → Origin
  | .builtIn g => .builtIn g
  | .entryPoint id _ => .entryPoint id
  | .library name path => .library name path
  | .search name paths => .search name paths

/-- Opens the library of a grammar at a path. -/
def loadAt (t : FileTree) (name : String) (path : Path) : Opening Artifact := do
  let e ← Library.openAt t name path
  return ⟨← e.language, some e.library⟩

/-- Gets at the grammar. -/
def load (t : FileTree) : Loader → Opening Artifact
  | .builtIn g => return ⟨some (.written g.language), none⟩
  | .entryPoint _ entry => return ⟨entry.map .written, none⟩
  | .library name path => loadAt t name path
  | .search name paths =>
    match Search.locate t paths name with
    | none => throw (.notInSearchPaths (Library.fileName name) paths.length)
    | some path => loadAt t name path

/-- The grammar that the file name of a path tells. -/
def grammarOfPath? (path : Path) : Option String :=
  (path.fileName?.bind Name.text?).bind Library.grammarName?

/-- The loader of the library at a path whose file name tells the grammar. -/
def ofPath? (path : Path) : Option Loader :=
  (grammarOfPath? path).map fun name => .library name path

end Loader
end GrammarAssay
