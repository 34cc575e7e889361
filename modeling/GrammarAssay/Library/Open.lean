import GrammarAssay.Fault
import GrammarAssay.Language.Source
import GrammarAssay.Linker.Load

/-!
# Opening libraries

**Input.** A file tree, the libraries in memory, a path, and the name of the grammar whose library is
thought to be there.

**Algorithm.** The path has to lead to a regular file, which is loaded as a library with all that it needs.
The entry point is looked up in all of them. It returns the language: a described one as it is described, and
a compiled one as its tables stand in memory. It is called once to see whether there is a language, and once
more for the language.

**Results.**
* `EntryPoint`: an entry point that was found.
* `Opening`: an action on the libraries in memory that can fail.
* `Library.openAt`: the entry point of a grammar, or what is wrong.
* `EntryPoint.language`: the language that an entry point returns.
-/

namespace GrammarAssay

/-- An entry point: the library that was loaded, the one in which the entry point stands, and what it stands
for. -/
structure EntryPoint where
  library : Nat
  home : Module
  binding : Binding
deriving DecidableEq

/-- An action on the libraries in memory that can fail, with what is wrong. What it did before it fails is not
undone. -/
abbrev Opening := ExceptT Cause (StateM Linker)

namespace Library

/-- Looks up a symbol in a loaded library, if it has a name that can be looked up. -/
def lookEntry (l : Linker) (number : Nat) (symbol : String) :
    Option (Module × Binding) × Linker :=
  match soughtSymbol? symbol with
  | some s => l.lookIn number (Text.Utf8.encode s)
  | none => (none, l)

/-- Opens a library and looks up the entry point of a grammar. -/
def openAt (t : FileTree) (name : String) (path : Path) : Opening EntryPoint := do
  if !t.isFile path then throw (.noLibrary path.display)
  match ← modifyGetThe Linker fun l => l.load t path with
  | .error words => throw (.unopenable path.display words)
  | .ok number =>
    match ← modifyGetThe Linker fun l => lookEntry l number (entrySymbol name) with
    | some (home, binding) => return ⟨number, home, binding⟩
    | none => throw (.noEntryPoint (entrySymbol name))

end Library

namespace EntryPoint

/-- The language at an address that an entry point returned. -/
def sourceAt (l : Linker) (address : UInt64) : Option LanguageSource :=
  if address = 0 then none
  else
    match l.modules.findSome? fun m => m.languageAt? address with
    | some entry => entry.map .written
    | none => some (.stored address)

/-- Calls an entry point that is code. -/
def callTwice (e : EntryPoint) : StateM Linker (Option LanguageSource) := do
  let function ← Linker.addressOf (some (e.home, e.binding))
  if (← modifyGet fun l => l.call function []) = 0 then return none
  else
    let address ← modifyGet fun l => l.call function []
    return sourceAt (← get) address

/-- The language that an entry point returns. -/
def language (e : EntryPoint) : StateM Linker (Option LanguageSource) := do
  match e.home.body with
  | .described lib => return lib.entry.map .written
  | .image _ _ _ => e.callTwice

end EntryPoint
end GrammarAssay
