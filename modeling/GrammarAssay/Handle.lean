import GrammarAssay.Fault
import GrammarAssay.Parser
import GrammarAssay.Text.Quoted

/-!
# Handles

**Input.** A handle holds a language that passed an assay, under the name of its grammar, and the library
in which the language stands. What a language in memory tells can change.

**Results.**
* `Handle.facts`: what the language tells about itself.
* `Handle.parser`: a parser for the language.
* `Handle.parse`: the kind of the root of a text's tree.
* `Handle.describe`: the handle as text.
-/

namespace GrammarAssay

/-- A usable language, with the number of the library in which it stands. -/
structure Handle where
  grammar : String
  source : LanguageSource
  library : Option Nat
deriving DecidableEq

namespace Handle

/-- Does the language stand in a library? -/
def isDynamic (h : Handle) : Bool :=
  h.library.isSome

/-- What the language tells about itself. -/
def facts (h : Handle) (m : Memory) : Language.Facts :=
  h.source.facts m

/-- A parser for the language of the handle. -/
def parser (h : Handle) (m : Memory) : Except Fault Parser :=
  (Parser.ofSource m h.source).mapError fun reason => ⟨h.grammar, .refusedByParser reason⟩

/-- The kind of the root of a text's tree. -/
def parse (h : Handle) (text : String) : StateM Linker (Except Fault (Option String)) := do
  match h.parser (← get).memory with
  | .ok p => return .ok (← p.parse text)
  | .error f => return .error f

/-- The handle as text. -/
def describe (h : Handle) (m : Memory) : String :=
  "LanguageHandle \x7b grammar: " ++ Text.Quoted.quote h.grammar ++
    ", abi_version: " ++ Text.decimal (h.facts m).version.toNat ++
    ", node_kind_count: " ++ Text.decimal (h.facts m).nodeKindCount.toNat ++
    ", dynamic: " ++ (if h.isDynamic then "true" else "false") ++ " \x7d"

end Handle
end GrammarAssay
