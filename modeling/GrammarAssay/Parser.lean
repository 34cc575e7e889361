import GrammarAssay.Language.Source
import GrammarAssay.Parser.Run

/-!
# Parsers

**Input.** Where the tables of a language stand, and a text.

**Algorithm.** A parser takes tables of a supported format. A text is parsed with tables that are written down
to the root that they list, and with tables in memory as these tell; their code can change memory.

**Results.**
* `Parser.ofSource`: a parser for a language, or the reason why there is none.
* `Parser.parse`: the kind of the root of a text's tree.
-/

namespace GrammarAssay

/-- A parser, which gives no tree until a language is set. -/
structure Parser where
  source : Option LanguageSource
deriving DecidableEq

namespace Parser

/-- A parser without a language. -/
def unset : Parser :=
  ⟨none⟩

/-- Why a parser does not take tables. -/
def refusal (f : Language.Facts) : String :=
  "Incompatible language version " ++ Text.decimal f.version.toNat ++
    ". Expected minimum " ++ Text.decimal Language.Facts.minVersion.toNat ++
    ", maximum " ++ Text.decimal Language.Facts.maxVersion.toNat

/-- A parser for a language, or the reason why there is none. -/
def ofSource (m : Memory) (s : LanguageSource) : Except String Parser :=
  let f := s.facts m
  if f.isSupported then .ok ⟨some s⟩ else .error (refusal f)

/-- The kind of the root of a text's tree, if the parser gives a tree. -/
def parse (p : Parser) (text : String) : StateM Linker (Option String) :=
  match p.source with
  | none => return none
  | some (.written l) => return l.rootKind text
  | some (.stored address) => modifyGet fun l => Parse.rootOf l address text

end Parser
end GrammarAssay
