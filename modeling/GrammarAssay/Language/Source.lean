import GrammarAssay.Language.Layout

/-!
# Where languages stand

**Input.** An entry point hands over tables that are written down, or the address of tables in memory.

**Algorithm.** Tables that are written down stay as they are. Tables in memory are read whenever they are
asked for something, since code can change them.

**Results.**
* `LanguageSource`: where the tables of a language stand.
* `LanguageSource.facts`: what the tables tell about themselves.
* `LanguageSource.hasKind`, `LanguageSource.hasField`: what the lookups find.
-/

namespace GrammarAssay

/-- Where the tables of a language stand. -/
inductive LanguageSource where
  | written (language : Language)
  | stored (address : UInt64)
deriving DecidableEq

namespace LanguageSource

/-- What the tables tell about themselves. -/
def facts (m : Memory) : LanguageSource → Language.Facts
  | written l => l.toFacts
  | stored address => Layout.facts m address

/-- Does the lookup of a named node kind find a text? -/
def hasKind (m : Memory) (kind : String) : LanguageSource → Bool
  | written l => l.hasKind kind
  | stored address => Layout.hasKind m address kind

/-- Does the lookup of a field find a text? -/
def hasField (m : Memory) (field : String) : LanguageSource → Bool
  | written l => l.hasField field
  | stored address => Layout.hasField m address field

end LanguageSource
end GrammarAssay
