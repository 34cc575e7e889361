import GrammarAssay.Text.Digits

/-!
# Languages

**Input.** The tables that the entry point of a compiled grammar hands over.

**Algorithm.** A node kind is looked up among the named symbols that are visible or supertypes. The
lookup compares C strings and knows one kind of its own, `ERROR`, which it compares only as far as
the sought text goes.

**Results.**
* `Language.Facts`: what the tables tell about themselves.
* `Language`: the tables.
* `Language.Facts.isSupported`: whether the table format is one that a parser takes.
* `Language.hasKind`, `Language.hasField`: what the lookups find.
* `Language.rootKind`: the kind of the root of a text's tree.
-/

namespace GrammarAssay

/-- An entry of a symbol table. -/
structure Symbol where
  name : String
  visible : Bool
  named : Bool
  supertype : Bool
deriving DecidableEq

/-- A symbol that no lookup by name finds. -/
def Symbol.hidden (name : String) : Symbol :=
  ⟨name, false, false, false⟩

/-- A named and visible symbol. -/
def Symbol.node (name : String) : Symbol :=
  ⟨name, true, true, false⟩

/-- Can a lookup by name find the symbol? -/
def Symbol.isFindable (s : Symbol) : Bool :=
  s.named && (s.visible || s.supertype)

/-- What the tables of a grammar tell about themselves: the version of their format, and how many node kinds
and fields the grammar declares. -/
structure Language.Facts where
  version : UInt64
  nodeKindCount : UInt64
  fieldCount : UInt64
deriving DecidableEq

namespace Language.Facts

/-- The oldest table format that a parser takes. -/
def minVersion : UInt64 := 13

/-- The newest table format that a parser takes. -/
def maxVersion : UInt64 := 14

/-- Does a parser take the table format? -/
def isSupported (f : Facts) : Bool :=
  minVersion ≤ f.version && f.version ≤ maxVersion

end Language.Facts

/-- The tables of a grammar, as far as they are written down. Listed are the symbols and fields that a lookup can
come upon. The first symbol marks the end of the text, which no name finds. The automaton of the parser is left
out: texts parse to one root, but for the exceptions, which are listed with the root that they have. Of a
built-in grammar, whose parser refuses many texts more, two such texts are listed. -/
structure Language extends Language.Facts where
  symbols : List Symbol
  fields : List String
  root : Option String
  exceptions : List (String × String)
  isFindable_head : ∀ symbol ∈ symbols.head?, symbol.isFindable = false
  nodeKindCount_ne_zero : symbols ≠ [] → nodeKindCount ≠ 0
deriving DecidableEq

namespace Language

/-- The name of the kind that every language has. -/
def errorName : List Char :=
  ['E', 'R', 'R', 'O', 'R']

/-- Is a text taken for the error kind: the name, a beginning of it, or the name, NUL and anything?
-/
def matchesError (kind : List Char) : Bool :=
  kind.isPrefixOf errorName || (errorName ++ ['\x00']).isPrefixOf kind

/-- Does the lookup of a named node kind find the text? What stands behind the names in memory is not written
down, so no other text with a NUL inside is found. -/
def hasKind (l : Language) (kind : String) : Bool :=
  matchesError kind.toList ||
    (!kind.toList.contains '\x00' &&
      l.symbols.tail.any fun s => s.name == kind && s.isFindable)

/-- Does the lookup of a field find the text? -/
def hasField (l : Language) (field : String) : Bool :=
  l.fields.contains field

/-- The kind of the root of a text's tree, as far as it is written down. -/
def rootKind (l : Language) (text : String) : Option String :=
  (l.exceptions.lookup text).or l.root

/-- Tables without symbols and fields. -/
def empty (version : UInt64) : Language :=
  { version := version
    nodeKindCount := 0
    fieldCount := 0
    symbols := []
    fields := []
    root := none
    exceptions := []
    isFindable_head := by simp
    nodeKindCount_ne_zero := by simp }

/-- The symbols of a table with a root. Two hidden ones come first. -/
def rootedSymbols (root : String) (kinds : List Symbol) : List Symbol :=
  Symbol.hidden "end" :: Symbol.hidden "text" :: Symbol.node root :: kinds

/-- The symbols of a table with a root are counted, as long as 64 bits suffice. -/
theorem count_rootedSymbols_ne_zero {root : String} {kinds : List Symbol}
    (h : (rootedSymbols root kinds).length < UInt64.size) :
    UInt64.ofNat (rootedSymbols root kinds).length ≠ 0 := by
  intro hzero
  have hlength := congrArg UInt64.toNat hzero
  rw [UInt64.toNat_ofNat_of_lt' h] at hlength
  cases hlength

/-- Tables with a root, further symbols and a set of fields, for which every text parses. There are
none beyond 64 bits. -/
def withRoot? (version : UInt64) (root : String) (kinds : List Symbol) (fields : List String) :
    Option Language :=
  let symbols := rootedSymbols root kinds
  let fields := fields.eraseDups
  if h : symbols.length < UInt64.size ∧ fields.length < UInt64.size then
    some
      { version := version
        nodeKindCount := UInt64.ofNat symbols.length
        fieldCount := UInt64.ofNat fields.length
        symbols := symbols
        fields := fields
        root := some root
        exceptions := []
        isFindable_head := by simp [symbols, rootedSymbols, Symbol.hidden, Symbol.isFindable]
        nodeKindCount_ne_zero := fun _ => count_rootedSymbols_ne_zero h.1 }
  else none

end Language

end GrammarAssay
