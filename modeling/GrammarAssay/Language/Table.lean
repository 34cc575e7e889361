import GrammarAssay.Language
import GrammarAssay.Text.Words

/-!
# Tables written down as words

**Input.** The names of a grammar's findable node kinds and of its fields, several to a line, with
the sizes of its two tables.

**Results.**
* `Language.ofTable`: the language. The symbol that marks the end comes first, then the named kinds.
-/

namespace GrammarAssay
namespace Language

/-- A grammar's tables as lines of words. The end of the text is a symbol too, so there are some. -/
structure Table where
  version : UInt64
  symbolCount : UInt64
  fieldCount : UInt64
  root : String
  exceptions : List (String × String)
  fields : List String
  kinds : List String
  symbolCount_ne_zero : symbolCount ≠ 0 := by decide

/-- The language of a table. -/
def ofTable (t : Table) : Language :=
  { version := t.version
    nodeKindCount := t.symbolCount
    fieldCount := t.fieldCount
    symbols := Symbol.hidden "end" :: (Text.words t.kinds).map Symbol.node
    fields := Text.words t.fields
    root := some t.root
    exceptions := t.exceptions
    isFindable_head := by simp [Symbol.hidden, Symbol.isFindable]
    nodeKindCount_ne_zero := fun _ => t.symbolCount_ne_zero }

end Language
end GrammarAssay
