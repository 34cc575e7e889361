import GrammarAssay.Catalogue
import GrammarAssay.Path

/-!
# Where a grammar comes from

**Results.**
* `Origin`: the places that a grammar can come from.
* `Origin.display`: the place as text.
* `Origin.same`: whether two places are the same, paths being compared by their components.
-/

namespace GrammarAssay

/-- Where a grammar comes from. -/
inductive Origin where
  /-- The grammar is built in. -/
  | builtIn (grammar : BuiltIn)
  /-- The grammar is a library at a fixed path. -/
  | library (name : String) (path : Path)
  /-- The grammar is a library in one of several directories. -/
  | search (name : String) (paths : List Path)
  /-- The grammar is an entry point that was handed over. -/
  | entryPoint (id : String)
deriving DecidableEq

namespace Origin

/-- The place as text. -/
def display : Origin → String
  | .builtIn g => "builtin:" ++ g.id
  | .library _ path => "library:" ++ path.display
  | .search name paths => "search:" ++ name ++ " (" ++ Text.decimal paths.length ++ " paths)"
  | .entryPoint id => "fn:" ++ id

/-- Do two lists hold the same paths in the same order? -/
def samePaths : List Path → List Path → Bool
  | [], [] => true
  | p :: ps, q :: qs => p.same q && samePaths ps qs
  | _, _ => false

/-- Are two places the same? -/
def same : Origin → Origin → Bool
  | .builtIn g, .builtIn h => g == h
  | .library n p, .library m q => n == m && p.same q
  | .search n ps, .search m qs => n == m && samePaths ps qs
  | .entryPoint a, .entryPoint b => a == b
  | _, _ => false

end Origin
end GrammarAssay
