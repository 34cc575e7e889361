import GrammarAssay.Search
import GrammarAssay.Tool

/-!
# The tool that lists the grammars

**Results.**
* `Listing.entries`: the built-in grammars in the order of the catalogue, then the libraries in the
  search paths by name.
* `Listing.run`: the answer of the tool.
-/

namespace GrammarAssay
namespace Listing

/-- The entry of a built-in grammar. -/
def ofBuiltIn (g : BuiltIn) : Json :=
  .obj [("id", .str g.id), ("name", .str g.name), ("source", .str "builtin")]

/-- The entry of a library. -/
def ofFound (f : Search.Found) : Json :=
  .obj [("id", .str f.name), ("name", .str f.name), ("source", .str "library"),
    ("path", .str f.path.display)]

/-- All entries. -/
def entries (t : FileTree) (paths : List Path) : List Json :=
  BuiltIn.all.map ofBuiltIn ++ (Search.discover t paths).map ofFound

/-- The answer of the tool. -/
def run (t : FileTree) (paths : List Path) : Except ToolFault ToolResult :=
  ToolResult.ofJson (.arr (entries t paths))

end Listing
end GrammarAssay
