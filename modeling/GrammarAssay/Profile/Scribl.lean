import GrammarAssay.Profile

/-!
# The Scribl grammar

**Results.**
* `Scribl.grammarName`: its name in file names and symbols.
* `Scribl.displayName`: its name in messages.
* `Scribl.profile`: the visible node kinds and the fields that it declares, and its smallest
  complete program, one assignment.
-/

namespace GrammarAssay
namespace Scribl

/-- The name in file names and symbols. -/
def grammarName : String := "scribl"

/-- The name in messages. -/
def displayName : String := "Scribl"

/-- What every build of the grammar declares. -/
def profile : Profile :=
  { kinds :=
      ["block", "statement", "identifier", "number", "string", "template_string",
       "template_variable", "iterator", "function", "call_expression", "member_expression",
       "subscript_expression", "unary_expression", "binary_expression", "assignment_expression",
       "comment"]
    fields := ["left", "right", "operator", "argument"]
    sample := some ⟨"x = 1;\n", "block"⟩ }

end Scribl
end GrammarAssay
