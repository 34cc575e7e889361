import GrammarAssay.Language.Table

/-!
# Tables of the built-in HTML grammar
-/

namespace GrammarAssay
namespace Tables

/-- The tables of the built-in HTML grammar. -/
def html : Language :=
  .ofTable
    { version := 14
      symbolCount := 41
      fieldCount := 0
      root := "document"
      exceptions := []
      fields := []
      kinds :=
        ["attribute attribute_name attribute_value comment doctype document element end_tag entity",
         "erroneous_end_tag erroneous_end_tag_name quoted_attribute_value raw_text script_element",
         "self_closing_tag start_tag style_element tag_name text"] }

end Tables
end GrammarAssay
