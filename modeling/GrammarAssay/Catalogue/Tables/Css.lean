import GrammarAssay.Language.Table

/-!
# Tables of the built-in CSS grammar
-/

namespace GrammarAssay
namespace Tables

/-- The tables of the built-in CSS grammar. -/
def css : Language :=
  .ofTable
    { version := 14
      symbolCount := 144
      fieldCount := 0
      root := "stylesheet"
      exceptions := []
      fields := []
      kinds :=
        ["adjacent_sibling_selector arguments at_keyword at_rule attribute_name attribute_selector",
         "binary_expression binary_query block call_expression charset_statement child_selector",
         "class_name class_selector color_value comment declaration descendant_selector",
         "escape_sequence feature_name feature_query float_value from function_name grid_value",
         "id_name id_selector identifier import_statement important integer_value js_comment",
         "keyframe_block keyframe_block_list keyframes_name keyframes_statement keyword_query",
         "media_statement namespace_name namespace_selector namespace_statement nesting_selector",
         "parenthesized_query parenthesized_value plain_value postcss_statement property_name",
         "pseudo_class_selector pseudo_element_selector rule_set selector_query selectors",
         "sibling_selector string_content string_value stylesheet supports_statement tag_name to",
         "unary_query unit universal_selector"] }

end Tables
end GrammarAssay
