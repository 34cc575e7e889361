import GrammarAssay.Language.Table

/-!
# Tables of the built-in Kotlin grammar
-/

namespace GrammarAssay
namespace Tables

/-- The tables of the built-in Kotlin grammar. -/
def kotlin : Language :=
  .ofTable
    { version := 14
      symbolCount := 289
      fieldCount := 8
      root := "source_file"
      exceptions := []
      fields :=
        ["argument condition label left name operator right type"]
      kinds :=
        ["annotated_expression annotated_lambda annotation anonymous_function anonymous_initializer",
         "as_expression assignment binary_expression block block_comment call_expression",
         "callable_reference catch_block character_literal class_body class_declaration",
         "class_member_declaration class_modifier class_parameter class_parameters",
         "collection_literal companion_object constructor_delegation_call constructor_invocation",
         "declaration delegation_specifier delegation_specifiers do_while_statement enum_class_body",
         "enum_entry escape_sequence explicit_delegation expression file_annotation finally_block",
         "float_literal for_statement function_body function_declaration function_modifier",
         "function_type function_type_parameters function_value_parameters getter identifier",
         "if_expression import in_expression index_expression infix_expression inheritance_modifier",
         "interpolation is_expression label labeled_expression lambda_literal lambda_parameters",
         "line_comment member_modifier modifiers multi_variable_declaration multiline_string_literal",
         "navigation_expression non_nullable_type nullable_type number_literal object_declaration",
         "object_literal package_header parameter parameter_modifier parameter_modifiers",
         "parenthesized_expression parenthesized_type platform_modifier primary_constructor",
         "primary_expression property_declaration property_delegate property_modifier",
         "qualified_identifier range_expression range_test reification_modifier return_expression",
         "secondary_constructor setter shebang source_file spread_expression statement",
         "string_content string_literal super_expression this_expression throw_expression",
         "try_expression type type_alias type_arguments type_constraint type_constraints",
         "type_modifiers type_parameter type_parameter_modifiers type_parameters type_projection",
         "type_test unary_expression use_site_target user_type value_argument value_arguments",
         "variable_declaration variance_modifier visibility_modifier when_entry when_expression",
         "when_subject while_statement"] }

end Tables
end GrammarAssay
