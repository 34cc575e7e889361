import GrammarAssay.Language.Table

/-!
# Tables of the built-in Swift grammar
-/

namespace GrammarAssay
namespace Tables

/-- The tables of the built-in Swift grammar. -/
def swift : Language :=
  .ofTable
    { version := 14
      symbolCount := 541
      fieldCount := 45
      root := "source_file"
      exceptions := [("let", "ERROR")]
      fields :=
        ["body bound_identifier captures collection computed_value condition constrained_type",
         "constructed_type data_contents declaration_kind default_value definition element end error",
         "expr external_name if_false if_nil if_true inherits_from interpolation item key lhs",
         "must_equal must_inherit mutability name op operation operator params raw_value",
         "reference_specifier result return_type rhs start suffix target text type value wrapped"]
      kinds :=
        ["_expression additive_expression array_literal array_type as_expression as_operator",
         "assignment associatedtype_declaration attribute availability_condition await_expression",
         "bang bin_literal bitwise_operation boolean_literal call_expression call_suffix",
         "capture_list capture_list_item catch_block catch_keyword check_expression class_body",
         "class_declaration comment comparison_expression computed_getter computed_modify",
         "computed_property computed_setter conjunction_expression constructor_expression",
         "constructor_suffix control_transfer_statement custom_operator default_keyword",
         "deinit_declaration deprecated_operator_declaration_body diagnostic dictionary_literal",
         "dictionary_type didset_clause directive directly_assignable_expression",
         "disjunction_expression do_statement else enum_class_body enum_entry enum_type_parameters",
         "equality_constraint equality_expression existential_type external_macro_definition",
         "for_statement fully_open_range function_body function_declaration function_modifier",
         "function_type getter_specifier guard_statement hex_literal identifier if_statement",
         "import_declaration infix_expression inheritance_constraint inheritance_modifier",
         "inheritance_specifier init_declaration integer_literal interpolated_expression",
         "key_path_expression key_path_string_expression lambda_function_type",
         "lambda_function_type_parameters lambda_literal lambda_parameter line_str_text",
         "line_string_literal macro_declaration macro_definition member_modifier metatype modifiers",
         "modify_specifier multi_line_str_text multi_line_string_literal multiline_comment",
         "multiplicative_expression mutation_modifier navigation_expression navigation_suffix",
         "nil_coalescing_expression oct_literal opaque_type open_end_range_expression",
         "open_start_range_expression operator_declaration optional_type ownership_modifier",
         "parameter parameter_modifier parameter_modifiers pattern postfix_expression",
         "precedence_group_attribute precedence_group_attributes precedence_group_declaration",
         "prefix_expression property_behavior_modifier property_declaration property_modifier",
         "protocol_body protocol_composition_type protocol_declaration protocol_function_declaration",
         "protocol_property_declaration protocol_property_requirements range_expression",
         "raw_str_continuing_indicator raw_str_end_part raw_str_interpolation",
         "raw_str_interpolation_start raw_str_part raw_string_literal real_literal regex_literal",
         "repeat_while_statement selector_expression self_expression setter_specifier shebang_line",
         "simple_identifier source_file statement_label statements str_escaped_char",
         "subscript_declaration super_expression switch_entry switch_pattern switch_statement",
         "ternary_expression throw_keyword throws try_expression try_operator tuple_expression",
         "tuple_type tuple_type_item type_annotation type_arguments type_constraint type_constraints",
         "type_identifier type_modifiers type_pack_expansion type_parameter type_parameter_modifiers",
         "type_parameter_pack type_parameters typealias_declaration user_type value_argument",
         "value_argument_label value_arguments value_binding_pattern value_pack_expansion",
         "value_parameter_pack visibility_modifier where_clause where_keyword while_statement",
         "wildcard_pattern willset_clause willset_didset_block"] }

end Tables
end GrammarAssay
