import GrammarAssay.Language.Table

/-!
# Tables of the built-in C# grammar
-/

namespace GrammarAssay
namespace Tables

/-- The tables of the built-in C# grammar. -/
def cSharp : Language :=
  .ofTable
    { version := 14
      symbolCount := 503
      fieldCount := 26
      root := "compilation_unit"
      exceptions := [("\x7b", "ERROR")]
      fields :=
        ["accessors alias alternative argument arguments body condition consequence content",
         "expression function initializer left name operator parameters pattern qualifier rank",
         "returns right subscript type type_parameters update value"]
      kinds :=
        ["accessor_declaration accessor_list alias_qualified_name and_pattern",
         "anonymous_method_expression anonymous_object_creation_expression argument argument_list",
         "array_creation_expression array_rank_specifier array_type arrow_expression_clause",
         "as_expression assignment_expression attribute attribute_argument attribute_argument_list",
         "attribute_list attribute_target_specifier await_expression base_list binary_expression",
         "block boolean_literal bracketed_argument_list bracketed_parameter_list break_statement",
         "calling_convention cast_expression catch_clause catch_declaration catch_filter_clause",
         "character_literal character_literal_content checked_expression checked_statement",
         "class_declaration comment compilation_unit conditional_access_expression",
         "conditional_expression constant_pattern constructor_constraint constructor_declaration",
         "constructor_initializer continue_statement conversion_operator_declaration declaration",
         "declaration_expression declaration_list declaration_pattern default_expression",
         "delegate_declaration destructor_declaration discard do_statement element_access_expression",
         "element_binding_expression empty_statement enum_declaration enum_member_declaration",
         "enum_member_declaration_list escape_sequence event_declaration event_field_declaration",
         "explicit_interface_specifier expression expression_statement extern_alias_directive",
         "field_declaration file_scoped_namespace_declaration finally_clause fixed_statement",
         "for_statement foreach_statement from_clause function_pointer_parameter",
         "function_pointer_type generic_name global_attribute global_statement goto_statement",
         "group_clause identifier if_statement implicit_array_creation_expression",
         "implicit_object_creation_expression implicit_parameter implicit_stackalloc_expression",
         "implicit_type indexer_declaration initializer_expression integer_literal",
         "interface_declaration interpolated_string_expression interpolation",
         "interpolation_alignment_clause interpolation_brace interpolation_format_clause",
         "interpolation_quote interpolation_start invocation_expression is_expression",
         "is_pattern_expression join_clause join_into_clause labeled_statement lambda_expression",
         "let_clause list_pattern literal local_declaration_statement local_function_statement",
         "lock_statement lvalue_expression makeref_expression member_access_expression",
         "member_binding_expression method_declaration modifier namespace_declaration",
         "negated_pattern non_lvalue_expression null_literal nullable_type",
         "object_creation_expression operator_declaration or_pattern order_by_clause parameter",
         "parameter_list parenthesized_expression parenthesized_pattern",
         "parenthesized_variable_designation pattern pointer_type positional_pattern_clause",
         "postfix_unary_expression predefined_type prefix_unary_expression preproc_arg",
         "preproc_define preproc_elif preproc_else preproc_endregion preproc_error preproc_if",
         "preproc_line preproc_nullable preproc_pragma preproc_region preproc_undef preproc_warning",
         "primary_constructor_base_type property_declaration property_pattern_clause qualified_name",
         "query_expression range_expression raw_string_content raw_string_end raw_string_literal",
         "raw_string_start real_literal record_declaration recursive_pattern ref_expression ref_type",
         "reftype_expression refvalue_expression relational_pattern return_statement scoped_type",
         "select_clause shebang_directive sizeof_expression stackalloc_expression statement",
         "string_content string_literal string_literal_content string_literal_encoding",
         "struct_declaration subpattern switch_body switch_expression switch_expression_arm",
         "switch_section switch_statement throw_expression throw_statement try_statement",
         "tuple_element tuple_expression tuple_pattern tuple_type type type_argument_list",
         "type_declaration type_parameter type_parameter_constraint",
         "type_parameter_constraints_clause type_parameter_list type_pattern typeof_expression",
         "unary_expression unsafe_statement using_directive using_statement var_pattern",
         "variable_declaration variable_declarator verbatim_string_literal when_clause where_clause",
         "while_statement with_expression with_initializer yield_statement"] }

end Tables
end GrammarAssay
