import Sketchbook.Syntax.Table

namespace Sketchbook.Syntax

/-- How a node of a symbol shows in the tree: left out, as punctuation, or as a node with a name. -/
inductive Visibility where
  | hidden
  | anonymous
  | named
  deriving Repr, DecidableEq

abbrev Symbol := Nat

namespace Symbol

def endOfText : Symbol := 0

/-- An ordinary identifier: the token every keyword is lexed as where it is no keyword. -/
def word : Symbol := 1

/-- The number of tokens; a symbol below it is a token. -/
def tokenCount : Nat := 138

def count : Nat := 320

def skipped : Symbol := 320

def error : Symbol := 321

/-- The name and visibility of every symbol of the grammar, in the order of their numbers. -/
def table : Table (String × Visibility) := ⟨[
  [("end", .hidden), ("identifier", .named), ("decimal_integer_literal", .named),
    ("hex_integer_literal", .named), ("octal_integer_literal", .named),
    ("binary_integer_literal", .named), ("decimal_floating_point_literal", .named),
    ("hex_floating_point_literal", .named), ("true", .named), ("false", .named),
    ("character_literal", .named), ("\"", .anonymous), ("\"\"\"", .anonymous),
    ("string_fragment", .named), ("_multiline_string_fragment_token1", .hidden),
    ("_multiline_string_fragment_token2", .hidden), ("\\\x7b", .anonymous), ("\x7d", .anonymous),
    ("_escape_sequence_token1", .hidden), ("escape_sequence", .named), ("null_literal", .named),
    ("(", .anonymous), (")", .anonymous), ("&", .anonymous), ("=", .anonymous), ("+=", .anonymous),
    ("-=", .anonymous), ("*=", .anonymous), ("/=", .anonymous), ("&=", .anonymous),
    ("|=", .anonymous), ("^=", .anonymous)],
  [("%=", .anonymous), ("<<=", .anonymous), (">>=", .anonymous), (">>>=", .anonymous),
    (">", .anonymous), ("<", .anonymous), (">=", .anonymous), ("<=", .anonymous),
    ("==", .anonymous), ("!=", .anonymous), ("&&", .anonymous), ("||", .anonymous),
    ("+", .anonymous), ("-", .anonymous), ("*", .anonymous), ("/", .anonymous), ("|", .anonymous),
    ("^", .anonymous), ("%", .anonymous), ("<<", .anonymous), (">>", .anonymous),
    (">>>", .anonymous), ("instanceof", .anonymous), ("final", .anonymous), ("->", .anonymous),
    (",", .anonymous), ("?", .anonymous), (":", .anonymous), ("!", .anonymous), ("~", .anonymous),
    ("++", .anonymous), ("--", .anonymous)],
  [("new", .anonymous), ("[", .anonymous), ("]", .anonymous), (".", .anonymous),
    ("class", .anonymous), ("::", .anonymous), ("extends", .anonymous), ("switch", .anonymous),
    ("\x7b", .anonymous), ("case", .anonymous), ("default", .anonymous),
    ("underscore_pattern", .named), ("when", .anonymous), (";", .anonymous), ("assert", .anonymous),
    ("do", .anonymous), ("while", .anonymous), ("break", .anonymous), ("continue", .anonymous),
    ("return", .anonymous), ("yield", .anonymous), ("synchronized", .anonymous),
    ("throw", .anonymous), ("try", .anonymous), ("catch", .anonymous), ("finally", .anonymous),
    ("if", .anonymous), ("else", .anonymous), ("for", .anonymous), ("@", .anonymous),
    ("open", .anonymous), ("module", .anonymous)],
  [("requires", .anonymous), ("transitive", .anonymous), ("static", .anonymous),
    ("exports", .anonymous), ("to", .anonymous), ("opens", .anonymous), ("uses", .anonymous),
    ("provides", .anonymous), ("with", .anonymous), ("package", .anonymous), ("import", .anonymous),
    ("enum", .anonymous), ("public", .anonymous), ("protected", .anonymous),
    ("private", .anonymous), ("abstract", .anonymous), ("strictfp", .anonymous),
    ("native", .anonymous), ("transient", .anonymous), ("volatile", .anonymous),
    ("sealed", .anonymous), ("non-sealed", .anonymous), ("implements", .anonymous),
    ("permits", .anonymous), ("record", .anonymous), ("@interface", .anonymous),
    ("interface", .anonymous), ("byte", .anonymous), ("short", .anonymous), ("int", .anonymous),
    ("long", .anonymous), ("char", .anonymous)],
  [("float", .anonymous), ("double", .anonymous), ("boolean_type", .named), ("void_type", .named),
    ("...", .anonymous), ("throws", .anonymous), ("this", .named), ("super", .named),
    ("line_comment", .named), ("block_comment", .named), ("program", .named),
    ("_toplevel_statement", .hidden), ("_literal", .hidden), ("string_literal", .named),
    ("_string_literal", .hidden), ("_multiline_string_literal", .hidden),
    ("multiline_string_fragment", .named), ("string_interpolation", .named),
    ("_escape_sequence", .hidden), ("expression", .hidden), ("cast_expression", .named),
    ("assignment_expression", .named), ("binary_expression", .named),
    ("instanceof_expression", .named), ("lambda_expression", .named),
    ("inferred_parameters", .named), ("ternary_expression", .named), ("unary_expression", .named),
    ("update_expression", .named), ("primary_expression", .hidden),
    ("array_creation_expression", .named), ("dimensions_expr", .named)],
  [("parenthesized_expression", .named), ("class_literal", .named),
    ("object_creation_expression", .named), ("_unqualified_object_creation_expression", .hidden),
    ("field_access", .named), ("template_expression", .named), ("array_access", .named),
    ("method_invocation", .named), ("argument_list", .named), ("method_reference", .named),
    ("type_arguments", .named), ("wildcard", .named), ("_wildcard_bounds", .hidden),
    ("dimensions", .named), ("switch_expression", .named), ("switch_block", .named),
    ("switch_block_statement_group", .named), ("switch_rule", .named), ("switch_label", .named),
    ("pattern", .named), ("type_pattern", .named), ("record_pattern", .named),
    ("record_pattern_body", .named), ("record_pattern_component", .named), ("guard", .named),
    ("statement", .hidden), ("block", .named), ("expression_statement", .named),
    ("labeled_statement", .named), ("assert_statement", .named), ("do_statement", .named),
    ("break_statement", .named)],
  [("continue_statement", .named), ("return_statement", .named), ("yield_statement", .named),
    ("synchronized_statement", .named), ("throw_statement", .named), ("try_statement", .named),
    ("catch_clause", .named), ("catch_formal_parameter", .named), ("catch_type", .named),
    ("finally_clause", .named), ("try_with_resources_statement", .named),
    ("resource_specification", .named), ("resource", .named), ("if_statement", .named),
    ("while_statement", .named), ("for_statement", .named), ("enhanced_for_statement", .named),
    ("_annotation", .hidden), ("marker_annotation", .named), ("annotation", .named),
    ("annotation_argument_list", .named), ("element_value_pair", .named),
    ("_element_value", .hidden), ("element_value_array_initializer", .named),
    ("declaration", .hidden), ("module_declaration", .named), ("module_body", .named),
    ("module_directive", .hidden), ("requires_module_directive", .named),
    ("requires_modifier", .named), ("exports_module_directive", .named),
    ("opens_module_directive", .named)],
  [("uses_module_directive", .named), ("provides_module_directive", .named),
    ("package_declaration", .named), ("import_declaration", .named), ("asterisk", .named),
    ("enum_declaration", .named), ("enum_body", .named), ("enum_body_declarations", .named),
    ("enum_constant", .named), ("class_declaration", .named), ("modifiers", .named),
    ("type_parameters", .named), ("type_parameter", .named), ("type_bound", .named),
    ("superclass", .named), ("super_interfaces", .named), ("type_list", .named),
    ("permits", .named), ("class_body", .named), ("static_initializer", .named),
    ("constructor_declaration", .named), ("_constructor_declarator", .hidden),
    ("constructor_body", .named), ("explicit_constructor_invocation", .named),
    ("scoped_identifier", .named), ("field_declaration", .named), ("record_declaration", .named),
    ("annotation_type_declaration", .named), ("annotation_type_body", .named),
    ("annotation_type_element_declaration", .named), ("_default_value", .hidden),
    ("interface_declaration", .named)],
  [("extends_interfaces", .named), ("interface_body", .named), ("constant_declaration", .named),
    ("_variable_declarator_list", .hidden), ("variable_declarator", .named),
    ("_variable_declarator_id", .hidden), ("array_initializer", .named), ("_type", .hidden),
    ("_unannotated_type", .hidden), ("annotated_type", .named), ("scoped_type_identifier", .named),
    ("generic_type", .named), ("array_type", .named), ("integral_type", .named),
    ("floating_point_type", .named), ("_method_header", .hidden), ("_method_declarator", .hidden),
    ("formal_parameters", .named), ("formal_parameter", .named), ("receiver_parameter", .named),
    ("spread_parameter", .named), ("throws", .named), ("local_variable_declaration", .named),
    ("method_declaration", .named), ("compact_constructor_declaration", .named),
    ("_reserved_identifier", .hidden), ("program_repeat1", .hidden),
    ("_string_literal_repeat1", .hidden), ("_multiline_string_literal_repeat1", .hidden),
    ("cast_expression_repeat1", .hidden), ("inferred_parameters_repeat1", .hidden),
    ("array_creation_expression_repeat1", .hidden)],
  [("array_creation_expression_repeat2", .hidden), ("argument_list_repeat1", .hidden),
    ("type_arguments_repeat1", .hidden), ("dimensions_repeat1", .hidden),
    ("switch_block_repeat1", .hidden), ("switch_block_repeat2", .hidden),
    ("switch_block_statement_group_repeat1", .hidden),
    ("switch_block_statement_group_repeat2", .hidden), ("record_pattern_body_repeat1", .hidden),
    ("try_statement_repeat1", .hidden), ("catch_type_repeat1", .hidden),
    ("resource_specification_repeat1", .hidden), ("for_statement_repeat1", .hidden),
    ("for_statement_repeat2", .hidden), ("annotation_argument_list_repeat1", .hidden),
    ("element_value_array_initializer_repeat1", .hidden), ("module_body_repeat1", .hidden),
    ("requires_module_directive_repeat1", .hidden), ("exports_module_directive_repeat1", .hidden),
    ("provides_module_directive_repeat1", .hidden), ("enum_body_repeat1", .hidden),
    ("enum_body_declarations_repeat1", .hidden), ("modifiers_repeat1", .hidden),
    ("type_parameters_repeat1", .hidden), ("type_bound_repeat1", .hidden),
    ("type_list_repeat1", .hidden), ("annotation_type_body_repeat1", .hidden),
    ("interface_body_repeat1", .hidden), ("_variable_declarator_list_repeat1", .hidden),
    ("array_initializer_repeat1", .hidden), ("formal_parameters_repeat1", .hidden),
    ("receiver_parameter_repeat1", .hidden)]]⟩

def name (s : Symbol) : String :=
  if s = error then "ERROR" else (table.getD s ("", .hidden)).1

/-- The visibility of a node of the symbol; text that is part of no rule always shows. -/
def visibility (s : Symbol) : Visibility :=
  if s = error then .named else (table.getD s ("", .hidden)).2

end Symbol

end Sketchbook.Syntax
