import RequestSchema.Text.Basic

set_option autoImplicit false

/-!
# Problems with settings

What is wrong with the value of a setting, and where it stands.
-/

namespace RequestSchema

inductive FieldProblem where
  | stringType
  /-- A text with surrogates where a number or a switch is looked for. -/
  | stringUnicode
  | intType
  | intParsing
  | intTooLong
  | intFromFloat
  | finiteNumber
  | tooSmall
  | tooLarge
  | boolType
  | boolParsing
  | pathType
  | groupType
  /-- The sources of the settings cannot be read. -/
  | unreadable
deriving DecidableEq

def FieldProblem.text : FieldProblem → Text
  | stringType => "string_type"
  | stringUnicode => "string_unicode"
  | intType => "int_type"
  | intParsing => "int_parsing"
  | intTooLong => "int_parsing_size"
  | intFromFloat => "int_from_float"
  | finiteNumber => "finite_number"
  | tooSmall => "greater_than_equal"
  | tooLarge => "less_than_equal"
  | boolType => "bool_type"
  | boolParsing => "bool_parsing"
  | pathType => "path_type"
  | groupType => "model_type"
  | unreadable => "value_error"

structure SettingsProblem where
  location : List Text
  problem : FieldProblem
deriving DecidableEq

abbrev Field (α : Type) := Except FieldProblem α

end RequestSchema
