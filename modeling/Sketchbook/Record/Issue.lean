namespace Sketchbook.Record

inductive Step where
  | field (name : String)
  | index (n : Nat)
  deriving Repr, DecidableEq

inductive Cause where
  | notText
  | notList
  | notSequence
  | notTable
  | notFlag
  | unreadableFlag
  | notWhole
  | fractional
  | notFinite
  | unreadable
  | tooLarge
  | negative
  | refused (why : String)
  | missing
  | unknown
  | notAmong (choices : List String)
  deriving Repr, DecidableEq

namespace Cause

def code : Cause → String
  | .notText => "string_type"
  | .notList => "list_type"
  | .notSequence => "tuple_type"
  | .notTable => "dict_type"
  | .notFlag => "bool_type"
  | .unreadableFlag => "bool_parsing"
  | .notWhole => "int_type"
  | .fractional => "int_from_float"
  | .notFinite => "finite_number"
  | .unreadable => "int_parsing"
  | .tooLarge => "int_parsing_size"
  | .negative => "greater_than_equal"
  | .refused _ => "value_error"
  | .missing => "missing"
  | .unknown => "extra_forbidden"
  | .notAmong _ => "enum"

def choiceText : List String → String
  | [] => ""
  | [a] => "'" ++ a ++ "'"
  | [a, b] => "'" ++ a ++ "' or '" ++ b ++ "'"
  | a :: rest => "'" ++ a ++ "', " ++ choiceText rest

def message : Cause → String
  | .notText => "Input should be a valid string"
  | .notList => "Input should be a valid list"
  | .notSequence => "Input should be a valid tuple"
  | .notTable => "Input should be a valid dictionary"
  | .notFlag => "Input should be a valid boolean"
  | .unreadableFlag => "Input should be a valid boolean, unable to interpret input"
  | .notWhole => "Input should be a valid integer"
  | .fractional => "Input should be a valid integer, got a number with a fractional part"
  | .notFinite => "Input should be a finite number"
  | .unreadable => "Input should be a valid integer, unable to parse string as an integer"
  | .tooLarge => "Unable to parse input string as an integer, exceeded maximum size"
  | .negative => "Input should be greater than or equal to 0"
  | .refused why => "Value error, " ++ why
  | .missing => "Field required"
  | .unknown => "Extra inputs are not permitted"
  | .notAmong choices => "Input should be " ++ choiceText choices

end Cause

/-- A fault and the steps to the value that has it. -/
structure Issue where
  path : List Step
  cause : Cause
  deriving Repr, DecidableEq

def Issue.within (s : Step) (i : Issue) : Issue := { i with path := s :: i.path }

end Sketchbook.Record
