import Sketchbook.Text.Quoted

namespace Sketchbook.Toml

open Sketchbook.Text

abbrev Key := List String

inductive Cause where
  | noStatement
  | noLineEnd
  | expected (what : String)
  | badCharacter (c : Char)
  | illegalInString (c : Char)
  | noEquals
  | noKey
  | openTableHeader
  | openArrayHeader
  | openArray
  | openInlineTable
  | openString
  | badEscape
  | badHex
  | notScalar
  | badDate
  | noValue
  | tooDeep
  | tooManyDigits (count : Nat)
  | declared (key : Key)
  | redefined (key : Key)
  | immutable (key : Key)
  | overwritten
  | repeated (name : String)
  deriving Repr, DecidableEq

def maxDigits : Nat := 4300

def Cause.message : Cause → String
  | .noStatement => "Invalid statement"
  | .noLineEnd => "Expected newline or end of document after a statement"
  | .expected what => "Expected " ++ quoted what
  | .badCharacter c => "Found invalid character " ++ quoted (String.singleton c)
  | .illegalInString c => "Illegal character " ++ quoted (String.singleton c)
  | .noEquals => "Expected '=' after a key in a key/value pair"
  | .noKey => "Invalid initial character for a key part"
  | .openTableHeader => "Expected ']' at the end of a table declaration"
  | .openArrayHeader => "Expected ']]' at the end of an array declaration"
  | .openArray => "Unclosed array"
  | .openInlineTable => "Unclosed inline table"
  | .openString => "Unterminated string"
  | .badEscape => "Unescaped '\\' in a string"
  | .badHex => "Invalid hex value"
  | .notScalar => "Escaped character is not a Unicode scalar value"
  | .badDate => "Invalid date or datetime"
  | .noValue => "Invalid value"
  | .tooDeep => "maximum recursion depth exceeded"
  | .tooManyDigits count =>
    "Exceeds the limit (" ++ toString maxDigits ++
      " digits) for integer string conversion: value has " ++ toString count ++
      " digits; use sys.set_int_max_str_digits() to increase the limit"
  | .declared key => "Cannot declare " ++ quotedTuple key ++ " twice"
  | .redefined key => "Cannot redefine namespace " ++ quotedTuple key
  | .immutable key => "Cannot mutate immutable namespace " ++ quotedTuple key
  | .overwritten => "Cannot overwrite a value"
  | .repeated name => "Duplicate inline table key " ++ quoted name

/-- What is wrong and how many characters were left where it was found. -/
structure Fault where
  cause : Cause
  left : Nat
  deriving Repr, DecidableEq

def position (before : List Char) : Nat × Nat :=
  (before.count '\n' + 1, (before.reverse.takeWhile (· ≠ '\n')).length + 1)

def Fault.message (document : List Char) (f : Fault) : String :=
  let place :=
    if f.left = 0 then "end of document"
    else
      let (line, column) := position (document.take (document.length - f.left))
      "line " ++ toString line ++ ", column " ++ toString column
  f.cause.message ++ " (at " ++ place ++ ")"

abbrev Scanned (α : Type) := α × List Char

def fail {α : Type} (c : Cause) (rest : List Char) : Except Fault α := .error ⟨c, rest.length⟩

end Sketchbook.Toml
