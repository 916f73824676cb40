import Sketchbook.Text.Utf8
import Sketchbook.Toml.Document
import Sketchbook.Config.Reading

namespace Sketchbook.Config

open Sketchbook.Record Sketchbook.Text

def fileName : String := "sketch.toml"

/-- Why a file holds no settings: it cannot be read, it is no document, or its table is refused. -/
inductive LoadError where
  | undecodable
  | unreadable (e : Toml.ReadError)
  | refused (issues : List Issue)
  deriving Repr

def issueCount (n : Nat) : String :=
  toString n ++ " validation error" ++ (if n = 1 then "" else "s") ++ " for PreprocessorConfig"

def malformedMessage (path message : String) : String :=
  "Invalid TOML in " ++ path ++ ": " ++ message

/-- What is said of the file at a path whose table is refused. The lines that name the faults are
`details`. -/
def refusedMessage (path details : String) (issues : List Issue) : String :=
  "Invalid config in " ++ path ++ ": " ++ issueCount issues.length ++ details

def ofFile (room : Nat) (bytes : Bytes) : Except LoadError Config :=
  match Utf8.decode? bytes with
  | none => .error .undecodable
  | some text =>
    match Toml.read room text with
    | .error e => .error (.unreadable e)
    | .ok t =>
      match ofTable t with
      | .ok c => .ok c
      | .bad is => .error (.refused is)

/-- The settings of a folder, given the file if there is one. -/
def load (room : Nat) : Option Bytes → Except LoadError Config
  | none => .ok {}
  | some bytes => ofFile room bytes

end Sketchbook.Config
