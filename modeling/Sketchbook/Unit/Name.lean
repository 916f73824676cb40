import Sketchbook.Text.Word

namespace Sketchbook.ClassName

open Sketchbook.Text

def isFirst (c : Char) : Bool := c.isAlpha || c = '_' || c = '$'

def isRest (c : Char) : Bool := c.isAlphanum || c = '_' || c = '$'

def isValid (s : String) : Bool :=
  match s.toList with
  | [] => false
  | c :: cs => isFirst c && cs.all isRest

/-- The parts of a path between its slashes, without the empty ones and the single dots. -/
def pathParts (path : String) : List String :=
  ((path.toList.splitOn '/').map String.ofList).filter fun p => p ≠ "" && p ≠ "."

/-- The name of a file without its last suffix. A dot in front or at the end begins no suffix. -/
def stemOf (name : String) : String :=
  let cs := name.toList
  let suffix := cs.reverse.takeWhile (· ≠ '.')
  let before := cs.length - suffix.length
  -- `before` counts the dot in front of the suffix
  if 1 < before && !suffix.isEmpty then String.ofList (cs.take (before - 1)) else name

/-- The name of the last file on a path, without its suffix. -/
def stem (path : String) : String := stemOf ((pathParts path).getLast?.getD "")

def ofPath (path : String) : String :=
  let cs := (stem path).toList.map fun c => if isAsciiWord c then c else '_'
  match cs with
  | [] => "_"
  | c :: _ => if c.isDigit then String.ofList ('_' :: cs) else String.ofList cs

end Sketchbook.ClassName
