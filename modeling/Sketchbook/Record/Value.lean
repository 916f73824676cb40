import Sketchbook.Record.Binary64

namespace Sketchbook.Record

/-- A value. Dates and times are told from all else but not from one another. -/
inductive Value where
  | null
  | bool (b : Bool)
  | int (n : Int)
  | float (x : Binary64)
  | string (s : String)
  | list (items : List Value)
  | table (entries : List (String × Value))
  | moment
  deriving Repr, Inhabited

abbrev Table := List (String × Value)

namespace Table

def value? (t : Table) (name : String) : Option Value := t.lookup name

/-- Gives a name a value; a name that has one keeps its place. -/
def put (t : Table) (name : String) (v : Value) : Table :=
  if t.any (·.1 = name) then t.map fun e => if e.1 = name then (name, v) else e
  else t ++ [(name, v)]

end Table

/-- The entries of a table; any other value has none. -/
def Value.entries : Value → Table
  | .table t => t
  | _ => []

end Sketchbook.Record
