import Sketchbook.Record.Value
import Sketchbook.Toml.Fault

namespace Sketchbook.Toml

open Sketchbook.Record

/-- Changes the table at the end of a key; `none` if something else stands on the way. -/
def alter? (intoLists : Bool) (f : Table → Option Table) : Key → Table → Option Table
  | [], t => f t
  | k :: ks, t =>
    match t.value? k with
    | none => (alter? intoLists f ks []).map fun u => t.put k (.table u)
    | some (.table u) => (alter? intoLists f ks u).map fun u => t.put k (.table u)
    | some (.list items) =>
      match intoLists, items.getLast? with
      | true, some (.table u) =>
        (alter? intoLists f ks u).map fun u => t.put k (.list (items.dropLast ++ [.table u]))
      | _, _ => none
    | some _ => none

/-- Adds an empty table to the list under a name, which is made if it is missing. -/
def addTable? (name : String) (t : Table) : Option Table :=
  match t.value? name with
  | none => some (t.put name (.list [.table []]))
  | some (.list items) => some (t.put name (.list (items ++ [.table []])))
  | some _ => none

/-- The keys that may not be opened again: those of arrays and inline tables, with all below them,
and those of tables that have been declared. Tables that a dotted key has made count from the next
header. -/
structure Marks where
  frozen : List Key := []
  declared : List Key := []
  pending : List Key := []

namespace Marks

def isFrozen (m : Marks) (key : Key) : Bool := m.frozen.any fun k => k.isPrefixOf key

def isDeclared (m : Marks) (key : Key) : Bool := m.declared.contains key

def settle (m : Marks) : Marks := { m with declared := m.pending ++ m.declared, pending := [] }

def forget (m : Marks) (key : Key) : Marks :=
  { m with
    frozen := m.frozen.filter fun k => !key.isPrefixOf k
    declared := m.declared.filter fun k => !key.isPrefixOf k }

end Marks

end Sketchbook.Toml
