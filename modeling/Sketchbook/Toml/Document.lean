import Sketchbook.Toml.Value

namespace Sketchbook.Toml

open Sketchbook.Record

/-- What has been read, and the key of the table that is open. -/
structure Progress where
  table : Table := []
  marks : Marks := {}
  header : Key := []

def scanTableHeader (p : Progress) (cs : List Char) : Except Fault (Scanned Progress) := do
  let (key, rest) ← scanKey (skipGap cs)
  if p.marks.isDeclared key || p.marks.isFrozen key then fail (.declared key) rest
  match alter? true some key p.table with
  | none => fail .overwritten rest
  | some table =>
    match rest with
    | ']' :: rest =>
      return (⟨table, { p.marks with declared := key :: p.marks.declared }, key⟩, rest)
    | rest => fail .openTableHeader rest

def scanArrayHeader (p : Progress) (cs : List Char) : Except Fault (Scanned Progress) := do
  let (key, rest) ← scanKey (skipGap cs)
  if p.marks.isFrozen key then fail (.immutable key) rest
  let marks := p.marks.forget key
  match alter? true (addTable? (key.getLast?.getD "")) key.dropLast p.table with
  | none => fail .overwritten rest
  | some table =>
    match rest with
    | ']' :: ']' :: rest =>
      return (⟨table, { marks with declared := key :: marks.declared }, key⟩, rest)
    | rest => fail .openArrayHeader rest

/-- The keys of the tables on the way to the last part of a key, below a given one. -/
def tablesOf (above : Key) : Key → List Key
  | [] => []
  | [_] => []
  | k :: ks => (above ++ [k]) :: tablesOf (above ++ [k]) ks

def scanAssignment (room : Nat) (p : Progress) (cs : List Char) :
    Except Fault (Scanned Progress) := do
  let (key, v, rest) ← scanEntry room cs
  let way := tablesOf p.header key
  match way.find? p.marks.isDeclared with
  | some k => fail (.redefined k) rest
  | none =>
    let parent := p.header ++ key.dropLast
    let full := p.header ++ key
    let name := key.getLast?.getD ""
    -- what stands in an array or inline table cannot be added to
    if p.marks.isFrozen parent then fail (.immutable parent) rest
    let put := fun t : Table => if (t.value? name).isSome then none else some (t.put name v)
    match alter? true put parent p.table with
    | none => fail .overwritten rest
    | some table =>
      -- tables made by dotted keys count as declared once the next header is read
      let marks := { p.marks with pending := way ++ p.marks.pending }
      let marks := if isNest v then { marks with frozen := full :: marks.frozen } else marks
      return ({ p with table, marks }, rest)

def isKeyStart (c : Char) : Bool := isBareKey c || c = '"' || c = '\''

def scanStatement (room : Nat) (p : Progress) (cs : List Char) : Except Fault (Scanned Progress) :=
  match cs with
  | '[' :: '[' :: rest => scanArrayHeader { p with marks := p.marks.settle } rest
  | '[' :: rest => scanTableHeader { p with marks := p.marks.settle } rest
  | '#' :: _ => .ok (p, cs)
  | c :: _ => if isKeyStart c then scanAssignment room p cs else fail .noStatement cs
  | [] => .ok (p, [])

/-- Reads line after line. The second argument bounds their number. -/
def scanDocument (room : Nat) : Nat → Progress → List Char → Except Fault Table
  | 0, p, _ => .ok p.table
  | fuel + 1, p, cs =>
    match skipGap cs with
    | [] => .ok p.table
    | '\n' :: rest => scanDocument room fuel p rest
    | cs => do
      let (p, rest) ← scanStatement room p cs
      match ← skipComment (skipGap rest) with
      | [] => return p.table
      | '\n' :: rest => scanDocument room fuel p rest
      | rest => fail .noLineEnd rest

def joinLineEnds : List Char → List Char
  | '\r' :: '\n' :: cs => '\n' :: joinLineEnds cs
  | c :: cs => c :: joinLineEnds cs
  | [] => []

/-- Why there is no table: the text is no document, or a number in it is too long to be read, or a
value lies too deep in others. -/
inductive ReadError where
  | malformed (message : String)
  | tooManyDigits (message : String)
  | tooDeep
  deriving Repr, DecidableEq

/-- The table that a document stands for. While a value is read, so many calls may be open within one
another as there is room for. -/
def read (room : Nat) (document : String) : Except ReadError Table :=
  let cs := joinLineEnds document.toList
  match scanDocument room (cs.length + 1) {} cs with
  | .ok t => .ok t
  | .error f =>
    match f.cause with
    | .tooManyDigits _ => .error (.tooManyDigits f.cause.message)
    | .tooDeep => .error .tooDeep
    | _ => .error (.malformed (f.message cs))

end Sketchbook.Toml
