import Sketchbook.Toml.Number
import Sketchbook.Toml.Nesting

namespace Sketchbook.Toml

open Sketchbook.Record

def isNest : Value → Bool
  | .list _ => true
  | .table _ => true
  | _ => false

def putInline (t : Table) (key : Key) (v : Value) : Except Cause Table :=
  match key.getLast? with
  | none => .ok t
  | some name =>
    match alter? false (fun u => some u) key.dropLast t with
    | none => .error .overwritten
    | some _ =>
      match alter? false (fun u => if (u.value? name).isSome then none else some (u.put name v))
          key.dropLast t with
      | none => .error (.repeated name)
      | some t => .ok t

mutual

/-- Reads a value. The first argument bounds the number of steps, `room` the number of calls that may
be open within one another: an array takes two for its items, an inline table three. -/
def scanValue : Nat → Nat → List Char → Except Fault (Scanned Value)
  | 0, _, cs => fail .noValue cs
  | fuel + 1, room, cs =>
    match cs with
    | '"' :: '"' :: '"' :: rest => (scanLines '"' rest).map fun (s, r) => (.string s, r)
    | '\'' :: '\'' :: '\'' :: rest => (scanLines '\'' rest).map fun (s, r) => (.string s, r)
    | '"' :: rest => (scanLine '"' rest).map fun (s, r) => (.string s, r)
    | '\'' :: rest => (scanLine '\'' rest).map fun (s, r) => (.string s, r)
    | '[' :: rest => do
      if room < 2 then fail .tooDeep cs
      match ← skipArrayGap rest with
      | ']' :: rest => return (.list [], rest)
      | rest => (scanItems fuel (room - 2) rest).map fun (vs, r) => (.list vs, r)
    | '\x7b' :: rest => do
      if room < 3 then fail .tooDeep cs
      match skipGap rest with
      | '\x7d' :: rest => return (.table [], rest)
      | rest => (scanPairs fuel (room - 3) {} [] rest).map fun (t, r) => (.table t, r)
    | cs =>
      if startsWith "true" cs then .ok (.bool true, cs.drop 4)
      else if startsWith "false" cs then .ok (.bool false, cs.drop 5)
      else scanScalar cs

def scanItems : Nat → Nat → List Char → Except Fault (Scanned (List Value))
  | 0, _, cs => fail .noValue cs
  | fuel + 1, room, cs => do
    let (v, rest) ← scanValue fuel room cs
    match ← skipArrayGap rest with
    | ']' :: rest => return ([v], rest)
    | ',' :: rest =>
      match ← skipArrayGap rest with
      | ']' :: rest => return ([v], rest)
      | rest => (scanItems fuel room rest).map fun (vs, r) => (v :: vs, r)
    | rest => fail .openArray rest

def scanPairs : Nat → Nat → Marks → Table → List Char → Except Fault (Scanned Table)
  | 0, _, _, _, cs => fail .noValue cs
  | fuel + 1, room, marks, t, cs => do
    let (key, v, rest) ← scanPair fuel room cs
    if marks.isFrozen key then fail (.immutable key) rest
    match putInline t key v with
    | .error c => fail c rest
    | .ok t =>
      match skipGap rest with
      | '\x7d' :: rest => return (t, rest)
      | ',' :: rest =>
        let marks := if isNest v then { marks with frozen := key :: marks.frozen } else marks
        scanPairs fuel room marks t (skipGap rest)
      | rest => fail .openInlineTable rest

def scanPair : Nat → Nat → List Char → Except Fault (Key × Value × List Char)
  | 0, _, cs => fail .noValue cs
  | fuel + 1, room, cs => do
    match ← scanKey cs with
    | (key, '=' :: rest) => (scanValue fuel room (skipGap rest)).map fun (v, r) => (key, v, r)
    | (_, rest) => fail .noEquals rest

end

/-- Reads a key and its value. Two steps at most are taken for each character. -/
def scanEntry (room : Nat) (cs : List Char) : Except Fault (Key × Value × List Char) :=
  scanPair (2 * cs.length + 2) room cs

end Sketchbook.Toml
