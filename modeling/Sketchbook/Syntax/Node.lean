import Sketchbook.Syntax.Parser

namespace Sketchbook.Syntax

open Sketchbook.Text

/-- A node of the tree. Punctuation and keywords are nodes without a name. -/
inductive Node where
  | mk (role? : Option Role) (kind : String) (named : Bool) (start stop row : Nat)
      (children : List Node)
  deriving Repr, Inhabited

namespace Node

def role? : Node → Option Role
  | mk r .. => r

def kind : Node → String
  | mk _ k .. => k

def isNamed : Node → Bool
  | mk _ _ n .. => n

def start : Node → Nat
  | mk _ _ _ s .. => s

def stop : Node → Nat
  | mk _ _ _ _ e .. => e

def row : Node → Nat
  | mk _ _ _ _ _ r _ => r

def children : Node → List Node
  | mk _ _ _ _ _ _ cs => cs

def labelFirst (role? : Option Role) : List Node → List Node
  | mk r k n s e w cs :: rest =>
    match role? with
    | some x => mk (some x) k n s e w cs :: rest
    | none => mk r k n s e w cs :: rest
  | [] => []

mutual

/-- The nodes that a derivation shows from a byte on, under the name its parent gives it. -/
def ofDerivation (rows : Nat → Nat) (alias? : Option String) (at_ : Nat) : Derivation → List Node
  | .token symbol padding size .. =>
    let start := at_ + padding.bytes
    let make (kind : String) (named : Bool) :=
      [mk none kind named start (start + size.bytes) (rows start) []]
    match alias?, symbol.visibility with
    | some a, _ => make a true
    | none, .hidden => []
    | none, .anonymous => make symbol.name false
    | none, .named => make symbol.name true
  | .rule symbol production _ summary parts =>
    let start := at_ + summary.padding.bytes
    let below := ofParts rows (Production.ofId production) 0 at_ parts
    let make (kind : String) (named : Bool) :=
      [mk none kind named start (start + summary.size.bytes) (rows start) below]
    match alias?, symbol.visibility with
    | some a, _ => make a true
    | none, .hidden => below
    | none, .anonymous => make symbol.name false
    | none, .named => make symbol.name true

/-- The nodes that the parts of a rule show; `index` counts the parts that are no comments. -/
def ofParts (rows : Nat → Nat) (p : Production) (index at_ : Nat) : List Derivation → List Node
  | [] => []
  | d :: rest =>
    let next := at_ + d.extent.bytes
    if d.isExtra then
      ofDerivation rows none at_ d ++ ofParts rows p index next rest
    else
      labelFirst (p.role? index) (ofDerivation rows (p.alias? index) at_ d)
        ++ ofParts rows p (index + 1) next rest

end

/-- For every byte of a text, and for its end, the number of line breaks before it. -/
def rowTable (source : Bytes) : Array Nat :=
  (source.foldl (fun (acc : Array Nat × Nat) b =>
    let n := if b = 10 then acc.2 + 1 else acc.2
    (acc.1.push n, n)) (#[0], 0)).1

def parse (source : Bytes) : Node × Bool :=
  let d := derive source
  let table := rowTable source
  let rows := fun i => table.getD i 0
  match ofDerivation rows none 0 d with
  | n :: _ => (n, 0 < d.cost)
  | [] => (mk none d.symbol.name true 0 source.length 0 [], 0 < d.cost)

end Node

end Sketchbook.Syntax
