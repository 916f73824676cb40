namespace Sketchbook.Editing

/-- The bytes from a first one up to, and without, another. -/
structure Span where
  start : Int
  stop : Int
  deriving Repr, DecidableEq

/-- Two spans overlap; they are known by where they end. -/
structure Overlap where
  firstStop : Int
  secondStop : Int
  deriving Repr, DecidableEq

def Overlap.message (o : Overlap) : String :=
  "overlapping rewrite spans ending at " ++ toString o.firstStop ++ " and " ++ toString o.secondStop

namespace Span

def precedes (a b : Span) : Bool :=
  a.start < b.start || (a.start = b.start && a.stop ≤ b.stop)

def insert (s : Span) : List Span → List Span
  | [] => [s]
  | x :: xs => if precedes s x then s :: x :: xs else x :: insert s xs

def sort : List Span → List Span
  | [] => []
  | s :: ss => insert s (sort ss)

/-- The first span in a list that starts before the one in front of it stops. -/
def firstOverlap? : List Span → Option Overlap
  | a :: b :: rest => if b.start < a.stop then some ⟨a.stop, b.stop⟩ else firstOverlap? (b :: rest)
  | _ => none

def checkDisjoint (spans : List Span) : Except Overlap Unit :=
  match firstOverlap? (sort spans) with
  | some o => .error o
  | none => .ok ()

end Span

end Sketchbook.Editing
