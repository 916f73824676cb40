namespace Sketchbook.Syntax

/-- A table in blocks of 32 entries, of which only the last may be shorter. -/
structure Table (α : Type) where
  blocks : List (List α)

namespace Table

def getD {α : Type} (t : Table α) (i : Nat) (outside : α) : α :=
  (t.blocks.getD (i / 32) []).getD (i % 32) outside

end Table

end Sketchbook.Syntax
