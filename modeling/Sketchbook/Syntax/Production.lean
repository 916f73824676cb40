namespace Sketchbook.Syntax

/-- The part a child plays in its parent, where the analysis asks for it. -/
inductive Role where
  | object
  | name
  | arguments
  | superclass
  | body
  deriving Repr, DecidableEq

/-- The names and roles a rule gives to its children, by their position. -/
structure Production where
  aliases : List (Nat × String)
  roles : List (Nat × Role)
  deriving Repr, DecidableEq

namespace Production

def plain : Production := ⟨[], []⟩

def table : Array Production := #[
  ⟨[], []⟩, ⟨[(0, "identifier")], []⟩, ⟨[(0, "type_identifier")], []⟩, ⟨[], [(1, .name)]⟩,
  ⟨[], [(0, .name), (1, .arguments)]⟩, ⟨[], [(0, .name)]⟩, ⟨[], [(1, .body)]⟩,
  ⟨[(1, "type_identifier")], []⟩, ⟨[], [(2, .arguments)]⟩,
  ⟨[(1, "type_identifier")], [(2, .arguments)]⟩, ⟨[], [(1, .name), (2, .body)]⟩,
  ⟨[], [(2, .body)]⟩, ⟨[], [(1, .name), (2, .arguments)]⟩, ⟨[], [(0, .object)]⟩,
  ⟨[(0, "type_identifier"), (2, "type_identifier")], []⟩, ⟨[(2, "type_identifier")], []⟩,
  ⟨[], [(3, .arguments)]⟩, ⟨[(2, "type_identifier")], [(3, .arguments)]⟩,
  ⟨[], [(1, .name), (3, .body)]⟩, ⟨[], [(1, .name), (2, .superclass), (3, .body)]⟩,
  ⟨[], [(2, .name)]⟩, ⟨[], [(2, .name), (3, .body)]⟩,
  ⟨[], [(0, .object), (2, .name), (3, .arguments)]⟩,
  ⟨[(0, "type_identifier"), (3, "type_identifier")], []⟩, ⟨[], [(3, .name)]⟩,
  ⟨[(3, "type_identifier")], []⟩, ⟨[], [(4, .arguments)]⟩,
  ⟨[(3, "type_identifier")], [(4, .arguments)]⟩, ⟨[], [(0, .name), (1, .body)]⟩,
  ⟨[], [(1, .name), (3, .superclass), (4, .body)]⟩, ⟨[], [(1, .name), (4, .body)]⟩,
  ⟨[], [(1, .name), (2, .superclass), (4, .body)]⟩,
  ⟨[], [(0, .object), (3, .name), (4, .arguments)]⟩, ⟨[], [(4, .name)]⟩,
  ⟨[], [(2, .name), (4, .body)]⟩, ⟨[], [(2, .name), (3, .superclass), (4, .body)]⟩,
  ⟨[], [(3, .name), (4, .body)]⟩, ⟨[], [(5, .arguments)]⟩,
  ⟨[(4, "type_identifier")], [(5, .arguments)]⟩,
  ⟨[], [(1, .name), (3, .superclass), (5, .body)]⟩, ⟨[], [(1, .name), (5, .body)]⟩,
  ⟨[], [(1, .name), (2, .superclass), (5, .body)]⟩, ⟨[], [(5, .body)]⟩,
  ⟨[], [(0, .name), (1, .arguments), (2, .body)]⟩,
  ⟨[], [(0, .object), (4, .name), (5, .arguments)]⟩,
  ⟨[], [(2, .name), (4, .superclass), (5, .body)]⟩, ⟨[], [(2, .name), (5, .body)]⟩,
  ⟨[], [(2, .name), (3, .superclass), (5, .body)]⟩, ⟨[], [(3, .body)]⟩,
  ⟨[], [(1, .name), (3, .superclass), (6, .body)]⟩, ⟨[], [(4, .body)]⟩, ⟨[], [(6, .body)]⟩,
  ⟨[], [(1, .name), (2, .arguments), (3, .body)]⟩,
  ⟨[], [(0, .object), (5, .name), (6, .arguments)]⟩,
  ⟨[], [(2, .name), (4, .superclass), (6, .body)]⟩, ⟨[], [(2, .name), (6, .body)]⟩,
  ⟨[], [(2, .name), (3, .superclass), (6, .body)]⟩, ⟨[], [(1, .arguments)]⟩, ⟨[], [(7, .body)]⟩,
  ⟨[], [(2, .name), (4, .superclass), (7, .body)]⟩, ⟨[], [(8, .body)]⟩,
  ⟨[], [(0, .object), (3, .arguments)]⟩, ⟨[], [(9, .body)]⟩,
  ⟨[], [(0, .object), (4, .arguments)]⟩, ⟨[], [(10, .body)]⟩]

def ofId (n : Nat) : Production := table.getD n plain

/-- The name the child at a position goes by, if the rule renames it. -/
def alias? (p : Production) (i : Nat) : Option String := p.aliases.lookup i

def role? (p : Production) (i : Nat) : Option Role := p.roles.lookup i

end Production

end Sketchbook.Syntax
