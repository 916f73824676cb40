import Sketchbook.Sketch.Basic
import Sketchbook.Settings.Basic

/-!
Where a call stands. It is lifted only where it runs exactly once at the start: as a statement of a
sketch of bare statements, or as a statement of the method that runs at the start. This is judged by
the nodes above the call.
-/
namespace Sketchbook.Settings

open Sketchbook.Syntax (Node)

/-- The method that runs at the start, if nothing else is said. -/
def defaultEntryMethod : String := "setup"

/-- The number of nodes above a call that is a statement of the sketch. -/
def globalDepth : Nat := 2

def topMethodDepth : Nat := 4

/-- The number of nodes above a call in a method of a class at the top. -/
def classMethodDepth : Nat := 6

/-- Whether the owner of a method is the sketch: the top of the tree, or a class body that spans the
same bytes as the body of the sketch's class. -/
def ownsSketchMethod (sketch : Sketch) (depth : Nat) (owner : Node) : Bool :=
  if owner.kind = "program" then
    depth = topMethodDepth && sketch.mode = .active && !sketch.isWrapped
  else if owner.kind = "class_body" && depth = classMethodDepth then
    match sketch.classBody? with
    -- bodies are told apart by the bytes that they span
    | some body => owner.start = body.start && owner.stop = body.stop
    | none => false
  else false

/-- Where a call stands, by the nodes above it, nearest first. -/
def classify (sketch : Sketch) (entryMethod : String) (ancestors : List Node) : Scope :=
  let depth := ancestors.length
  match ancestors with
  | statement :: container :: above =>
    if statement.kind ≠ "expression_statement" then .invalid
    -- a statement right at the top
    else if container.kind = "program" then
      if depth = globalDepth && sketch.mode = .static then .global else .invalid
    else if sketch.mode = .static || depth < topMethodDepth || container.kind ≠ "block" then
      .invalid
    -- a statement of a block, which has to be that of the method
    else match above with
      | method :: owner :: _ =>
        if method.kind = "method_declaration" &&
            sketch.textOf (method.childOf? .name) = entryMethod &&
            ownsSketchMethod sketch depth owner then .entryMethod
        else .invalid
      | _ => .invalid
  | _ => .invalid

end Sketchbook.Settings
