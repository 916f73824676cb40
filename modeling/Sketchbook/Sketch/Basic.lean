import Sketchbook.Text.Blank
import Sketchbook.Syntax.Node

/-!
Sketches as trees. A sketch is written in one of three ways: as bare statements, as methods whose
class goes without saying, or as a class of its own. A sketch that cannot be read as it is may still
be read inside a class made up for it; offsets then have to be taken back to the sketch itself.
-/
namespace Sketchbook

open Sketchbook.Text
open Sketchbook.Syntax (Node Role)

inductive Mode where
  | static
  | active
  | java
  deriving Repr, DecidableEq

def Mode.name : Mode → String
  | .static => "static"
  | .active => "active"
  | .java => "java"

structure Import where
  start : Nat
  stop : Nat
  text : String
  deriving Repr, DecidableEq

/-- A sketch that has been read. `source` is the text the tree was built from, `offset` the number
of bytes in front of the sketch in it. -/
structure Sketch where
  root : Node
  source : Bytes
  mode : Mode
  offset : Nat := 0
  imports : List Import := []

namespace Syntax.Node

def namedChildren (n : Node) : List Node := n.children.filter isNamed

/-- The child that plays a role, the first if there are several. -/
def childOf? (n : Node) (r : Role) : Option Node := n.children.find? fun c => c.role? = some r

/-- The text of a node, without bytes that stand for nothing. -/
def text (source : Bytes) (n : Node) : String :=
  Utf8.decodeLossy ((source.drop n.start).take (n.stop - n.start))

/-- The text of a node, if there is one, or else nothing. -/
def textOf (source : Bytes) (n? : Option Node) : String :=
  match n? with
  | some n => n.text source
  | none => ""

def isComment (n : Node) : Bool := n.kind = "line_comment" || n.kind = "block_comment"

def isPreamble (n : Node) : Bool := n.kind = "import_declaration" || n.kind = "package_declaration"

/-- The children that make up the sketch: no comments, imports or package. -/
def bodyChildren (root : Node) : List Node :=
  root.namedChildren.filter fun c => !c.isComment && !c.isPreamble

end Syntax.Node

open Syntax.Node

namespace Sketch

def isWrapped (s : Sketch) : Bool := 0 < s.offset

/-- Where a byte of the text that the tree was built from stands in the sketch. -/
def ownOffset (s : Sketch) (n : Nat) : Int := (n : Int) - s.offset

def textOf (s : Sketch) (n? : Option Node) : String := Node.textOf s.source n?

/-- The imports at the top of a tree, and those that an error at the top holds. -/
def findImports (source : Bytes) (root : Node) : List Import :=
  root.namedChildren.flatMap fun c =>
    -- imports in front of what cannot be read may end up in an error
    let candidates := if c.kind = "ERROR" then c.namedChildren else [c]
    (candidates.filter fun n => n.kind = "import_declaration").map fun n =>
      ⟨n.start, n.stop, n.text source⟩

def blank (source : Bytes) (start stop : Nat) : Bytes :=
  source.take start ++ List.replicate (stop - start) 32 ++ source.drop stop

/-- Puts blanks in the place of the imports, so that nothing else moves. -/
def blankImports (source : Bytes) (imports : List Import) : Bytes :=
  imports.foldl (fun s i => blank s i.start i.stop) source

def baseClass : String := "PApplet"

def afterLastDot (cs : List Char) : List Char :=
  ((cs.reverse.takeWhile (· ≠ '.'))).reverse

def isUnnamed (source : Bytes) (n : Node) : Bool :=
  (n.childOf? .superclass).any fun c => (blankSplit (c.text source).toList).isEmpty

/-- Whether a class extends the base class of sketches, to judge by the last word of the clause. A
clause without words is none that can be judged: see `stumbles`. -/
def extendsBase (source : Bytes) (n : Node) : Bool :=
  match n.childOf? .superclass with
  | none => false
  | some c =>
    match (blankSplit (c.text source).toList).getLast? with
    | some w => String.ofList (afterLastDot w) = baseClass
    | none => false

/-- The first class at the top that extends the base class of sketches. -/
def findSketchClass? (source : Bytes) (root : Node) : Option Node :=
  root.bodyChildren.find? fun c => c.kind = "class_declaration" && extendsBase source c

/-- Whether the search for the first class that extends the base class fails: it comes upon a class
that cannot be judged. -/
def stumbles (source : Bytes) (root : Node) : Bool :=
  (root.bodyChildren.find? fun c =>
    c.kind = "class_declaration" && (isUnnamed source c || extendsBase source c)).any
      (isUnnamed source)

def detectMode (source : Bytes) (root : Node) : Mode :=
  if (findSketchClass? source root).isSome then .java
  else if root.bodyChildren.any fun c => c.kind = "method_declaration" then .active
  else .static

def wrapperName : String := "PdeSketchWrapper"

/-- What comes in front of a sketch to make it a class. It ends no line. -/
def wrapperHead : Bytes := Utf8.encode s!"class {wrapperName} \x7b "

def wrapperTail : Bytes := Utf8.encode "\n\x7d\n"

/-- Reads a sketch: as it is if that goes without an error, else inside a class made up for it, and
as it is with its errors if that does not help. -/
def read (source : Bytes) : Sketch :=
  let (root, hasError) := Node.parse source
  let imports := findImports source root
  let plain : Sketch := { root, source, mode := detectMode source root, imports }
  if hasError then
    -- an import may not stand in a class
    let wrapped := wrapperHead ++ blankImports source imports ++ wrapperTail
    let (root', hasError') := Node.parse wrapped
    if hasError' then plain
    else
      { root := root', source := wrapped, mode := .active, offset := wrapperHead.length, imports }
  else plain

/-- Reads a sketch, unless a class at the top cannot be judged. Nothing is judged where the sketch is
read inside a class. -/
def read? (source : Bytes) : Option Sketch :=
  let s := read source
  if !s.isWrapped && stumbles s.source s.root then none else some s

/-- The class that holds the members of the sketch, if there is one in the tree. -/
def sketchClass? (s : Sketch) : Option Node :=
  match s.mode with
  | .static => none
  | .active =>
    if s.isWrapped then s.root.bodyChildren.find? fun c => c.kind = "class_declaration" else none
  | .java => findSketchClass? s.source s.root

def classBody? (s : Sketch) : Option Node := s.sketchClass?.bind (·.childOf? .body)

def methodNames (s : Sketch) : List String :=
  ((s.classBody?.getD s.root).namedChildren.filter fun c => c.kind = "method_declaration").map
    fun c => s.textOf (c.childOf? .name)

end Sketch

end Sketchbook
