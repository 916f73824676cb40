import Sketchbook.Editing.Edit
import Sketchbook.Editing.Span
import Sketchbook.Settings.Arguments
import Sketchbook.Settings.Metadata
import Sketchbook.Settings.Scope

namespace Sketchbook.Settings

open Sketchbook.Syntax (Node)
open Sketchbook.Editing

/-- A node with the nodes above it, nearest first. -/
structure Visited where
  node : Node
  ancestors : List Node

mutual

/-- A tree in the order of its text, each node with the nodes above it. -/
def preorder (ancestors : List Node) : Node → List Visited
  | n@(.mk _ _ _ _ _ _ children) => ⟨n, ancestors⟩ :: preorderAll (n :: ancestors) children

def preorderAll (ancestors : List Node) : List Node → List Visited
  | [] => []
  | n :: rest => preorder ancestors n ++ preorderAll ancestors rest

end

mutual

def nodeCount : Node → Nat
  | .mk _ _ _ _ _ _ children => 1 + nodeCountAll children

def nodeCountAll : List Node → Nat
  | [] => 0
  | n :: rest => nodeCount n + nodeCountAll rest

end

/-- Takes the topmost node off a stack and puts its children in its place, the first on top. -/
def walkFrom : Nat → List Visited → List Visited
  | 0, _ => []
  | _, [] => []
  | fuel + 1, v :: stack =>
    v :: walkFrom fuel ((v.node.children.map fun c => ⟨c, v.node :: v.ancestors⟩) ++ stack)

/-- The nodes of a tree as they are come upon with a stack. -/
def walk (root : Node) : List Visited := walkFrom (nodeCount root) [⟨root, []⟩]

/-- The texts of the arguments of a call, without comments. -/
def argumentTexts (sketch : Sketch) (call : Node) : List String :=
  match call.childOf? .arguments with
  | none => []
  | some list => (list.namedChildren.filter fun c => !c.isComment).map fun c => c.text sketch.source

/-- What a node sets, if it is a call that sets something. A call of an object's method is none, nor
is one of `smooth` without exactly one argument. -/
def settingOf? (sketch : Sketch) (n : Node) : Option Setting :=
  if n.kind ≠ "method_invocation" || (n.childOf? .object).isSome then none
  else
    let name := sketch.textOf (n.childOf? .name)
    if name = Setting.size.name then some .size
    -- any other call of `smooth` is left to the sketch
    else if name = Setting.smooth.name && (argumentTexts sketch n).length = 1 then some .smooth
    else none

def callAt (sketch : Sketch) (entryMethod : String) (setting : Setting) (v : Visited) : Call :=
  let n := v.node
  let site : Site :=
    { setting
      arguments := argumentTexts sketch n
      start := sketch.ownOffset n.start
      stop := sketch.ownOffset n.stop
      line := (n.row : Int) + 1 }
  let scope := classify sketch entryMethod v.ancestors
  let assessment :=
    if scope = .invalid then ⟨false, {}, some .scope⟩ else setting.assess site.arguments
  ⟨site, scope, assessment⟩

/-- The calls of a sketch that set something, in the order of the text. -/
def callsOf (sketch : Sketch) (entryMethod : String) : List Call :=
  (walk sketch.root).filterMap fun v =>
    (settingOf? sketch v.node).map fun s => callAt sketch entryMethod s v

/-- The calls of a sketch, what they come to, and the edits that take out the calls that decide. -/
structure Survey where
  metadata : Metadata
  edits : List Edit
  calls : List Call
  deriving Repr, DecidableEq

inductive SurveyError where
  | recorder (e : RecorderError)
  | overlap (o : Overlap)
  | alreadyVisited
  deriving Repr, DecidableEq

def SurveyError.message : SurveyError → String
  | .recorder e => e.message
  | .overlap o => o.message
  | .alreadyVisited => "a sketch tree can only be visited once"

def recordAll (calls : List Call) : Except RecorderError Recorder :=
  calls.foldlM (fun r c => r.record c.site c.assessment) {}

def survey (sketch : Sketch) (entryMethod : String) : Except SurveyError Survey := do
  let calls := callsOf sketch entryMethod
  let recorder ← (recordAll calls).mapError .recorder
  let (recorder, metadata) := recorder.freeze
  let deciding ← recorder.decidingSites.mapError .recorder
  -- no call may be taken out within another one
  (Span.checkDisjoint (deciding.map fun s => ⟨s.start, s.stop⟩)).mapError .overlap
  return ⟨metadata, deciding.flatMap fun s => Edit.commentOut s.start s.stop, calls⟩

structure Surveyor where
  sketch : Sketch
  entryMethod : String
  done : Bool := false

def Surveyor.visit (s : Surveyor) : Surveyor × Except SurveyError Survey :=
  if s.done then (s, .error .alreadyVisited)
  else ({ s with done := true }, survey s.sketch s.entryMethod)

end Sketchbook.Settings
