import Sketchbook.Config.Basic
import Sketchbook.Settings.Survey
import Sketchbook.Unit.Accessor
import Sketchbook.Unit.Name

/-!
The class file for a sketch. The sketch itself is copied with insertions alone; what it lacks is put
in front and behind, so that a line of the sketch is found a fixed number of lines further down.
-/
namespace Sketchbook

open Sketchbook.Text Sketchbook.Settings Sketchbook.Editing
open Sketchbook.Syntax (Node)

structure Generated where
  code : String
  mode : Mode
  lineOffset : Nat
  metadata : Metadata
  edits : List Edit
  accessors : List Accessor
  warnings : List Warning
  calls : List Call
  deriving Repr, DecidableEq

def maxLength : Nat := 9223372036854775807

inductive GenerateError where
  | invalidName (name : String)
  | unnamedSuperclass
  | survey (e : SurveyError)
  | tooWide (indent : Nat)
  | render (e : RenderError)
  deriving Repr, DecidableEq

def invalidNameMessage (name : String) : String := "'" ++ name ++ "' is not a valid sketch name"

def GenerateError.message? : GenerateError → Option String
  | .invalidName name => some (invalidNameMessage name)
  | .unnamedSuperclass => some "list index out of range"
  | .survey e => some e.message
  | .tooWide indent =>
    -- one level is made of blanks, several levels of one
    some (if maxLength < indent then "cannot fit 'int' into an index-sized integer"
      else "repeated string is too long")
  | .render e => e.message?

namespace Generate

def preamble : String := "/* autogenerated by sketch-preproc */"

def movedOpen : String := "/* moved to header: "

def movedClose : String := " */"

def fits (c : Config) (levels : Nat) : Bool := c.indent * levels ≤ maxLength

/-- Blanks for a number of levels. None are made unless a text can have them: see `depth`. -/
def pad (c : Config) (levels : Nat) : String :=
  String.ofList (List.replicate (c.indent * levels) ' ')

def header (c : Config) (name package : String) (s : Sketch) : List String :=
  [preamble, "package " ++ package ++ ";", ""] ++
    c.imports.map (fun i => "import " ++ i ++ ";") ++
    (if s.mode = .java then [] else s.imports.map (·.text)) ++ [""] ++
    (if s.mode = .java then [] else ["public class " ++ name ++ " extends PApplet \x7b"]) ++
    (if s.mode = .static then [pad c 1 ++ "public void setup() \x7b"] else [])

def mainMethod (c : Config) (className : String) : String :=
  pad c 1 ++ "static public void main(String[] passedArgs) \x7b\n" ++
  pad c 2 ++ "String[] appletArgs = new String[] \x7b \"" ++ className ++ "\" \x7d;\n" ++
  pad c 2 ++ "if (passedArgs != null) \x7b\n" ++
  pad c 3 ++ "PApplet.main(concat(appletArgs, passedArgs));\n" ++
  pad c 2 ++ "\x7d else \x7b\n" ++
  pad c 3 ++ "PApplet.main(appletArgs);\n" ++
  pad c 2 ++ "\x7d\n" ++
  pad c 1 ++ "\x7d\n"

def members (c : Config) (accessors : List Accessor) (hasMain : Bool) (className : String) :
    String :=
  Accessor.renderAll (pad c 1) accessors ++
    (if hasMain then "" else "\n" ++ mainMethod c className)

def footer (c : Config) (mode : Mode) (accessors : List Accessor) (hasMain : Bool)
    (name : String) : String :=
  "\n" ++
    (if mode = .static then pad c 2 ++ "noLoop();\n" ++ pad c 1 ++ "\x7d\n" else "") ++
    members c accessors hasMain name ++ "\x7d\n"

def importEdits (imports : List Import) : List Edit :=
  imports.flatMap fun i =>
    [Edit.insertBefore i.start movedOpen, Edit.insertAfter i.stop movedClose]

/-- The brace that closes a class body, if the body ends with one. -/
def closingBrace? (body : Node) : Option Node := body.children.getLast?.filter (·.kind = "\x7d")

/-- The most levels that a line around a sketch is indented by. The blanks in front of accessors are
made even where there are no accessors, as long as there is a place for them. -/
def depth (s : Sketch) (hasMain : Bool) : Nat :=
  if s.mode = .java && (s.classBody?.bind closingBrace?).isNone then 0
  else if !hasMain then 3
  else if s.mode = .static then 2
  else 1

/-- The edit that adds members to the sketch's own class, if there is anything to add. -/
def memberEdits (c : Config) (name : String) (s : Sketch) (accessors : List Accessor)
    (hasMain : Bool) : List Edit :=
  match s.sketchClass?, s.classBody? with
  | some cls, some body =>
    match closingBrace? body with
    | some brace =>
      -- the sketch starts the class that it is, whatever its file is called
      let className := match cls.childOf? .name with
        | some n => n.text s.source
        | none => name
      let text := members c accessors hasMain className
      if text = "" then [] else [Edit.insertBefore (s.ownOffset brace.start) text]
    | none => []
  | _, _ => []

/-- The edits besides those of the calls: members for a class of the sketch's own, or else imports
that are moved. -/
def otherEdits (c : Config) (name : String) (s : Sketch) (accessors : List Accessor)
    (hasMain : Bool) : List Edit :=
  if s.mode = .java then memberEdits c name s accessors hasMain else importEdits s.imports

def closing (c : Config) (name : String) (s : Sketch) (accessors : List Accessor)
    (hasMain : Bool) : String :=
  if s.mode = .java then "" else footer c s.mode accessors hasMain name

def collect {σ : Type} (report : σ → Warning → σ) (kept : List Warning × σ) (w : Warning) :
    List Warning × σ :=
  (kept.1 ++ [w], report kept.2 w)

/-- Makes the class file for a sketch that was read from `source`. Warnings go to `report`, which
adds them to `log`, before the edits are made. -/
def assemble {σ : Type} (report : σ → Warning → σ) (source : Bytes) (name package : String)
    (c : Config) (s : Sketch) (log : σ) : Except GenerateError Generated × σ :=
  match survey s c.entryMethod with
  | .error e => (.error (.survey e), log)
  | .ok found =>
    let (accessors, warnings, log) := found.metadata.emit (collect report) ([], log)
    -- by now the warnings have been passed on
    let hasMain := s.methodNames.contains "main"
    if !fits c (depth s hasMain) then (.error (.tooWide c.indent), log)
    else
      let lines := header c name package s
      let edits := found.edits ++ otherEdits c name s accessors hasMain
      match render source edits with
      | .error e => (.error (.render e), log)
      | .ok body =>
        (.ok {
          code := "\n".intercalate lines ++ "\n" ++ body ++ closing c name s accessors hasMain
          mode := s.mode
          lineOffset := lines.length
          metadata := found.metadata
          edits
          accessors
          warnings
          calls := found.calls }, log)

/-- The package to be used: an empty name stands for the configured one. -/
def packageOf (package? : Option String) (c : Config) : String :=
  match package? with
  | some p => if p = "" then c.packageName else p
  | none => c.packageName

end Generate

open Generate in
/-- Makes the class file for a sketch and adds what is to be said about it to `log`. -/
def generateWith {σ : Type} (report : σ → Warning → σ) (source : Bytes) (name : String)
    (package? : Option String) (c : Config) (log : σ) : Except GenerateError Generated × σ :=
  if !ClassName.isValid name then (.error (.invalidName name), log)
  else match Sketch.read? source with
    | none => (.error .unnamedSuperclass, log)
    | some s => assemble report source name (packageOf package? c) c s log

def generate (source : Bytes) (name : String) (package? : Option String) (c : Config) :
    Except GenerateError Generated :=
  (generateWith (fun _ _ => ()) source name package? c ()).1

end Sketchbook
