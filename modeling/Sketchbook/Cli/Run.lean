import Sketchbook.Cli.Request
import Sketchbook.Cli.World
import Sketchbook.Config.Load
import Sketchbook.Report.Inspection

namespace Sketchbook.Cli

open Sketchbook.Text Sketchbook.Settings

/-- A failure that the program does not handle. -/
inductive Crash where
  | undecodable
  | unencodable
  | nulInPath
  | unknownUser
  | tooManyDigits (message : String)
  | tooDeep
  | generation (e : GenerateError)
  | output (e : PathError)
  deriving Repr, DecidableEq

/-- How a run ends: with a number, or by a failure. -/
inductive Exit where
  | code (n : Nat)
  | crash (c : Crash)
  deriving Repr, DecidableEq

structure Outcome where
  exit : Exit
  stdout : String := ""
  stderr : String := ""
  written? : Option (Path × String) := none
  deriving Repr, DecidableEq

def unifyLineEnds : List Char → List Char
  | '\r' :: '\n' :: cs => '\n' :: unifyLineEnds cs
  | '\r' :: cs => '\n' :: unifyLineEnds cs
  | c :: cs => c :: unifyLineEnds cs
  | [] => []

def textOf? (bytes : Bytes) : Option String :=
  (Utf8.decode? bytes).map fun s => String.ofList (unifyLineEnds s.toList)

def failed (message : String) : Outcome :=
  { exit := .code 1, stderr := "error: " ++ message ++ "\n" }

def logLine (c : Call) : String :=
  "DEBUG preproc.visitor: " ++ c.site.setting.name ++ "() at line " ++ toString c.site.line ++
    ": scope=" ++ c.scope.name ++ " valid=" ++
    (if c.assessment.valid then "True" else "False") ++ "\n"

def notes (verbose : Bool) (source : Bytes) (c : Config) : String :=
  match verbose, Sketch.read? source with
  | true, some s => String.join ((callsOf s c.entryMethod).map logLine)
  | _, _ => ""

/-- Puts generated code where it belongs. Code that holds a byte of the command line that belongs to
no character cannot be encoded. -/
def deliver (w : World) (code : String) (encodable : Bool) (stderr : String) :
    Option Word → Outcome
  | none =>
    if encodable then { exit := .code 0, stdout := code, stderr }
    else { exit := .crash .unencodable, stderr }
  | some out =>
    if out.contains (.char '\x00') then { exit := .crash .nulInPath, stderr }
    else match (GivenPath.ofWord out).expand? w with
      | none => { exit := .crash .unknownUser, stderr }
      | some p =>
        match w.writable (p.base w) p.names with
        | .error e => { exit := .crash (.output e), stderr }
        | .ok place =>
          -- the file is opened, and by that made empty, before anything is encoded
          if encodable then { exit := .code 0, stderr, written? := some (place, code) }
          else { exit := .crash .unencodable, stderr, written? := some (place, "") }

/-- Does with a sketch what is asked for. Warnings are shown as they come up. -/
def process (w : World) (r : Request) (path : Path) (c : Config) (text : String) : Outcome :=
  let source := Utf8.encode text
  match generateWith (fun shown warning => shown ++ warning.display) source
      (ClassName.ofPath path.word.text) (r.package?.map Word.text) c
      (notes r.verbose source c) with
  | (.error (.invalidName n), _) => failed (invalidNameMessage n)
  | (.error e, stderr) => { exit := .crash (.generation e), stderr }
  | (.ok g, stderr) =>
    match r.command with
    | .transpile => deliver w g.code (r.package?.all Word.isText) stderr r.out?
    | .inspect => { exit := .code 0, stdout := g.report.render 0 ++ "\n", stderr }

def runAt (w : World) (r : Request) (path : Path) : Outcome :=
  let unreadable := fun (p : Path) (e : PathError) =>
    failed ("cannot read sketch " ++ path.word.shown ++ ": " ++ e.describe p)
  -- the settings lie beside the sketch, and are read first
  let settings : Path := path.dropLast ++ [(Config.fileName : Word)]
  match w.fileAt? settings with
  | .error e => unreadable settings e
  | .ok file =>
    match Config.load w.room file with
    | .error .undecodable => { exit := .crash .undecodable }
    | .error (.unreadable (.tooManyDigits m)) => { exit := .crash (.tooManyDigits m) }
    | .error (.unreadable .tooDeep) => { exit := .crash .tooDeep }
    | .error (.unreadable (.malformed m)) =>
      failed (Config.malformedMessage settings.word.shown m)
    | .error (.refused issues) =>
      failed (Config.refusedMessage settings.word.shown (w.details (file.getD [])) issues)
    | .ok c =>
      match w.readFile path with
      | .error e => unreadable path e
      | .ok bytes =>
        match textOf? bytes with
        | none => { exit := .crash .undecodable }
        | some text => process w r path c text

def run (w : World) (words : List Word) : Outcome :=
  match Request.ofWords words with
  | .error (.help l) => { exit := .code 0, stdout := l.help }
  | .error (.refused l c) =>
    { exit := .code 2, stderr := l.usage ++ l.title ++ ": error: " ++ c.message ++ "\n" }
  | .ok r =>
    if r.sketch.contains (.char '\x00') then { exit := .crash .nulInPath }
    else match (GivenPath.ofWord r.sketch).expand? w with
      | none => { exit := .crash .unknownUser }
      | some p => runAt w r (p.resolve w)

end Sketchbook.Cli
