import Sketchbook.Cli.Letter

namespace Sketchbook.Cli

open Sketchbook.Text

abbrev Path := List Word

def Path.word (p : Path) : Word := .char '/' :: [.char '/'].intercalate p

inductive PathError where
  | missing
  | notFolder
  | isFolder
  | nameTooLong
  deriving Repr, DecidableEq

namespace PathError

def number : PathError → Nat
  | .missing => 2
  | .notFolder => 20
  | .isFolder => 21
  | .nameTooLong => 36

def reason : PathError → String
  | .missing => "No such file or directory"
  | .notFolder => "Not a directory"
  | .isFolder => "Is a directory"
  | .nameTooLong => "File name too long"

def describe (path : Path) (e : PathError) : String :=
  "[Errno " ++ toString e.number ++ "] " ++ e.reason ++ ": " ++ path.word.quoted

end PathError

/-- Files and folders, the folder in which a run starts, and the homes of users. All folders on the
way to a file, to the start and to the own home exist. There is `room` for so many calls within one
another while a value of the settings is read, and `details` are the lines in which the faults of a
settings file are named. -/
structure World where
  files : List (Path × Bytes)
  folders : List Path := []
  here : Path
  home : Path
  users : List (Word × Path) := []
  room : Nat := 991
  details : Bytes → String := fun _ => ""

namespace World

def file? (w : World) (p : Path) : Option Bytes := w.files.lookup p

def isFolder (w : World) (p : Path) : Bool :=
  (w.here :: w.home :: w.folders).any (p.isPrefixOf ·) ||
    w.files.any fun f => p.isPrefixOf f.1 && p ≠ f.1

def maxName : Nat := 255

/-- The place that is reached from a folder by some names. The last need not exist. -/
def locate (w : World) (folder : Path) : List Word → Except PathError Path
  | [] => .ok folder
  | name :: rest =>
    if name = (".." : String) then w.locate folder.dropLast rest
    -- a name is too long before anything is looked up
    else if maxName < name.size then .error .nameTooLong
    else
      let next := folder ++ [name]
      if rest.isEmpty then .ok next
      else if w.isFolder next then w.locate next rest
      else .error (if (w.file? next).isSome then .notFolder else .missing)

def readFile (w : World) (p : Path) : Except PathError Bytes := do
  let place ← w.locate [] p
  if w.isFolder place then throw .isFolder
  match w.file? place with
  | some bytes => return bytes
  | none => throw .missing

def fileAt? (w : World) (p : Path) : Except PathError (Option Bytes) :=
  match w.readFile p with
  | .ok bytes => .ok (some bytes)
  | .error .nameTooLong => .error .nameTooLong
  | .error _ => .ok none

def writable (w : World) (folder : Path) (names : List Word) : Except PathError Path := do
  let place ← w.locate folder names
  if w.isFolder place then throw .isFolder
  return place

end World

/-- A path as it is given: from the root or from the folder where a run starts. -/
structure GivenPath where
  absolute : Bool
  names : List Word
  deriving Repr, DecidableEq

namespace GivenPath

/-- Reads a path. Empty names and single dots do not count. -/
def ofWord (w : Word) : GivenPath :=
  ⟨w.head? = some (.char '/'),
    (w.splitOn (.char '/')).filter fun n => !n.isEmpty && n ≠ ("." : String)⟩

/-- The path with a tilde in front replaced by a home; `none` if nobody is known by the name. -/
def expand? (w : World) (p : GivenPath) : Option GivenPath :=
  match p.absolute, p.names with
  | false, name :: rest =>
    match name with
    | [.char '~'] => some ⟨true, w.home ++ rest⟩
    | .char '~' :: user => (w.users.lookup user).map fun home => ⟨true, home ++ rest⟩
    | _ => some p
  | _, _ => some p

def base (w : World) (p : GivenPath) : Path := if p.absolute then [] else w.here

def follow (folder : Path) (names : List Word) : Path :=
  names.foldl (fun p n => if n = ((".." : String) : Word) then p.dropLast else p ++ [n]) folder

def resolve (w : World) (p : GivenPath) : Path := follow (p.base w) p.names

end GivenPath

end Sketchbook.Cli
