import Sketchbook.Text.Quoted

namespace Sketchbook.Report

open Sketchbook.Text

inductive Datum where
  | null
  | flag (b : Bool)
  | number (n : Int)
  | text (s : String)
  | list (items : List Datum)
  | record (entries : List (String × Datum))
  deriving Repr

def escape (c : Char) : List Char :=
  if c = '"' || c = '\\' then ['\\', c]
  else if c = '\n' then ['\\', 'n']
  else if c = '\r' then ['\\', 'r']
  else if c = '\t' then ['\\', 't']
  else if c = '\x08' then ['\\', 'b']
  else if c = '\x0c' then ['\\', 'f']
  else if c.toNat < 32 then '\\' :: 'u' :: hexText 4 c.toNat
  else [c]

def textLiteral (s : String) : String := String.ofList ('"' :: s.toList.flatMap escape ++ ['"'])

def lineBreak (level : Nat) : String := "\n" ++ String.ofList (List.replicate (2 * level) ' ')

def bracketed (opening closing : String) (level : Nat) (parts : List String) : String :=
  if parts.isEmpty then opening ++ closing
  else
    opening ++ lineBreak (level + 1) ++ ("," ++ lineBreak (level + 1)).intercalate parts ++
      lineBreak level ++ closing

def insertEntry (e : String × String) : List (String × String) → List (String × String)
  | [] => [e]
  | x :: xs => if e.1 ≤ x.1 then e :: x :: xs else x :: insertEntry e xs

def sortEntries : List (String × String) → List (String × String)
  | [] => []
  | e :: es => insertEntry e (sortEntries es)

mutual

def Datum.render (level : Nat) : Datum → String
  | .null => "null"
  | .flag b => if b then "true" else "false"
  | .number n => toString n
  | .text s => textLiteral s
  | .list items => bracketed "[" "]" level (renderItems (level + 1) items)
  | .record entries =>
    let rendered := sortEntries (renderEntries (level + 1) entries)
    bracketed "\x7b" "\x7d" level (rendered.map fun (n, v) => textLiteral n ++ ": " ++ v)

def renderItems (level : Nat) : List Datum → List String
  | [] => []
  | d :: ds => d.render level :: renderItems level ds

def renderEntries (level : Nat) : List (String × Datum) → List (String × String)
  | [] => []
  | (n, d) :: es => (n, d.render level) :: renderEntries level es

end

end Sketchbook.Report
