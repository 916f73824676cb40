import Sketchbook.Toml.Scan

namespace Sketchbook.Toml

def hexValue? (c : Char) : Option Nat :=
  if c.isDigit then some (c.toNat - 48)
  else if 'a' ≤ c && c ≤ 'f' then some (c.toNat - 87)
  else if 'A' ≤ c && c ≤ 'F' then some (c.toNat - 55)
  else none

def hexNumber? (cs : List Char) : Option Nat :=
  cs.foldl (fun n c => n.bind fun n => (hexValue? c).map (n * 16 + ·)) (some 0)

def scanCode (count : Nat) (cs : List Char) : Except Fault (Scanned Char) :=
  match hexNumber? (cs.take count) with
  | some n =>
    if (cs.take count).length < count then fail .badHex cs
    else if h : n.isValidChar then .ok (Char.ofNatAux n h, cs.drop count)
    else fail .notScalar (cs.drop count)
  | none => fail .badHex cs

def escapes : List (Char × Char) :=
  [('b', '\x08'), ('t', '\t'), ('n', '\n'), ('f', '\x0c'), ('r', '\r'), ('"', '"'), ('\\', '\\')]

def scanEscape (cs : List Char) : Except Fault (Scanned (List Char)) :=
  match cs with
  | 'u' :: rest => (scanCode 4 rest).map fun (c, r) => ([c], r)
  | 'U' :: rest => (scanCode 8 rest).map fun (c, r) => ([c], r)
  | c :: rest =>
    match escapes.lookup c with
    | some d => .ok ([d], rest)
    | none => fail .badEscape rest
  | [] => fail .badEscape []

/-- Reads what follows a backslash in a text of several lines, where it may also hide a line end
with all blanks after it. -/
def scanLineEscape (cs : List Char) : Except Fault (Scanned (List Char)) :=
  match cs with
  | '\n' :: rest => .ok ([], rest.dropWhile isArrayGap)
  | c :: rest =>
    if isGap c then
      match skipGap rest with
      | [] => .ok ([], [])
      | '\n' :: more => .ok ([], more.dropWhile isArrayGap)
      | more => fail .badEscape more
    else scanEscape (c :: rest)
  | [] => scanEscape []

def scanBasic (lines : Bool) : Nat → List Char → Except Fault (Scanned (List Char))
  | 0, cs => fail .openString cs
  | _ + 1, [] => fail .openString []
  | fuel + 1, c :: cs =>
    if c = '"' then
      if !lines then .ok ([], cs)
      else match cs with
        | '"' :: '"' :: rest => .ok ([], rest)
        | _ => (scanBasic lines fuel cs).map fun (s, r) => (c :: s, r)
    else if c = '\\' then do
      let (e, rest) ← if lines then scanLineEscape cs else scanEscape cs
      (scanBasic lines fuel rest).map fun (s, r) => (e ++ s, r)
    else if (if lines then isControlInLines c else isControl c) then
      fail (.illegalInString c) (c :: cs)
    else (scanBasic lines fuel cs).map fun (s, r) => (c :: s, r)

/-- Reads the rest of a string between single quotes, up to the given closing ones. -/
def scanLiteral (stop : String) (bad : Char → Bool) (cs : List Char) :
    Except Fault (Scanned (List Char)) :=
  match splitBefore stop.toList cs with
  | none => fail (.expected stop) []
  | some (front, rest) => do
    refuse bad front rest
    return (front, rest.drop stop.length)

def addQuotes (quote : Char) (text : List Char) : List Char → List Char × List Char
  | a :: b :: rest =>
    if a = quote then
      if b = quote then (text ++ [a, b], rest) else (text ++ [a], b :: rest)
    else (text, a :: b :: rest)
  | [a] => if a = quote then (text ++ [a], []) else (text, [a])
  | [] => (text, [])

def dropLineEnd : List Char → List Char
  | '\n' :: cs => cs
  | cs => cs

/-- Reads a string of one line, from the character behind its first quote. -/
def scanLine (quote : Char) (cs : List Char) : Except Fault (Scanned String) :=
  (if quote = '"' then scanBasic false (cs.length + 1) cs else scanLiteral "'" isControl cs).map
    fun (s, r) => (String.ofList s, r)

/-- Reads a string of several lines, from the character behind its first three quotes. -/
def scanLines (quote : Char) (cs : List Char) : Except Fault (Scanned String) :=
  let body := dropLineEnd cs
  (if quote = '"' then scanBasic true (body.length + 1) body
    else scanLiteral "'''" isControlInLines body).map fun (s, r) =>
      let (s, r) := addQuotes quote s r
      (String.ofList s, r)

def scanKeyPart (cs : List Char) : Except Fault (Scanned String) :=
  match cs with
  | [] => fail .noKey []
  | c :: rest =>
    if isBareKey c then .ok (String.ofList (cs.takeWhile isBareKey), cs.dropWhile isBareKey)
    else if c = '\'' || c = '"' then scanLine c rest
    else fail .noKey cs

def scanKeyParts : Nat → List Char → Except Fault (Scanned Key)
  | 0, cs => fail .noKey cs
  | fuel + 1, cs => do
    let (part, rest) ← scanKeyPart cs
    match skipGap rest with
    | '.' :: more => (scanKeyParts fuel (skipGap more)).map fun (k, r) => (part :: k, r)
    | rest => return ([part], rest)

def scanKey (cs : List Char) : Except Fault (Scanned Key) := scanKeyParts (cs.length + 1) cs

end Sketchbook.Toml
