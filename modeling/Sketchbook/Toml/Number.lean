import Sketchbook.Record.Whole
import Sketchbook.Toml.Quotation

namespace Sketchbook.Toml

open Sketchbook.Record

/-- Digits of a class with single underscores between them: the digits and what follows. -/
def digitRun (p : Char → Bool) : List Char → List Char × List Char
  | [] => ([], [])
  | [c] => if p c then ([c], []) else ([], [c])
  | c :: d :: rest =>
    if p c then
      let (ds, r) := digitRun p (d :: rest)
      (c :: ds, r)
    else if c = '_' && p d then digitRun p (d :: rest)
    else ([], c :: d :: rest)

/-- Digits of a class, the first of which is no underscore; `none` if there are none. -/
def digits? (p : Char → Bool) (cs : List Char) : Option (List Char × List Char) :=
  match cs with
  | c :: _ => if p c then some (digitRun p cs) else none
  | [] => none

def bases : List (Char × Nat) := [('x', 16), ('b', 2), ('o', 8)]

def isDigitIn (base : Nat) (c : Char) : Bool := (hexValue? c).any (· < base)

def based? : List Char → Option (Nat × List Char)
  | '0' :: letter :: cs => do
    let base ← bases.lookup letter
    let (ds, rest) ← digits? (isDigitIn base) cs
    some (ds.foldl (fun n c => n * base + (hexValue? c).getD 0) 0, rest)
  | _ => none

def sign : List Char → Bool × List Char
  | '-' :: cs => (true, cs)
  | '+' :: cs => (false, cs)
  | cs => (false, cs)

/-- The digits in front of the point: a single zero, or a run that starts with none. -/
def integer? : List Char → Option (List Char × List Char)
  | '0' :: cs => some (['0'], cs)
  | cs => digits? Char.isDigit cs

def fraction? : List Char → Option (List Char × List Char)
  | '.' :: cs => digits? Char.isDigit cs
  | _ => none

def power? : List Char → Option (Int × List Char)
  | c :: cs =>
    if c = 'e' || c = 'E' then
      let (negative, cs) := sign cs
      (digits? Char.isDigit cs).map fun (ds, r) =>
        (if negative then -(Whole.ofDigits ds : Int) else Whole.ofDigits ds, r)
    else none
  | [] => none

/-- A decimal number. It is whole if it has neither a fraction nor a power of ten. -/
def decimal? (cs : List Char) : Option (Except Cause Value × List Char) := do
  let (negative, cs) := sign cs
  let (ds, rest) ← integer? cs
  match fraction? rest, power? rest with
  | none, none =>
    let n : Int := Whole.ofDigits ds
    some (if maxDigits < ds.length then .error (.tooManyDigits ds.length)
      else .ok (.int (if negative then -n else n)), rest)
  | none, some (e, rest) => some (.ok (.float (.ofDecimal negative (Whole.ofDigits ds) e)), rest)
  | some (fs, rest), _ =>
    let (e, rest) := (power? rest).getD (0, rest)
    some (.ok (.float (.ofDecimal negative (Whole.ofDigits (ds ++ fs)) (e - fs.length))), rest)

def numberWord? (cs : List Char) : Option (Binary64 × List Char) :=
  let (negative, rest) := sign cs
  if startsWith "inf" rest then some (.infinite negative, rest.drop 3)
  else if startsWith "nan" rest then some (.nan, rest.drop 3)
  else none

/-- A number of exactly so many digits, within bounds. -/
def fixed? (count lo hi : Nat) (cs : List Char) : Option (Nat × List Char) :=
  let ds := cs.take count
  let n := Whole.ofDigits ds
  if ds.length = count && ds.all Char.isDigit && lo ≤ n && n ≤ hi then some (n, cs.drop count)
  else none

def after? (c : Char) : List Char → Option (List Char)
  | d :: cs => if d = c then some cs else none
  | [] => none

/-- What follows a time of day: hours, minutes, seconds and any parts of a second. -/
def time? (cs : List Char) : Option (List Char) := do
  let (_, cs) ← fixed? 2 0 23 cs
  let (_, cs) ← fixed? 2 0 59 (← after? ':' cs)
  let (_, cs) ← fixed? 2 0 59 (← after? ':' cs)
  match cs with
  | '.' :: d :: rest => if d.isDigit then some (rest.dropWhile Char.isDigit) else some cs
  | cs => some cs

/-- What follows the distance from universal time, if it is given. -/
def dropZone (cs : List Char) : List Char :=
  match cs with
  | c :: rest =>
    if c = 'Z' || c = 'z' then rest
    else if c = '+' || c = '-' then
      ((do
        let (_, cs) ← fixed? 2 0 23 rest
        let (_, cs) ← fixed? 2 0 59 (← after? ':' cs)
        some cs) : Option (List Char)).getD cs
    else cs
  | [] => []

def daysIn (year month : Nat) : Nat :=
  if month = 2 then if year % 4 = 0 && (year % 100 ≠ 0 || year % 400 = 0) then 29 else 28
  else if month = 4 || month = 6 || month = 9 || month = 11 then 30
  else 31

/-- A date, with a time of day if one follows: whether there is such a day, and what follows. -/
def date? (cs : List Char) : Option (Bool × List Char) := do
  let (year, cs) ← fixed? 4 0 9999 cs
  let (month, cs) ← fixed? 2 1 12 (← after? '-' cs)
  let (day, cs) ← fixed? 2 1 31 (← after? '-' cs)
  let rest := match cs with
    | c :: more =>
      if c = 'T' || c = 't' || c = ' ' then ((time? more).map dropZone).getD cs else cs
    | [] => []
  some (0 < year && day ≤ daysIn year month, rest)

def scanScalar (cs : List Char) : Except Fault (Scanned Value) :=
  match date? cs with
  | some (true, rest) => .ok (.moment, rest)
  | some (false, _) => fail .badDate cs
  | none =>
    match time? cs with
    | some rest => .ok (.moment, rest)
    | none =>
      match based? cs with
      | some (n, rest) => .ok (.int n, rest)
      | none =>
        match decimal? cs with
        | some (.ok v, rest) => .ok (v, rest)
        | some (.error c, _) => fail c cs
        | none =>
          match numberWord? cs with
          | some (x, rest) => .ok (.float x, rest)
          | none => fail .noValue cs

end Sketchbook.Toml
