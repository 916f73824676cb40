import Sketchbook.Text.Blank
import Sketchbook.Record.Value
import Sketchbook.Record.Issue

/-!
Whole numbers where a value may stand for one: a truth value, a number without a fraction or a text.
A text may have white space around it, a sign, zeros in front, underscores between digits, and a
point with zeros behind it.
-/
namespace Sketchbook.Record

open Sketchbook.Text

namespace Whole

def ofDigits (cs : List Char) : Nat := cs.foldl (fun n c => n * 10 + (c.toNat - 48)) 0

/-- Digits without a zero in front, or a single zero. -/
def isCanonical : List Char → Bool
  | ['0'] => true
  | c :: rest => c ≠ '0' && (c :: rest).all Char.isDigit
  | [] => false

/-- The number in the plain form: a minus sign, if there is one, and digits, no zero first. -/
def ofPlain? : List Char → Option Int
  | '-' :: cs => if isCanonical cs then some (-(ofDigits cs : Int)) else none
  | cs => if isCanonical cs then some (ofDigits cs) else none

/-- Goes on behind a leading zero or underscore, which stays if no digit follows. -/
def dropZerosAfter (last : Char) : List Char → Option (List Char)
  | [] => some [last]
  | c :: rest =>
    if c = '0' || c = '_' then dropZerosAfter c rest
    else if c = '.' then some (last :: c :: rest)
    else if c.isDigit then some (c :: rest)
    else none

/-- The text without the zeros in front; `none` if it starts as no number does. -/
def dropZeros? : List Char → Option (List Char)
  | '0' :: rest => dropZerosAfter '0' rest
  | c :: rest => if c.isDigit || c = '-' then some (c :: rest) else none
  | [] => none

def dropFraction (cs : List Char) : List Char :=
  if ((cs.dropWhile (· ≠ '.')).drop 1).all (· = '0') then cs.takeWhile (· ≠ '.') else cs

def hasDouble : List Char → Bool
  | '_' :: '_' :: _ => true
  | _ :: rest => hasDouble rest
  | [] => false

/-- The text without its underscores, if each of them stands alone between two other characters. -/
def dropUnderscores (cs : List Char) : List Char :=
  if cs.head? = some '_' || cs.getLast? = some '_' || hasDouble cs then cs else cs.filter (· ≠ '_')

/-- The text without a plus sign in front, unless a second sign follows. -/
def dropPlus : List Char → List Char
  | '+' :: c :: rest => if c = '+' || c = '-' then '+' :: c :: rest else c :: rest
  | cs => cs

def maxLength : Nat := 4300

def ofText (s : String) : Except Cause Int :=
  let cs := trimWhiteSpace s.toList
  if maxLength < (String.ofList cs).utf8ByteSize then .error .tooLarge
  else
    let cleaned := (dropZeros? (dropPlus cs)).map fun ds => dropUnderscores (dropFraction ds)
    -- the plain form goes first, so that a text in it is not cleaned
    match (ofPlain? cs).or (cleaned.bind ofPlain?) with
    | some n => .ok n
    | none => .error .unreadable

def ofBinary (x : Binary64) : Except Cause Int :=
  match x with
  | .finite .. =>
    match x.whole? with
    | some n => if n.natAbs < Binary64.twoTo 63 then .ok n else .error .tooLarge
    | none => .error .fractional
  | _ => .error .notFinite

end Whole

def Value.whole : Value → Except Cause Int
  | .bool b => .ok (if b then 1 else 0)
  | .int n => .ok n
  | .float x => Whole.ofBinary x
  | .string s => Whole.ofText s
  | _ => .error .notWhole

end Sketchbook.Record
