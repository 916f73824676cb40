import Sketchbook.Toml.Fault

namespace Sketchbook.Toml

def startsWith (front : String) (cs : List Char) : Bool := front.toList.isPrefixOf cs

def isGap (c : Char) : Bool := c = ' ' || c = '\t'

def isArrayGap (c : Char) : Bool := isGap c || c = '\n'

def isControl (c : Char) : Bool := (c.toNat < 32 && c ≠ '\t') || c.toNat = 127

def isControlInLines (c : Char) : Bool := isControl c && c ≠ '\n'

def isBareKey (c : Char) : Bool := c.isAlphanum || c = '-' || c = '_'

def skipGap (cs : List Char) : List Char := cs.dropWhile isGap

/-- The text in front of the first place where another stands, and what follows from there. -/
def splitBefore (stop : List Char) : List Char → Option (List Char × List Char)
  | [] => if stop.isEmpty then some ([], []) else none
  | c :: cs =>
    if stop.isPrefixOf (c :: cs) then some ([], c :: cs)
    else (splitBefore stop cs).map fun (a, b) => (c :: a, b)

/-- Fails at the first character of a class within the text in front of `rest`. -/
def refuse (p : Char → Bool) (front rest : List Char) : Except Fault Unit :=
  match front.dropWhile (fun c => !p c) with
  | [] => .ok ()
  | c :: more => .error ⟨.badCharacter c, more.length + 1 + rest.length⟩

def skipComment (cs : List Char) : Except Fault (List Char) :=
  match cs with
  | '#' :: rest => do
    let comment := rest.takeWhile (· ≠ '\n')
    let after := rest.dropWhile (· ≠ '\n')
    refuse isControl comment after
    return after
  | cs => .ok cs

def skipArrayGaps : Nat → List Char → Except Fault (List Char)
  | 0, cs => .ok cs
  | fuel + 1, cs =>
    match cs.dropWhile isArrayGap with
    | '#' :: rest => do skipArrayGaps fuel (← skipComment ('#' :: rest))
    | rest => .ok rest

def skipArrayGap (cs : List Char) : Except Fault (List Char) := skipArrayGaps (cs.length + 1) cs

end Sketchbook.Toml
