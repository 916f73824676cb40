import Sketchbook.Text.Utf8
import Sketchbook.Text.Word
import Sketchbook.Syntax.Symbol
import Sketchbook.Syntax.LexerTable
import Sketchbook.Syntax.IdentifierTable

namespace Sketchbook.Syntax

open Sketchbook.Text

/-- A length of text, or a place in it: its bytes and its line breaks. -/
structure Extent where
  bytes : Nat
  rows : Nat
  deriving Repr, DecidableEq, Inhabited

namespace Extent

def zero : Extent := ⟨0, 0⟩

def add (a b : Extent) : Extent := ⟨a.bytes + b.bytes, a.rows + b.rows⟩

def sub (a b : Extent) : Extent := ⟨a.bytes - b.bytes, a.rows - b.rows⟩

instance : Add Extent := ⟨add⟩
instance : Sub Extent := ⟨sub⟩

end Extent

/-- What the lexer sees at a byte: the character that begins there, if any does, its class and its
width. -/
structure Glyph where
  char? : Option Char
  charClass : Nat
  width : Nat
  deriving Repr, Inhabited

namespace Glyph

def classOf (n : Nat) : Nat :=
  if n < 0x80 then (LexerTable.asciiClasses >>> (7 * n)) % 128
  else if inBounds IdentifierTable.starts n then LexerTable.letterClass
  else if inBounds IdentifierTable.parts n then LexerTable.markClass
  else LexerTable.otherClass

/-- What stands at the front of a text; a byte that begins no character counts as one. -/
def ofBytes (s : Bytes) : Glyph :=
  match Utf8.head? s with
  | some (c, w) => ⟨some c, classOf c.toNat, w⟩
  | none => ⟨none, LexerTable.otherClass, 1⟩

def breaksLine (g : Glyph) : Bool := g.char? = some '\n'

def scan : Bytes → List Glyph
  | [] => []
  | b :: rest => ofBytes (b :: rest) :: scan rest

end Glyph

abbrev Glyphs := Array Glyph

/-- A token that the lexer read, and where the lexer stopped. -/
structure Lexeme where
  symbol : Option Symbol
  start : Extent
  stop : Extent
  reached : Extent
  deriving Repr

namespace Lexer

def step (g : Glyph) (p : Extent) : Extent :=
  ⟨p.bytes + g.width, p.rows + if g.breaksLine then 1 else 0⟩

def accepted (s : Nat) : Option Symbol :=
  match LexerTable.states.getD s 0 % 256 with
  | 0 => none
  | k + 1 => some k

def atEnd (s : Nat) : Option Nat :=
  match LexerTable.states.getD s 0 / 256 % 256 with
  | 0 => none
  | k + 1 => some k

/-- Where a class of characters leads, and whether the character is blank space before the token. -/
def move (s charClass : Nat) : Option (Nat × Bool) :=
  let code := (LexerTable.states.getD s 0 >>> (16 + 9 * charClass)) % 512
  match code / 2 with
  | 0 => none
  | k + 1 => some (k, code % 2 = 1)

def latest (s : Nat) (at_ : Extent) (found : Option (Symbol × Extent)) : Option (Symbol × Extent) :=
  match accepted s with
  | some t => some (t, at_)
  | none => found

/-- Runs the lexer from a state; `found` is the last token read and where it ended. -/
def run (text : Glyphs) :
    Nat → Nat → Extent → Extent → Option (Symbol × Extent) → Lexeme
  | 0, _, start, at_, found => ⟨found.map (·.1), start, (found.map (·.2)).getD at_, at_⟩
  | fuel + 1, s, start, at_, found =>
    let found := latest s at_ found
    match text[at_.bytes]? with
    | some g =>
      match move s g.charClass with
      | some (s', skip) =>
        let next := step g at_
        run text fuel s' (if skip then next else start) next found
      | none => ⟨found.map (·.1), start, (found.map (·.2)).getD at_, at_⟩
    | none =>
      match (atEnd s).bind accepted with
      | some t => ⟨some t, start, at_, at_⟩
      | none => ⟨found.map (·.1), start, (found.map (·.2)).getD at_, at_⟩

def skipMark (text : Glyphs) (p : Extent) : Extent :=
  if p.bytes = 0 then
    match text[0]? with
    | some g => if g.char? = some '\uFEFF' then step g p else p
    | none => p
  else p

def read (text : Glyphs) (s : Nat) (p : Extent) : Lexeme :=
  let p := skipMark text p
  run text (text.size + 1) s p p none

/-- The characters from one byte up to another; `none` if one of them cannot be read. -/
def spelling? (text : Glyphs) (stop : Nat) : Nat → Nat → Option (List Char)
  | 0, _ => some []
  | fuel + 1, i =>
    if i < stop then
      match text[i]? with
      | some ⟨some c, _, w⟩ => (spelling? text stop fuel (i + w)).map (c :: ·)
      | _ => none
    else some []

def keyword? (text : Glyphs) (start stop : Nat) : Option Symbol :=
  (spelling? text stop (stop - start) start).bind fun cs =>
    LexerTable.keywords.lookup (String.ofList cs)

end Lexer

end Sketchbook.Syntax
