import Sketchbook.Text.Quoted
import Sketchbook.Text.Utf8

namespace Sketchbook.Cli

open Sketchbook.Text

/-- A part of a word on a command line: a character, or a byte that belongs to no character, since
the bytes of a word need not be UTF-8. -/
inductive Letter where
  | char (c : Char)
  | byte (b : UInt8)
  deriving Repr, DecidableEq

abbrev Word := List Letter

namespace Letter

def size : Letter → Nat
  | .char c => c.utf8Size
  | .byte _ => 1

/-- The letter as it is shown. A byte is shown by the code that stands in for it. -/
def shown : Letter → List Char
  | .char c => [c]
  | .byte b => '\\' :: 'u' :: hexText 4 (0xDC00 + b.toNat)

def shownIn (quote : Char) : Letter → List Char
  | .char c => escapeIn quote c
  | l => l.shown

/-- The character, or one that stands for bytes that are none. -/
def toChar : Letter → Char
  | .char c => c
  | .byte _ => '\uFFFD'

end Letter

namespace Word

def ofString (s : String) : Word := s.toList.map .char

instance : Coe String Word := ⟨ofString⟩

def isText (w : Word) : Bool :=
  w.all fun
    | .char _ => true
    | .byte _ => false

/-- The word as a text, with a stand-in for each byte that belongs to no character. -/
def text (w : Word) : String := String.ofList (w.map Letter.toChar)

def shown (w : Word) : String := String.ofList (w.flatMap Letter.shown)

def size (w : Word) : Nat := w.foldl (fun n l => n + l.size) 0

def quoted (w : Word) : String :=
  let q := quoteFor (w.map Letter.toChar)
  String.ofList (q :: w.flatMap (Letter.shownIn q) ++ [q])

/-- Reads bytes as a word. The first argument bounds their number. -/
def ofBytesWithin : Nat → Bytes → Word
  | 0, _ => []
  | _ + 1, [] => []
  | fuel + 1, b :: bs =>
    match Utf8.head? (b :: bs) with
    | some (c, w) => .char c :: ofBytesWithin fuel ((b :: bs).drop w)
    | none => .byte b :: ofBytesWithin fuel bs

def ofBytes (bs : Bytes) : Word := ofBytesWithin bs.length bs

end Word

end Sketchbook.Cli
