import Sketchbook.Text.Utf8

/-!
Changes to a text that only insert. Every edit is anchored at a byte of the unchanged text, so that
edits never move one another. At one place the text that closes something before it comes first.
-/
namespace Sketchbook.Editing

open Sketchbook.Text

/-- Whether a text belongs to what follows its place or to what precedes it. -/
inductive Side where
  | before
  | after
  deriving Repr, DecidableEq

def Side.name : Side → String
  | .before => "before"
  | .after => "after"

structure Edit where
  position : Int
  text : String
  side : Side
  deriving Repr, DecidableEq

inductive RenderError where
  | outside (position : Int)
  | undecodable
  deriving Repr, DecidableEq

def RenderError.message? : RenderError → Option String
  | .outside position => some ("edit position " ++ toString position ++ " outside source")
  | .undecodable => none

namespace Edit

def insertBefore (position : Int) (text : String) : Edit := ⟨position, text, .before⟩

def insertAfter (position : Int) (text : String) : Edit := ⟨position, text, .after⟩

def commentOpen : String := "/* commented out by preprocessor: "

/-- What closes the comment around a call that is taken out. An empty call takes its place, so that
the semicolon behind it still ends a statement. -/
def commentClose : String := " */ print(\"\")"

def commentOut (start stop : Int) : List Edit :=
  [insertBefore start commentOpen, insertAfter stop commentClose]

/-- Edits are made in the order of their places; at one place, those that close come first. -/
def precedes (a b : Edit) : Bool :=
  a.position < b.position ||
    (a.position = b.position && (a.side = .after || b.side = .before))

/-- Puts an edit before the first one that does not precede it strictly. -/
def insert (e : Edit) : List Edit → List Edit
  | [] => [e]
  | x :: xs => if precedes e x then e :: x :: xs else x :: insert e xs

/-- The edits in the order in which they are made; edits at one place and side keep their order. -/
def sort : List Edit → List Edit
  | [] => []
  | e :: es => insert e (sort es)

/-- Copies the text up to each edit in turn and inserts the edit's text there. `cursor` is the
number of bytes copied so far, `rest` what is left of the text. -/
def apply (length : Nat) : List Edit → Nat → Bytes → Except RenderError Bytes
  | [], _, rest => .ok rest
  | e :: es, cursor, rest =>
    if e.position < 0 ∨ (length : Int) < e.position then .error (.outside e.position)
    else
      -- no edit lies in front of the cursor, as they are in order
      let n := e.position.toNat - cursor
      match apply length es e.position.toNat (rest.drop n) with
      | .ok tail => .ok (rest.take n ++ Utf8.encode e.text ++ tail)
      | .error x => .error x

end Edit

/-- Makes all edits of a text, in the order of their places. -/
def render (source : Bytes) (edits : List Edit) : Except RenderError String :=
  match Edit.apply source.length (Edit.sort edits) 0 source with
  | .error x => .error x
  | .ok bytes =>
    match Utf8.decode? bytes with
    | some s => .ok s
    | none => .error .undecodable

end Sketchbook.Editing
