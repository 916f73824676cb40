import Sketchbook.Record.Whole

namespace Sketchbook.Record

/-- What was made out, or all that is wrong. -/
inductive Checked (α : Type) where
  | ok (a : α)
  | bad (issues : List Issue)
  deriving Repr

namespace Checked

variable {α β : Type}

def issues : Checked α → List Issue
  | .ok _ => []
  | .bad is => is

/-- Applies a function; the faults of both sides stay, those of the function first. -/
def apply (f : Checked (α → β)) (x : Checked α) : Checked β :=
  match f, x with
  | .ok g, .ok a => .ok (g a)
  | f, x => .bad (f.issues ++ x.issues)

instance : Applicative Checked where
  pure := .ok
  seq f x := apply f (x ())

def within (s : Step) : Checked α → Checked α
  | .ok a => .ok a
  | .bad is => .bad (is.map (Issue.within s))

def ofExcept : Except Cause α → Checked α
  | .ok a => .ok a
  | .error c => .bad [⟨[], c⟩]

def all (read : Value → Checked α) : List (Step × Value) → Checked (List α)
  | [] => .ok []
  | (s, v) :: rest => List.cons <$> (read v).within s <*> all read rest

end Checked

namespace Value

def text : Value → Checked String
  | .string s => .ok s
  | _ => .bad [⟨[], .notText⟩]

def text? : Value → Checked (Option String)
  | .null => .ok none
  | v => some <$> v.text

/-- A list of texts; `cause` is what is wrong with any other value. -/
def textsOr (cause : Cause) : Value → Checked (List String)
  | .list items => Checked.all text (items.zipIdx.map fun (v, i) => (.index i, v))
  | _ => .bad [⟨[], cause⟩]

def texts : Value → Checked (List String) := textsOr .notList

def textTable : Value → Checked (List (String × String))
  | .table t => (t.map (·.1)).zip <$> Checked.all text (t.map fun (k, v) => (.field k, v))
  | _ => .bad [⟨[], .notTable⟩]

def wholeNumber (v : Value) : Checked Int := .ofExcept v.whole

def count (v : Value) : Checked Nat :=
  .ofExcept (v.whole.bind fun n => if 0 ≤ n then .ok n.toNat else .error .negative)

def flagWords : List (String × Bool) :=
  [("0", false), ("off", false), ("f", false), ("false", false), ("n", false), ("no", false),
    ("1", true), ("on", true), ("t", true), ("true", true), ("y", true), ("yes", true)]

/-- A truth value, which may be written as a word or as a whole number of at most 64 bits. -/
def flag : Value → Checked Bool
  | .bool b => .ok b
  | .string s =>
    match flagWords.lookup (String.ofList (s.toList.map Char.toLower)) with
    | some b => .ok b
    | none => .bad [⟨[], .unreadableFlag⟩]
  | .int n => if n.natAbs < Binary64.twoTo 63 then ofNumber n else .bad [⟨[], .notFlag⟩]
  | .float x =>
    match Whole.ofBinary x with
    | .ok n => ofNumber n
    | .error _ => .bad [⟨[], .notFlag⟩]
  | _ => .bad [⟨[], .notFlag⟩]
where
  ofNumber (n : Int) : Checked Bool :=
    if n = 0 then .ok false
    else if n = 1 then .ok true
    else .bad [⟨[], .unreadableFlag⟩]

def choice {α : Type} (choices : List (String × α)) (v : Value) : Checked α :=
  match v with
  | .string s =>
    match choices.lookup s with
    | some a => .ok a
    | none => .bad [⟨[], .notAmong (choices.map (·.1))⟩]
  | _ => .bad [⟨[], .notAmong (choices.map (·.1))⟩]

def choice? {α : Type} (choices : List (String × α)) : Value → Checked (Option α)
  | .null => .ok none
  | v => some <$> v.choice choices

end Value

namespace Table

variable {α : Type}

def fieldOr (t : Table) (name : String) (read : Value → Checked α) (default : α) : Checked α :=
  match t.value? name with
  | some v => (read v).within (.field name)
  | none => .ok default

def field (t : Table) (name : String) (read : Value → Checked α) : Checked α :=
  match t.value? name with
  | some v => (read v).within (.field name)
  | none => .bad [⟨[.field name], .missing⟩]

def onlyFields (t : Table) (names : List String) : Checked Unit :=
  match (t.filter fun e => !names.contains e.1).map fun e => (⟨[.field e.1], .unknown⟩ : Issue) with
  | [] => .ok ()
  | is => .bad is

end Table

end Sketchbook.Record
