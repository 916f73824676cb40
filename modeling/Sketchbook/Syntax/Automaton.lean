import Sketchbook.Syntax.Symbol
import Sketchbook.Syntax.ActionTable

namespace Sketchbook.Syntax

abbrev State := Nat

namespace State

def skipping : State := 0

def start : State := 1

end State

/-- What the automaton can do with the next token. -/
inductive Action where
  /-- Take the token and go on in a state. -/
  | shift (next : State)
  /-- Go on with a repetition; the automaton closes it by `reduce` instead. -/
  | repetition (next : State)
  /-- Take a comment, which leaves the state as it is. -/
  | comment
  /-- Close a rule over the last `count` parts. -/
  | reduce (symbol : Symbol) (count : Nat) (precedence : Nat) (production : Nat)
  /-- The text is complete. -/
  | accept
  /-- Skip the token. -/
  | skip
  deriving Repr, DecidableEq

namespace Action

def ofCode (n : Nat) : Action :=
  let arg := n >>> 3
  match n % 8 with
  | 1 => .shift arg
  | 2 => .repetition arg
  | 3 => .comment
  | 5 => .accept
  | 6 => .skip
  | _ => .reduce (arg % 512) (arg / 512 % 16) (arg / 8192 % 32) (arg / 262144)

end Action

/-- The actions for one token in one state, and whether the token may be kept if it was lexed in
another state. -/
structure ActionSet where
  actions : List Action
  reusable : Bool
  deriving Repr, DecidableEq

namespace ActionSet

def none : ActionSet := ⟨[], false⟩

/-- Reads at most `fuel` actions of 29 bits each, up to the first that is zero. -/
def readActions : Nat → Nat → List Action
  | 0, _ => []
  | fuel + 1, n => if n = 0 then [] else Action.ofCode (n % 2 ^ 29) :: readActions fuel (n >>> 29)

def ofCode (n : Nat) : ActionSet := ⟨readActions 4 (n / 2), n % 2 = 1⟩

end ActionSet

namespace Automaton

/-- The entry for a column among at most `fuel` changes. -/
def findChange (column : Nat) : Nat → Nat → Option Nat
  | 0, _ => none
  | fuel + 1, n =>
    if n = 0 then none
    else if n % 512 = column + 1 then some (n / 512 % 2048)
    else findChange column fuel (n >>> 20)

/-- The entry of a row at a column: the row's own change, or else that of the row it changes. -/
def entry (rows : Table Nat) (column : Nat) : Nat → Nat → Nat
  | 0, _ => 0
  | depth + 1, row =>
    let code := rows.getD row 0
    match findChange column 512 (code >>> 11) with
    | some v => v
    | none => if code % 2048 = 0 then 0 else entry rows column depth (code % 2048 - 1)

def depth : Nat := 16

def actions (s : State) (token : Symbol) : ActionSet :=
  if token < Symbol.tokenCount then
    let row := ActionTable.states.getD s 0 % 2048
    match entry ActionTable.actionRows token depth row with
    | 0 => .none
    | k + 1 => .ofCode (ActionTable.sets.getD k 0)
  else .none

/-- The state that follows when a rule is finished over a state; zero if there is none. -/
def successor (s : State) (rule : Symbol) : State :=
  let row := ActionTable.states.getD s 0 / 2048 % 2048
  entry ActionTable.successorRows (rule - Symbol.tokenCount) depth row

def lexerStart (s : State) : Nat := ActionTable.states.getD s 0 / 4194304

/-- The state after a symbol: the last action decides for a token. Zero stands for none. -/
def next (s : State) (symbol : Symbol) : State :=
  if symbol < Symbol.tokenCount then
    match (actions s symbol).actions.getLast? with
    | some (.shift t) => t
    | some (.repetition t) => t
    | some .comment => s
    | _ => 0
  else if symbol < Symbol.count then successor s symbol
  else 0

def reduces (s : State) (token : Symbol) : Bool :=
  match (actions s token).actions with
  | .reduce .. :: _ => true
  | _ => false

end Automaton

end Sketchbook.Syntax
