import Sketchbook.Text.Digit
import Sketchbook.Cli.Switch

/-!
The words of one level of the command line. A switch may be cut short as long as only one is meant,
several switches of one letter may share a word, and a value may stand in the word of its switch.
Behind a double dash no word is a switch.
-/
namespace Sketchbook.Cli

open Sketchbook.Text

/-- A value in the word of its switch, and whether an equals sign stands in front of it. -/
structure Joined where
  afterEquals : Bool
  value : Word
  deriving Repr, DecidableEq

/-- What a word is taken for. A switch is known by one of its names, or not known at all. -/
inductive Mark where
  | plain
  | separator
  | switch (s : Switch) (name : String) (joined : Option Joined)
  | unknown
  deriving Repr, DecidableEq

namespace Mark

def isSwitch : Mark → Bool
  | .switch .. => true
  | .unknown => true
  | _ => false

end Mark

def splitEquals (word : Word) : Word × Option Word :=
  match word.dropWhile (· ≠ .char '=') with
  | [] => (word, none)
  | _ :: value => (word.takeWhile (· ≠ .char '='), some value)

def Letter.isDigit : Letter → Bool
  | .char c => isDecimal c
  | .byte _ => false

/-- Whether a word is a negative number. A line end may stand behind it. -/
def isNegativeNumber : Word → Bool
  | .char '-' :: ls =>
    let ls := if ls.getLast? = some (.char '\n') then ls.dropLast else ls
    match ls.dropWhile Letter.isDigit with
    | [] => !ls.isEmpty
    | .char '.' :: rest => !rest.isEmpty && rest.all Letter.isDigit
    | _ => false
  | _ => false

def candidates (l : Level) (word : Word) : List (Switch × String × Option Joined) :=
  match word with
  | .char '-' :: .char '-' :: _ =>
    let (front, value) := splitEquals word
    l.names.filterMap fun (n, s) =>
      if front.isPrefixOf (n : Word) then some (s, n, value.map (⟨true, ·⟩)) else none
  | _ =>
    l.names.filterMap fun (n, s) =>
      if (n : Word) = word.take 2 then some (s, n, some ⟨false, word.drop 2⟩) else none

def markOf (l : Level) (word : Word) : Except Ending Mark :=
  match word with
  | .char '-' :: _ :: _ =>
    match l.switch? word with
    | some s => .ok (.switch s word.text none)
    | none =>
      let (front, value) := splitEquals word
      match value, l.switch? front with
      | some v, some s => .ok (.switch s front.text (some ⟨true, v⟩))
      | _, _ =>
        match candidates l word with
        | [(s, n, joined)] => .ok (.switch s n joined)
        | [] =>
          .ok (if isNegativeNumber word || word.contains (.char ' ') then .plain else .unknown)
        | several => .error (.refused l (.ambiguous word (several.map (·.2.1))))
  | _ => .ok .plain

def markAll (l : Level) : List Word → Except Ending (List (Word × Mark))
  | [] => .ok []
  | w :: ws =>
    if w = ("--" : String) then .ok ((w, .separator) :: ws.map fun v => (v, .plain))
    else do
      let m ← markOf l w
      return (w, m) :: (← markAll l ws)

/-- A switch with its value, if it takes one. -/
structure Given where
  switch : Switch
  value : Word := []
  deriving Repr, DecidableEq

/-- What has been made out: the switches, the words that are no switches, and those left over. -/
structure Taken where
  given : List Given := []
  operands : List Word := []
  extras : List Word := []
  deriving Repr, DecidableEq

/-- The switches that share a word, given the first of them and what follows it in the word. `waits`
is one whose value has to come from the next word, and `extra` the end of the word if it means
nothing. -/
structure Cluster where
  given : List Given := []
  waits : Option Switch := none
  extra : Option Word := none

/-- Takes a word of switches apart. The first argument bounds their number. -/
def cluster (l : Level) : Nat → Switch → Bool → Option Joined → Except Ending Cluster
  | 0, s, _, _ => .ok { waits := some s }
  | _ + 1, s, _, none => .ok (if s.takesValue then { waits := some s } else { given := [⟨s, []⟩] })
  | fuel + 1, s, short, some j =>
    if s.takesValue then .ok { given := [⟨s, j.value⟩] }
    else match short, j.value with
      | true, c :: rest =>
        if j.afterEquals || c = .char '-' then .error (.refused l (.valueIgnored s j.value))
        else match l.switch? [.char '-', c] with
          | none => .ok { given := [⟨s, []⟩], extra := some (.char '-' :: c :: rest) }
          | some next => do
            let joined := match rest with
              | [] => none
              | .char '=' :: value => some ⟨true, value⟩
              | rest => some ⟨false, rest⟩
            let more ← cluster l fuel next true joined
            return { more with given := ⟨s, []⟩ :: more.given }
      | _, value => .error (.refused l (.valueIgnored s value))

def isShort (name : String) : Bool := !name.startsWith "--"

def checkHelp (l : Level) (given : List Given) : Except Ending Unit :=
  if given.any (·.switch = .help) then .error (.help l) else .ok ()

/-- The operands in front of some words, with the words behind them: for the program all words from
its command on, for a command a single word with the double dash around it. -/
def takeOperands (l : Level) (ws : List (Word × Mark)) :
    Option (List Word × List (Word × Mark)) :=
  match ws.dropWhile (·.2 = .separator) with
  | (w, .plain) :: rest =>
    match l with
    | .program => some (ws.map (·.1), [])
    | .command _ => some ([w], rest.dropWhile (·.2 = .separator))
  | _ => none

/-- Takes the words one after another. The first argument bounds their number. -/
def takeWords (l : Level) : Nat → Taken → List (Word × Mark) → Except Ending Taken
  | 0, t, _ => .ok t
  | _ + 1, t, [] => .ok t
  | fuel + 1, t, (w, m) :: ws =>
    match m with
    | .unknown => takeWords l fuel { t with extras := t.extras ++ [w] } ws
    | .switch s name joined => do
      let c ← cluster l (w.length + 1) s (isShort name) joined
      match c.waits, ws with
      | none, _ =>
        checkHelp l c.given
        takeWords l fuel
          { t with given := t.given ++ c.given, extras := t.extras ++ c.extra.toList } ws
      | some s, (value, .plain) :: ws =>
        checkHelp l c.given
        takeWords l fuel { t with given := t.given ++ c.given ++ [⟨s, value⟩] } ws
      | some s, _ => .error (.refused l (.valueMissing s))
    | _ =>
      match if t.operands.isEmpty then takeOperands l ((w, m) :: ws) else none with
      | some (operands, rest) => takeWords l fuel { t with operands } rest
      | none =>
        let all := (w, m) :: ws
        takeWords l fuel
          { t with extras := t.extras ++ (all.takeWhile fun x => !x.2.isSwitch).map (·.1) }
          (all.dropWhile fun x => !x.2.isSwitch)

def take (l : Level) (words : List Word) : Except Ending Taken := do
  let marked ← markAll l words
  let t ← takeWords l (2 * marked.length + 1) {} marked
  if t.operands.isEmpty then throw (.refused l (.operandMissing l.operand))
  return t

end Sketchbook.Cli
