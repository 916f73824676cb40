import Sketchbook.Syntax.Stack

namespace Sketchbook.Syntax

structure Machine where
  stack : Stack
  /-- The token read last, and the byte it was read from. -/
  recent? : Option (Nat × Derivation)
  /-- The best reading of the whole text so far. -/
  finished? : Option Derivation
  /-- The number of readings of the whole text so far. -/
  acceptCount : Nat

namespace Machine

def initial : Machine := ⟨Stack.initial, none, none, 0⟩

def maxVersions : Nat := 6

/-- How many more versions there may be while a token is being dealt with. -/
def versionOverflow : Nat := 4

def readError (text : Glyphs) : Nat → Extent → Extent → Extent
  | 0, _, stop => stop
  | fuel + 1, at_, stop =>
    let l := Lexer.read text (Automaton.lexerStart State.skipping) at_
    match l.symbol with
    | some _ => stop
    | none =>
      -- where the lexer does not move at all, one character is passed over
      if l.reached.bytes = stop.bytes then
        match text[l.reached.bytes]? with
        | some g =>
          let p := Lexer.step g l.reached
          readError text fuel p p
        | none => stop
      else readError text fuel l.reached l.reached

/-- The token that was read, as a keyword where a state has an action for the keyword. -/
def tokenOf (text : Glyphs) (state : State) (place : Extent) (symbol : Symbol) (l : Lexeme) :
    Derivation :=
  let keyword? :=
    if symbol = Symbol.word then Lexer.keyword? text l.start.bytes l.stop.bytes else none
  -- a keyword that is of no use here is a word
  let symbol' := match keyword? with
    | some k => if (Automaton.actions state k).actions.isEmpty then symbol else k
    | none => symbol
  .token symbol' (l.start - place) (l.stop - l.start) (symbol' = Symbol.endOfText) false
    keyword?.isSome state

/-- Reads the token after a place: one the state has a use for, else any token, else an error. -/
def readToken (text : Glyphs) (state : State) (place : Extent) : Derivation :=
  let first := Lexer.read text (Automaton.lexerStart state) place
  match first.symbol with
  | some t => tokenOf text state place t first
  | none =>
    let second :=
      if state = State.skipping then first
      else Lexer.read text (Automaton.lexerStart State.skipping) place
    match second.symbol with
    | some t => tokenOf text state place t second
    | none =>
      let start := second.start
      let next :=
        if second.reached.bytes = start.bytes then
          match text[second.reached.bytes]? with
          | some g => Lexer.step g second.reached
          | none => second.reached
        else second.reached
      let stop := readError text (text.size + 1) next next
      .token Symbol.error (start - place) (stop - start) false false false state

/-- Whether a token that was read in another state would be read the same way in this one. -/
def canReuse (state : State) (token : Derivation) (set : ActionSet) : Bool :=
  match token with
  | .token symbol _ size _ _ keyword origin =>
    if !set.actions.isEmpty && Automaton.lexerStart origin = Automaton.lexerStart state &&
        (symbol != Symbol.word || (!keyword && origin = state)) then true
    else if size.bytes = 0 && symbol != Symbol.endOfText then false
    else set.reusable
  | .rule .. => false

def nextToken (text : Glyphs) (m : Machine) (v : Nat) : Machine × Derivation :=
  let state := m.stack.state v
  let place := m.stack.place v
  let kept := match m.recent? with
    | some (at_, t) =>
      if at_ = place.bytes && canReuse state t (Automaton.actions state t.symbol) then some t
      else none
    | none => none
  match kept with
  | some t => (m, t)
  | none =>
    let t := readToken text state place
    ({ m with recent? := some (place.bytes, t) }, t)

def shift (m : Machine) (v : Nat) (next : State) (token : Derivation) (extra : Bool) : Machine :=
  { m with stack := m.stack.push v (some (token.setExtra extra)) next }

/-- Among the slices that leave the same version, the parts to close a rule over, with the comments
that follow them; and the slices that are left. -/
def chooseParts (symbol : Symbol) (production version : Nat) :
    Derivation → List Derivation → List Stack.Slice →
      Derivation × List Derivation × List Stack.Slice
  | rule, extras, [] => (rule, extras, [])
  | rule, extras, x :: rest =>
    if x.version = version then
      let (parts, extras') := Derivation.splitExtras x.parts
      if Derivation.prefersSecond rule (Derivation.ofParts symbol 0 parts) then
        chooseParts symbol production version (Derivation.ofParts symbol production parts) extras'
          rest
      else chooseParts symbol production version rule extras rest
    else (rule, extras, x :: rest)

def mergeInto (s : Stack) (avoid w : Nat) : List Nat → Option Stack
  | [] => none
  | v :: vs =>
    if v = avoid then mergeInto s avoid w vs
    else match s.merge? v w with
      | some s' => some s'
      | none => mergeInto s avoid w vs

/-- Closes a rule over each of the slices; `removed` is the number of versions dropped so far. -/
def closeSlices (v : Nat) (symbol : Symbol) (precedence production halted : Nat) :
    Nat → Stack → Nat → List Stack.Slice → Stack
  | 0, s, _, _ => s
  | _, s, _, [] => s
  | fuel + 1, s, removed, x :: rest =>
    let w := x.version - removed
    -- too many versions: all slices that leave this one are dropped
    if maxVersions + versionOverflow + halted < w then
      closeSlices v symbol precedence production halted fuel (s.removeVersion w) (removed + 1)
        (rest.dropWhile fun y => y.version = x.version)
    else
      let (parts, extras) := Derivation.splitExtras x.parts
      let (rule, extras, rest) :=
        chooseParts symbol production x.version (Derivation.ofParts symbol production parts) extras
          rest
      let next := Automaton.next (s.state w) symbol
      -- comments at the end of the parts stay behind the rule
      let s := s.push w (some (rule.prefer precedence)) next
      let s := extras.foldl (fun s e => s.push w (some e) next) s
      match mergeInto s v w (List.range w) with
      | some s' => closeSlices v symbol precedence production halted fuel s' (removed + 1) rest
      | none => closeSlices v symbol precedence production halted fuel s removed rest

/-- Closes a rule over the topmost parts of a version, in every way there is. Gives the first
version that this adds. -/
def reduce (s : Stack) (v : Nat) (symbol : Symbol) (count precedence production : Nat) :
    Stack × Option Nat :=
  let before := s.versionCount
  let (s', slices) := s.popCount v count
  let s' :=
    closeSlices v symbol precedence production s'.haltedCount (slices.length + 1) s' 0 slices
  (s', if before < s'.versionCount then some before else none)

/-- The last part that is no comment, opened, with what stands before and after it. -/
def rootOf (parts : List Derivation) : Option Derivation :=
  let r := parts.reverse
  match r.dropWhile Derivation.isExtra with
  | d :: before =>
    let after := (r.takeWhile Derivation.isExtra).reverse
    some (Derivation.ofParts d.symbol d.production (before.reverse ++ d.opened ++ after))
  | [] => none

def addReading (m : Machine) (root : Derivation) : Machine :=
  let best := match m.finished? with
    | some d => if Derivation.prefersSecond d root then root else d
    | none => root
  { m with finished? := some best, acceptCount := m.acceptCount + 1 }

def accept (m : Machine) (v : Nat) (token : Derivation) : Machine :=
  let s := m.stack.push v (some token) State.start
  let (s, slices) := s.popAll v
  let m := slices.foldl (fun m x => match rootOf x.parts with
    | some root => addReading m root
    | none => m) m
  let s := match slices with
    | x :: _ => s.removeVersion x.version
    | [] => s
  { m with stack := s.halt v }

end Machine

end Sketchbook.Syntax
