import Sketchbook.Syntax.Machine

/-!
Going on after an error. Versions of the stack are compared by what their errors cost. A version
that cannot take its token first tries a token that might be missing; otherwise it either goes back
to a state in which the token would do, or skips the token.
-/
namespace Sketchbook.Syntax

namespace Machine

/-- How much more an error may cost, times the nodes built since, before a version is given up. -/
def maxCostDifference : Nat := 18 * errorCosts.skippedTree

def compare (a b : Standing) : Preference :=
  if !a.inError && b.inError then if a.cost < b.cost then .takeLeft else .preferLeft
  else if a.inError && !b.inError then if b.cost < a.cost then .takeRight else .preferRight
  else if a.cost < b.cost then
    if maxCostDifference < (b.cost - a.cost) * (1 + a.nodeCount) then .takeLeft else .preferLeft
  else if b.cost < a.cost then
    if maxCostDifference < (a.cost - b.cost) * (1 + b.nodeCount) then .takeRight else .preferRight
  else if b.precedence < a.precedence then .preferLeft
  else if a.precedence < b.precedence then .preferRight
  else .none

/-- Whether one of the listed versions makes another needless, if that one had a certain cost. -/
def betterAmong (v : Nat) (mine : Standing) : Stack → List Nat → Stack × Bool
  | s, [] => (s, false)
  | s, w :: ws =>
    if w = v || !s.isActive w || (s.place w).bytes < (s.place v).bytes then betterAmong v mine s ws
    else
      let s := s.settle w
      match compare mine (s.standing w) with
      | .takeRight => (s, true)
      | .preferRight => if s.canMerge w v then (s, true) else betterAmong v mine s ws
      | _ => betterAmong v mine s ws

/-- Whether a reading or a version makes a version needless, if it had a certain cost. -/
def betterExists (m : Machine) (v : Nat) (inError : Bool) (cost : Nat) : Machine × Bool :=
  let done := match m.finished? with
    | some d => decide (d.cost ≤ cost)
    | none => false
  if done then (m, true)
  else
    let s := m.stack.settle v
    let mine : Standing := ⟨cost, s.nodesSinceError v, (s.top v).precedence, inError⟩
    let (s, better) := betterAmong v mine s (List.range s.versionCount)
    ({ m with stack := s }, better)

/-- Adds an action that closes a rule unless one for the same rule and size is there. -/
def addReduction (found : List Action) : Action → List Action
  | .reduce symbol count precedence production =>
    let known := found.any fun
      | .reduce s n .. => s = symbol && n = count
      | _ => false
    if count = 0 || known then found else found ++ [.reduce symbol count precedence production]
  | _ => found

/-- The rules that can be closed in a state before one of the tokens, and whether one of the tokens
can be taken. -/
def reductionsFor (state : State) (tokens : List Symbol) : List Action × Bool :=
  tokens.foldl (fun acc t =>
    (Automaton.actions state t).actions.foldl (fun (found, takes) a =>
      match a with
      | .shift _ => (found, true)
      | .skip => (found, true)
      | .reduce .. => (addReduction found a, takes)
      | _ => (found, takes)) acc) ([], false)

/-- Closes every rule that can be closed, on a version and on those that come of it, before a token
or before any. Whether some version can then take the token. -/
def reduceAllFrom (start before : Nat) (token? : Option Symbol) :
    Nat → Nat → Nat → Bool → Stack → Stack × Bool
  | 0, _, _, takes, s => (s, takes)
  | fuel + 1, round, v, takes, s =>
    let count := s.versionCount
    if count ≤ v then (s, takes)
    else
      -- a version that comes to what an earlier one has come to is joined to it
      match mergeInto s count v ((List.range v).drop before) with
      | some s' => reduceAllFrom start before token? fuel (round + 1) v takes s'
      | none =>
        let tokens := match token? with
          | some t => [t]
          | none => (List.range Symbol.tokenCount).drop 1
        let (actions, canTake) := reductionsFor (s.state v) tokens
        let (s, last?) := actions.foldl (fun (s, last?) a =>
          match a with
          | .reduce symbol n precedence production =>
            reduce s v symbol n precedence production
          | _ => (s, last?)) (s, none)
        -- versions between the first one and those that come of it are not looked at
        let next := if v = start then count else v + 1
        if canTake then reduceAllFrom start before token? fuel (round + 1) next true s
        else match last? with
          | some w =>
            if round < maxVersions then
              reduceAllFrom start before token? fuel (round + 1) v takes (s.replaceVersion w v)
            else
              let s := if token?.isSome then s.removeVersion v else s
              reduceAllFrom start before token? fuel (round + 1) next takes s
          | none =>
            let s := if token?.isSome then s.removeVersion v else s
            reduceAllFrom start before token? fuel (round + 1) next takes s

/-- Closes every rule that can be closed from a version on, before a token or before any. -/
def reduceAll (s : Stack) (v : Nat) (token? : Option Symbol) : Stack × Bool :=
  reduceAllFrom v s.versionCount token? 2000 0 v false s

/-- A token to close rules before; at the end of the text, rules are closed before any token. -/
def closer? (token : Derivation) : Option Symbol :=
  if token.symbol = Symbol.endOfText then none else some token.symbol

def insertMissing (v : Nat) (token : Derivation) : Stack → List Symbol → Option Stack × Stack
  | s, [] => (none, s)
  | s, t :: ts =>
    let state := s.state v
    let next := Automaton.next state t
    if next = 0 || next = state then insertMissing v token s ts
    else if Automaton.reduces next token.symbol then
      let (s, w) := s.copyVersion v
      let s := s.push w (some (Derivation.ofMissing t)) next
      let (s, takes) := reduceAll s w (closer? token)
      if takes then (some s, s) else insertMissing v token s ts
    else insertMissing v token s ts

def markErrors (token : Derivation) : Bool → Stack → List Nat → Stack
  | _, s, [] => s
  | inserted, s, v :: vs =>
    let (found?, s) :=
      if inserted then (none, s)
      else insertMissing v token s ((List.range Symbol.tokenCount).drop 1)
    let s := s.push v none State.skipping
    markErrors token (inserted || found?.isSome) s vs

/-- Goes back to a state at a depth below the top; what was passed becomes an error. -/
def returnTo (v : Nat) (goal : State) : Option Nat → Bool → Stack → List Stack.Slice → Stack × Bool
  | _, did, s, [] => (s, did)
  | last?, did, s, x :: rest =>
    if last? = some x.version then returnTo v goal last? did s rest
    -- this way down leads to another state
    else if s.state x.version ≠ goal then
      returnTo v goal last? did (s.halt x.version) rest
    else
      -- an error that lies right below is made part of the new one
      let (s, errors) := s.popError x.version
      let parts := (errors.flatMap Derivation.opened) ++ x.parts
      let (parts, extras) := Derivation.splitExtras parts
      let s :=
        if parts.isEmpty then s
        else s.push x.version (some (Derivation.ofError parts true)) goal
      let s := extras.foldl (fun s e => s.push x.version (some e) goal) s
      returnTo v goal (some x.version) true s rest

def recoverTo (s : Stack) (v depth : Nat) (goal : State) : Stack × Bool :=
  let (s, slices) := s.popCount v depth
  returnTo v goal none false s slices

def resumeEarlier (v : Nat) (token : Derivation) (place : Extent) (hasNodes : Bool)
    (cost versions : Nat) : Machine → List Resumption → Machine × Bool
  | m, [] => (m, false)
  | m, r :: rest =>
    if r.state = State.skipping || r.place.bytes = place.bytes then
      resumeEarlier v token place hasNodes cost versions m rest
    else
      let depth := if hasNodes then r.depth + 1 else r.depth
      -- no use in going back to where another version stands
      let needless := (List.range versions).any fun w =>
        m.stack.state w = r.state && (m.stack.place w).bytes = place.bytes
      if needless then resumeEarlier v token place hasNodes cost versions m rest
      else
        let cost' := cost + errorCosts.skippedTree
          + (place.bytes - r.place.bytes) * errorCosts.skippedByte
          + (place.rows - r.place.rows) * errorCosts.skippedLine
        let (m, better) := betterExists m v false cost'
        -- states further down cost even more
        if better then (m, false)
        else if (Automaton.actions r.state token.symbol).actions.isEmpty then
          resumeEarlier v token place hasNodes cost versions m rest
        else
          let (s, did) := recoverTo m.stack v depth r.state
          let m := { m with stack := s }
          if did then (m, true) else resumeEarlier v token place hasNodes cost versions m rest

def dropInactive : Nat → Nat → Stack → Stack
  | 0, _, s => s
  | fuel + 1, v, s =>
    if v < s.versionCount then
      if s.isActive v then dropInactive fuel (v + 1) s
      else dropInactive fuel v (s.removeVersion v)
    else s

/-- Puts a skipped token on top of a version, together with those skipped just before. -/
def skipToken (s : Stack) (v : Nat) (hasNodes : Bool) (token : Derivation) : Stack :=
  let extra := match (Automaton.actions State.start token.symbol).actions.getLast? with
    | some .comment => true
    | _ => token.isExtra
  -- a comment is no error, even where it is skipped
  let skipped := Derivation.ofParts Symbol.skipped 0 [token.setExtra extra]
  let (s, skipped) :=
    if hasNodes then
      let (s, slices) := s.popCount v 1
      match slices with
      | x :: _ =>
        let s :=
          if 1 < slices.length then { s with versions := s.versions.take (x.version + 1) } else s
        (s.replaceVersion x.version v, Derivation.ofParts Symbol.skipped 0 (x.parts ++ [skipped]))
      | [] => (s, skipped)
    else (s, skipped)
  s.push v (some skipped) State.skipping

/-- Goes back to a noted state, unless what was read is no token. -/
def goBack (m : Machine) (v : Nat) (token : Derivation) (place : Extent) (hasNodes : Bool)
    (cost versions : Nat) : Machine × Bool :=
  match (m.stack.version v).resumptions with
  | some rs =>
    if token.isError then (m, false)
    else resumeEarlier v token place hasNodes cost versions m rs
  | none => (m, false)

def recover (m : Machine) (v : Nat) (token : Derivation) : Machine :=
  let before := m.stack.versionCount
  let place := m.stack.place v
  let m := { m with stack := m.stack.settle v }
  let hasNodes := 0 < m.stack.nodesSinceError v
  let cost := m.stack.cost v
  let (m, did) := goBack m v token place hasNodes cost before
  let m := { m with stack := dropInactive (m.stack.versionCount + 1) before m.stack }
  -- the end of the text cannot be skipped
  if token.symbol = Symbol.endOfText then
    let s := m.stack.push v (some (Derivation.ofError [] false)) State.start
    accept { m with stack := s } v token
  else if did && maxVersions < m.stack.versionCount then { m with stack := m.stack.halt v }
  else
    let cost' := cost + errorCosts.skippedTree + token.extent.bytes * errorCosts.skippedByte
      + token.extent.rows * errorCosts.skippedLine
    let (m, better) := betterExists m v false cost'
    if better then { m with stack := m.stack.halt v }
    else { m with stack := skipToken m.stack v hasNodes token }

def joinAll (v w : Nat) : Nat → Stack → Stack
  | 0, s => s
  | n + 1, s =>
    match s.merge? v w with
    | some s' => joinAll v w n s'
    | none => joinAll v w n s

def handleError (m : Machine) (v : Nat) (token : Derivation) : Machine :=
  let before := m.stack.versionCount
  let (s, _) := reduceAll m.stack v none
  let after := s.versionCount
  let s := markErrors token false s (v :: (List.range after).drop before)
  -- all that has come of the version is one with it again
  let s := joinAll v before (after - before) s
  let s := s.recordResumptions v
  recover { m with stack := s } v token

end Machine

end Sketchbook.Syntax
