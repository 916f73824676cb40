import Sketchbook.Syntax.Automaton
import Sketchbook.Syntax.Derivation

/-!
The stack of the automaton. Where a text can be read in several ways, the stack branches: each
reading is a version with a top of its own, and versions that come to the same state at the same
place share what lies below. The entries are kept in one array and refer to those below by number.
-/
namespace Sketchbook.Syntax

/-- The way from an entry to one below it; without a derivation where errors are being skipped. -/
structure Link where
  below : Nat
  part? : Option Derivation
  deriving Repr, Inhabited

/-- A state the automaton was in, where it was, and the ways back from there. -/
structure Entry where
  state : State
  place : Extent
  links : List Link
  cost : Nat
  nodeCount : Nat
  precedence : Nat
  deriving Repr, Inhabited

/-- A state below the top in which reading might go on after an error. -/
structure Resumption where
  place : Extent
  depth : Nat
  state : State
  deriving Repr

/-- Whether a version goes on, waits with a token it cannot take, or is given up. -/
inductive Status where
  | active
  | paused (token : Derivation)
  | halted
  deriving Repr

structure Version where
  top : Nat
  resumptions : Option (List Resumption)
  nodesAtError : Nat
  status : Status
  deriving Repr

instance : Inhabited Version := ⟨⟨0, none, 0, .active⟩⟩

/-- All entries and the versions, best first. -/
structure Stack where
  entries : Array Entry
  versions : List Version
  deriving Repr

/-- What is compared when versions compete. -/
structure Standing where
  cost : Nat
  nodeCount : Nat
  precedence : Nat
  inError : Bool
  deriving Repr

/-- The outcome of comparing two versions: one makes the other needless, or only comes first. -/
inductive Preference where
  | takeLeft
  | preferLeft
  | none
  | preferRight
  | takeRight
  deriving Repr, DecidableEq

namespace Stack

def initial : Stack :=
  ⟨#[⟨State.start, .zero, [], 0, 0, 0⟩], [⟨0, none, 0, .active⟩]⟩

def versionCount (s : Stack) : Nat := s.versions.length

def version (s : Stack) (v : Nat) : Version := s.versions.getD v default

def entry (s : Stack) (n : Nat) : Entry := s.entries.getD n default

def setEntry (s : Stack) (n : Nat) (e : Entry) : Stack :=
  { s with entries := s.entries.setIfInBounds n e }

def top (s : Stack) (v : Nat) : Entry := s.entry (s.version v).top

def state (s : Stack) (v : Nat) : State := (s.top v).state

def place (s : Stack) (v : Nat) : Extent := (s.top v).place

def isActive (s : Stack) (v : Nat) : Bool :=
  match (s.version v).status with
  | .active => true
  | _ => false

def isHalted (s : Stack) (v : Nat) : Bool :=
  match (s.version v).status with
  | .halted => true
  | _ => false

def pausedOn? (s : Stack) (v : Nat) : Option Derivation :=
  match (s.version v).status with
  | .paused t => some t
  | _ => none

def haltedCount (s : Stack) : Nat :=
  (s.versions.filter fun x => match x.status with | .halted => true | _ => false).length

def setVersion (s : Stack) (v : Nat) (x : Version) : Stack :=
  { s with versions := s.versions.set v x }

def addVersion (s : Stack) (x : Version) : Stack :=
  { s with versions := s.versions ++ [x] }

def removeVersion (s : Stack) (v : Nat) : Stack :=
  { s with versions := s.versions.eraseIdx v }

def swapVersions (s : Stack) (v w : Nat) : Stack :=
  let x := s.version v
  let y := s.version w
  (s.setVersion v y).setVersion w x

def replaceVersion (s : Stack) (source target : Nat) : Stack :=
  if source = target then s
  else
    let x := s.version source
    let y := s.version target
    let x := match x.resumptions with
      | some _ => x
      | none => { x with resumptions := y.resumptions }
    (s.setVersion target x).removeVersion source

def copyVersion (s : Stack) (v : Nat) : Stack × Nat :=
  (s.addVersion { s.version v with resumptions := none }, s.versionCount)

def halt (s : Stack) (v : Nat) : Stack :=
  s.setVersion v { s.version v with status := .halted }

def pause (s : Stack) (v : Nat) (token : Derivation) : Stack :=
  s.setVersion v { s.version v with
    status := .paused token
    nodesAtError := (s.top v).nodeCount }

def resume (s : Stack) (v : Nat) : Stack :=
  s.setVersion v { s.version v with status := .active }

def push (s : Stack) (v : Nat) (part? : Option Derivation) (state : State) : Stack :=
  let x := s.version v
  let e := s.entry x.top
  let link : Link := ⟨x.top, part?⟩
  let e' : Entry := match part? with
    | some d =>
      ⟨state, e.place + d.extent, [link], e.cost + d.cost, e.nodeCount + d.nodeCount,
        e.precedence + d.precedence⟩
    | none => ⟨state, e.place, [link], e.cost, e.nodeCount, e.precedence⟩
  let n := s.entries.size
  let x := { x with
    top := n
    nodesAtError := if part?.isNone then e'.nodeCount else x.nodesAtError }
  { entries := s.entries.push e', versions := s.versions.set v x }

/-- The cost of the errors of a version; one that has just met an error also pays for giving up. -/
def cost (s : Stack) (v : Nat) : Nat :=
  let e := s.top v
  let marked := e.state = State.skipping && match e.links with
    | ⟨_, none⟩ :: _ => true
    | _ => false
  if (s.pausedOn? v).isSome || marked then e.cost + errorCosts.recovery else e.cost

/-- Brings the count at the last error down to the count of a version that has since lost nodes. -/
def settle (s : Stack) (v : Nat) : Stack :=
  let x := s.version v
  let n := (s.entry x.top).nodeCount
  if n < x.nodesAtError then s.setVersion v { x with nodesAtError := n } else s

def nodesSinceError (s : Stack) (v : Nat) : Nat :=
  (s.top v).nodeCount - (s.version v).nodesAtError

def standing (s : Stack) (v : Nat) : Standing :=
  let paused := (s.pausedOn? v).isSome
  { cost := s.cost v + if paused then errorCosts.skippedTree else 0
    nodeCount := s.nodesSinceError v
    precedence := (s.top v).precedence
    inError := paused || s.state v = State.skipping }

/-- Whether two derivations need not both be kept between the same states. -/
def sameRole (a b : Option Derivation) : Bool :=
  match a, b with
  | none, none => true
  | some x, some y =>
    x.symbol = y.symbol &&
      ((0 < x.cost && 0 < y.cost) ||
        (x.padding.bytes = y.padding.bytes && x.size.bytes = y.size.bytes &&
          x.parts.length = y.parts.length && x.isExtra = y.isExtra))
  | _, _ => false

def maxLinks : Nat := 8

def setPart (links : List Link) (i : Nat) (part? : Option Derivation) : List Link :=
  links.modify i fun l => { l with part? }

/-- Adds a way back from an entry, unless one like it is there already; then the two are joined. -/
def addLink : Nat → Stack → Nat → Link → Stack
  | 0, s, _, _ => s
  | fuel + 1, s, n, link =>
    if link.below = n then s
    else
      let e := s.entry n
      let p := (link.part?.map Derivation.precedence).getD 0
      let b := s.entry link.below
      let like := e.links.zipIdx.find? fun (l, _) =>
        sameRole l.part? link.part? &&
          (l.below = link.below ||
            (let c := s.entry l.below
             c.state = b.state && c.place.bytes = b.place.bytes && c.cost = b.cost))
      match like with
      | some (l, i) =>
        if l.below = link.below then
          if (l.part?.map Derivation.precedence).getD 0 < p then
            s.setEntry n
              { e with links := setPart e.links i link.part?, precedence := b.precedence + p }
          else s
        else
          let s := b.links.foldl (fun s k => addLink fuel s l.below k) s
          let e := s.entry n
          if e.precedence < b.precedence + p then
            s.setEntry n { e with precedence := b.precedence + p }
          else s
      | none =>
        if maxLinks ≤ e.links.length then s
        else
          let count := b.nodeCount + (link.part?.map Derivation.nodeCount).getD 0
          s.setEntry n { e with
            links := e.links ++ [link]
            nodeCount := max e.nodeCount count
            precedence := max e.precedence (b.precedence + p) }

/-- Whether two versions have come to the same state at the same place and cost. -/
def canMerge (s : Stack) (v w : Nat) : Bool :=
  let a := s.top v
  let b := s.top w
  s.isActive v && s.isActive w && a.state = b.state && a.place.bytes = b.place.bytes &&
    a.cost = b.cost

/-- Joins the second version to the first if they can be joined. -/
def merge? (s : Stack) (v w : Nat) : Option Stack :=
  if s.canMerge v w then
    let n := (s.version v).top
    let s := (s.top w).links.foldl (fun s l => addLink s.entries.size s n l) s
    let s :=
      if s.state v = State.skipping then
        s.setVersion v { s.version v with nodesAtError := (s.top v).nodeCount }
      else s
    some (s.removeVersion w)
  else none

/-- A way down the stack: where it has come to, what was passed and how many parts that is. -/
structure Descent where
  entry : Nat
  parts : List Derivation
  count : Nat

def Descent.follow (d : Descent) (l : Link) : Descent :=
  match l.part? with
  | some p => ⟨l.below, p :: d.parts, if p.isExtra then d.count else d.count + 1⟩
  | none => ⟨l.below, d.parts, d.count + 1⟩

/-- What to do where a descent has come to. -/
structure Verdict where
  pop : Bool
  stop : Bool

def maxDescents : Nat := 64

/-- The parts that were taken off, and the version that is left. -/
structure Slice where
  parts : List Derivation
  version : Nat

/-- Records a descent that is over. Slices that leave the same entry share a version. -/
def addSlice (s : Stack) (origin : Nat) (slices : List Slice) (d : Descent) : Stack × List Slice :=
  let here := slices.zipIdx.reverse.find? fun (x, _) => (s.version x.version).top = d.entry
  match here with
  | some (x, i) => (s, slices.insertIdx (i + 1) ⟨d.parts, x.version⟩)
  | none =>
    let n := s.versionCount
    (s.addVersion ⟨d.entry, none, (s.version origin).nodesAtError, .active⟩,
      slices ++ [⟨d.parts, n⟩])

/-- One round: the descents that go on, the ones that branch off, and what was taken off. -/
structure Round (σ : Type) where
  stack : Stack
  slices : List Slice
  memory : σ
  going : List Descent
  branched : List Descent

/-- Takes each descent one link further; the first link is followed by the descent itself. -/
def round {σ : Type} (judge : Entry → Descent → σ → Verdict × σ) (origin : Nat) :
    List Descent → Round σ → Round σ
  | [], r => r
  | d :: rest, r =>
    let e := r.stack.entry d.entry
    let (verdict, memory) := judge e d r.memory
    let (stack, slices) :=
      if verdict.pop then addSlice r.stack origin r.slices d else (r.stack, r.slices)
    let r := { r with stack, slices, memory }
    match e.links with
    | [] => round judge origin rest r
    | first :: others =>
      if verdict.stop then round judge origin rest r
      else
        let room := maxDescents - (r.going.length + 1 + rest.length + r.branched.length)
        let branched := r.branched ++ (others.take room).map d.follow
        round judge origin rest { r with going := r.going ++ [d.follow first], branched }

def descend {σ : Type} (judge : Entry → Descent → σ → Verdict × σ) (origin : Nat) :
    Nat → Stack → List Slice → σ → List Descent → Stack × List Slice × σ
  | 0, s, slices, m, _ => (s, slices, m)
  | fuel + 1, s, slices, m, ds =>
    match ds with
    | [] => (s, slices, m)
    | _ =>
      let r := round judge origin ds ⟨s, slices, m, [], []⟩
      descend judge origin fuel r.stack r.slices r.memory (r.going ++ r.branched)

def walk {σ : Type} (s : Stack) (v : Nat) (judge : Entry → Descent → σ → Verdict × σ) (m : σ) :
    Stack × List Slice × σ :=
  descend judge v (s.entries.size + 1) s [] m [⟨(s.version v).top, [], 0⟩]

def popCount (s : Stack) (v count : Nat) : Stack × List Slice :=
  let (s, slices, _) := s.walk v (fun _ d (_ : Unit) =>
    let done := d.count = count
    (⟨done, done⟩, ())) ()
  (s, slices)

def popAll (s : Stack) (v : Nat) : Stack × List Slice :=
  let (s, slices, _) := s.walk v (fun e _ (_ : Unit) => (⟨e.links.isEmpty, false⟩, ())) ()
  (s, slices)

/-- Takes an error off the top of a version, if one is there. -/
def popError (s : Stack) (v : Nat) : Stack × List Derivation :=
  let hasError := (s.top v).links.any fun l => (l.part?.map Derivation.isError).getD false
  if hasError then
    let (s, slices, _) := s.walk v (fun _ d found =>
      match d.parts with
      | [] => (⟨false, false⟩, found)
      | p :: _ =>
        if !found && p.isError then (⟨true, true⟩, true) else (⟨false, true⟩, found)) false
    match slices with
    | x :: _ => (s.replaceVersion x.version v, x.parts)
    | [] => (s, [])
  else (s, [])

def maxResumptionDepth : Nat := 16

/-- Notes the states below the top of a version in which reading might go on. -/
def recordResumptions (s : Stack) (v : Nat) : Stack :=
  let (s, _, found) := s.walk v (fun e d (found : List Resumption) =>
    if maxResumptionDepth < d.count then (⟨false, true⟩, found)
    else
      let known := (found.reverse.takeWhile fun x => d.count ≤ x.depth).any fun x =>
        x.depth = d.count && x.state = e.state
      if known then (⟨false, false⟩, found)
      else (⟨false, false⟩, found ++ [⟨e.place, d.count, e.state⟩])) []
  s.setVersion v { s.version v with resumptions := some found }

end Stack

end Sketchbook.Syntax
