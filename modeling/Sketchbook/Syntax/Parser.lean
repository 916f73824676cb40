import Sketchbook.Syntax.Recovery

namespace Sketchbook.Syntax

namespace Machine

/-- Works through the actions for a token: closes rules, up to the first action that deals with the
token itself. Gives that action, the last version that closing a rule added, and whether a rule was
closed. -/
def applyActions (v : Nat) : Stack → Option Nat → Bool → List Action →
    Stack × Option Action × Option Nat × Bool
  | s, last?, did, [] => (s, none, last?, did)
  | s, last?, did, a :: rest =>
    match a with
      -- the token is taken only after the repetition in front of it is closed
    | .repetition _ => applyActions v s last? did rest
    | .reduce symbol count precedence production =>
      let (s, added?) := reduce s v symbol count precedence production
      applyActions v s (match added? with | some w => some w | none => last?) true rest
    | _ => (s, some a, last?, did)

/-- Deals with a token in a version: closes rules until the token can be taken, or lets the version
wait. -/
def handleToken (v : Nat) : Nat → Machine → Derivation → ActionSet → Machine
  | 0, m, _, _ => m
  | fuel + 1, m, token, set =>
    let state := m.stack.state v
    let (s, final?, last?, did) := applyActions v m.stack none false set.actions
    let m := { m with stack := s }
    match final? with
    | some (.shift next) => shift m v next token false
    | some .comment => shift m v state token true
    | some .accept => accept m v token
    | some .skip => recover m v token
    | _ =>
      -- nothing takes the token yet: go on in a version that closing a rule has added
      match last? with
      | some w =>
        let m := { m with stack := m.stack.replaceVersion w v }
        handleToken v fuel m token (Automaton.actions (m.stack.state v) token.symbol)
      | none =>
        if did then { m with stack := m.stack.halt v }
        else
          -- a keyword may still be taken as a plain word
          let asWord :=
            match token with
            | .token symbol _ _ _ _ keyword _ => keyword && symbol != Symbol.word
            | .rule .. => false
          let wordSet := Automaton.actions state Symbol.word
          if asWord && !wordSet.actions.isEmpty then handleToken v fuel m token.asWord wordSet
          else if state = State.skipping then recover m v token
          else { m with stack := m.stack.pause v token }

def advance (text : Glyphs) (m : Machine) (v : Nat) : Machine :=
  let (m, token) := nextToken text m v
  handleToken v (100 + 10 * m.stack.entries.size) m token
    (Automaton.actions (m.stack.state v) token.symbol)

/-- Advances a version until it gets beyond the place that was reached before it. -/
def advanceBeyond (text : Glyphs) (v : Nat) : Nat → Nat → Machine → Machine × Nat
  | 0, last, m => (m, last)
  | fuel + 1, last, m =>
    if m.stack.isActive v then
      let m := advance text m v
      let place := (m.stack.place v).bytes
      -- the first version sets the pace for those behind it
      if last < place || (0 < v && place = last) then (m, place)
      else advanceBeyond text v fuel last m
    else (m, last)

def advanceAll (text : Glyphs) : Nat → Nat → Nat → Machine → Machine × Nat
  | 0, _, last, m => (m, last)
  | fuel + 1, v, last, m =>
    if v < m.stack.versionCount then
      let (m, last) := advanceBeyond text v (text.size + 10) last m
      advanceAll text fuel (v + 1) last m
    else (m, last)

/-- Compares a version with the earlier ones from number `w` on, and drops or reorders versions.
Gives the number of the version afterwards. -/
def compete : Nat → Nat → Nat → Standing → Stack → Stack × Nat
  | 0, v, _, _, s => (s, v)
  | fuel + 1, v, w, mine, s =>
    if w < v then
      let s := s.settle w
      match compare (s.standing w) mine with
      | .takeLeft => (s.removeVersion v, v)
      -- the numbers of all later versions go down by one
      | .takeRight => compete fuel (v - 1) w mine (s.removeVersion w)
      | .preferRight =>
        match s.merge? w v with
        | some s' => (s', v)
        | none => compete fuel v (w + 1) mine (s.swapVersions v w)
      | _ =>
        match s.merge? w v with
        | some s' => (s', v)
        | none => compete fuel v (w + 1) mine s
    else (s, v + 1)

/-- Brings the versions into order, without those that are not worth going on with. Gives the least
cost of a version that is not in error. -/
def sortVersions : Nat → Nat → Option Nat → Stack → Stack × Option Nat
  | 0, _, least?, s => (s, least?)
  | fuel + 1, v, least?, s =>
    if v < s.versionCount then
      if s.isHalted v then sortVersions fuel v least? (s.removeVersion v)
      else
        let s := s.settle v
        let mine := s.standing v
        let least? :=
          if mine.inError then least?
          else match least? with
            | some n => some (min n mine.cost)
            | none => some mine.cost
        let (s, next) := compete (s.versionCount + 1) v 0 mine s
        sortVersions fuel next least? s
    else (s, least?)

/-- Resumes the best version if it waits with a token, and drops the others that wait. -/
def resumeBest : Nat → Nat → Nat → Bool → Option Nat → Machine → Machine × Option Nat
  | 0, _, _, _, least?, m => (m, least?)
  | fuel + 1, v, count, going, least?, m =>
    if v < count then
      match m.stack.pausedOn? v with
      | some token =>
        if !going && m.acceptCount < maxVersions then
          let cost := m.stack.cost v
          let m := { m with stack := m.stack.resume v }
          resumeBest fuel (v + 1) count true (some cost) (handleError m v token)
        -- another version goes on, or there are readings enough
        else resumeBest fuel v (count - 1) going least? { m with stack := m.stack.removeVersion v }
      | none => resumeBest fuel (v + 1) count true least? m
    else (m, least?)

/-- Compares the versions after each has taken a token. Gives the least cost that a version which is
not in error could end with. -/
def condense (m : Machine) : Machine × Option Nat :=
  let (s, least?) := sortVersions (2 * m.stack.versionCount + 64) 0 none m.stack
  let s := { s with versions := s.versions.take maxVersions }
  resumeBest (2 * s.versionCount + 2) 0 s.versionCount false least? { m with stack := s }

/-- Goes on until no version is left or a complete reading is the best. -/
def loop (text : Glyphs) : Nat → Nat → Machine → Machine
  | 0, _, m => m
  | fuel + 1, last, m =>
    let (m, last) := advanceAll text (m.stack.versionCount + 64) 0 last m
    let (m, least?) := condense m
    let done := match m.finished?, least? with
      | some d, some n => d.cost < n
      | some _, none => true
      | none, _ => false
    if done || m.stack.versions.isEmpty then m else loop text fuel last m

end Machine

/-- The derivation of a text. There always is one, though it may hold errors. -/
def derive (source : Text.Bytes) : Derivation :=
  let text : Glyphs := (Glyph.scan source).toArray
  ((Machine.loop text (100 + 20 * text.size) 0 Machine.initial).finished?).getD
    (Derivation.ofError [] false)

end Sketchbook.Syntax
