import Sketchbook.Syntax.Production
import Sketchbook.Syntax.Lexer

namespace Sketchbook.Syntax

/-- What each kind of error costs when readings of a text compete. -/
structure ErrorCosts where
  recovery : Nat
  missingToken : Nat
  skippedTree : Nat
  skippedByte : Nat
  skippedLine : Nat

/-- A line costs as much as thirty bytes, and five skipped trees as much as giving up on a rule. -/
def errorCosts : ErrorCosts := ⟨500, 110, 100, 1, 30⟩

/-- What is known about a derivation without looking inside. -/
structure Summary where
  padding : Extent
  size : Extent
  cost : Nat
  visibleChildren : Nat
  visibleDescendants : Nat
  precedence : Nat
  deriving Repr, Inhabited

/-- A token, or a rule over its parts. The padding before it is blank space. -/
inductive Derivation where
  | token (symbol : Symbol) (padding size : Extent) (extra missing keyword : Bool) (state : Nat)
  | rule (symbol : Symbol) (production : Nat) (extra : Bool) (summary : Summary)
      (parts : List Derivation)
  deriving Repr, Inhabited

namespace Derivation

def symbol : Derivation → Symbol
  | token s .. => s
  | rule s .. => s

def padding : Derivation → Extent
  | token _ p .. => p
  | rule _ _ _ s _ => s.padding

def size : Derivation → Extent
  | token _ _ n .. => n
  | rule _ _ _ s _ => s.size

def extent (d : Derivation) : Extent := d.padding + d.size

/-- Whether the derivation is a comment or the like, which may stand anywhere. -/
def isExtra : Derivation → Bool
  | token _ _ _ e .. => e
  | rule _ _ e .. => e

def parts : Derivation → List Derivation
  | token .. => []
  | rule _ _ _ _ ps => ps

/-- A rule opened up into its parts; a token stays as it is. -/
def opened : Derivation → List Derivation
  | token s p n e m k q => [token s p n e m k q]
  | rule _ _ _ _ ps => ps

def production : Derivation → Nat
  | token .. => 0
  | rule _ p .. => p

/-- The cost of the errors inside; for a token that had to be made up, with the cost of giving up. -/
def cost : Derivation → Nat
  | token _ _ _ _ missing .. =>
    if missing then errorCosts.missingToken + errorCosts.recovery else 0
  | rule _ _ _ s _ => s.cost

def visibleChildren : Derivation → Nat
  | token .. => 0
  | rule _ _ _ s _ => s.visibleChildren

def visibleDescendants : Derivation → Nat
  | token .. => 0
  | rule _ _ _ s _ => s.visibleDescendants

def precedence : Derivation → Nat
  | token .. => 0
  | rule _ _ _ s _ => s.precedence

/-- Whether the derivation shows in the tree when its parent does not rename it. -/
def isVisible (d : Derivation) : Bool := d.symbol.visibility != .hidden

def isError (d : Derivation) : Bool := d.symbol = Symbol.error

/-- The nodes a derivation adds to the tree; a run of skipped tokens counts as one more, so that
skipping counts as progress. -/
def nodeCount (d : Derivation) : Nat :=
  d.visibleDescendants + (if d.isVisible then 1 else 0)
    + (if d.symbol = Symbol.skipped then 1 else 0)

/-- Marks a token as one that may stand anywhere, or as an ordinary one. -/
def setExtra (extra : Bool) : Derivation → Derivation
  | token s p n _ m k q => token s p n extra m k q
  | rule s p _ m ps => rule s p extra m ps

def asWord : Derivation → Derivation
  | token _ p n e m k q => token Symbol.word p n e m k q
  | d => d

def skips (s : Symbol) : Bool := s = Symbol.error || s = Symbol.skipped

/-- Adds one part to the summary of a rule; `index` counts the parts that are no comments. -/
def addPart (rule : Symbol) (p : Production) (acc : Summary × Nat × Bool) (part : Derivation) :
    Summary × Nat × Bool :=
  let (s, index, first) := acc
  let renamed := !part.isExtra && part.symbol != Symbol.endOfText && (p.alias? index).isSome
  let skippedTrees :=
    if skips rule && !part.isExtra && !(part.isError && part.parts.isEmpty) then
      if part.isVisible then 1 else part.visibleChildren
    else 0
  let partCost := if part.symbol = Symbol.skipped then 0 else part.cost
  let shown := if renamed || part.isVisible then 1 else 0
  ({ padding := if first then part.padding else s.padding
     size := if first then part.size else s.size + part.extent
     cost := s.cost + partCost + skippedTrees * errorCosts.skippedTree
     visibleChildren := s.visibleChildren + if shown = 1 then 1 else part.visibleChildren
     visibleDescendants := s.visibleDescendants + part.visibleDescendants + shown
     precedence := s.precedence + part.precedence },
   if part.isExtra then index else index + 1, false)

def summarize (symbol : Symbol) (production : Nat) (parts : List Derivation) : Summary :=
  let p := Production.ofId production
  let (s, _, _) := parts.foldl (addPart symbol p) (⟨.zero, .zero, 0, 0, 0, 0⟩, 0, true)
  if skips symbol then
    { s with
      cost := s.cost + errorCosts.recovery + errorCosts.skippedByte * s.size.bytes
        + errorCosts.skippedLine * s.size.rows }
  else s

def ofParts (symbol : Symbol) (production : Nat) (parts : List Derivation) : Derivation :=
  rule symbol production false (summarize symbol production parts) parts

/-- A rule over its parts that counts as preferred by so much more than its parts do. -/
def prefer (n : Nat) : Derivation → Derivation
  | rule s p e m ps => rule s p e { m with precedence := m.precedence + n } ps
  | d => d

def ofError (parts : List Derivation) (extra : Bool) : Derivation :=
  (ofParts Symbol.error 0 parts).setExtra extra

def ofMissing (symbol : Symbol) : Derivation :=
  token symbol .zero .zero (symbol = Symbol.endOfText) true false 0

mutual

/-- Orders derivations by symbol and number of parts, and then by their parts. -/
def order : Derivation → Derivation → Ordering
  | token s .., token t .. => compare s t
  | token s .., rule t _ _ _ qs => (compare s t).then (compare 0 qs.length)
  | rule s _ _ _ ps, token t .. => (compare s t).then (compare ps.length 0)
  | rule s _ _ _ ps, rule t _ _ _ qs =>
    ((compare s t).then (compare ps.length qs.length)).then (orderAll ps qs)

def orderAll : List Derivation → List Derivation → Ordering
  | p :: ps, q :: qs => (order p q).then (orderAll ps qs)
  | _, _ => .eq

end

/-- Whether the second of two derivations of the same text is to be preferred: the cheaper one, then
the one of higher precedence, then the later one if both have errors, then the lesser one. -/
def prefersSecond (a b : Derivation) : Bool :=
  if b.cost < a.cost then true
  else if a.cost < b.cost then false
  else if a.precedence < b.precedence then true
  else if b.precedence < a.precedence then false
  else if 0 < a.cost then true
  else order a b = .gt

def splitExtras (parts : List Derivation) : List Derivation × List Derivation :=
  let r := parts.reverse
  ((r.dropWhile isExtra).reverse, (r.takeWhile isExtra).reverse)

end Derivation

end Sketchbook.Syntax
