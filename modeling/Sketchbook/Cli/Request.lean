import Sketchbook.Cli.Words

namespace Sketchbook.Cli

/-- What is to be done, with which sketch and how. -/
structure Request where
  command : Command
  sketch : Word
  verbose : Bool := false
  package? : Option Word := none
  out? : Option Word := none
  deriving Repr, DecidableEq

namespace Request

def lastValue? (s : Switch) (given : List Given) : Option Word :=
  (given.reverse.find? fun g => g.switch = s).map (·.value)

/-- Reads a command line. Words that are left over on either level are named together. -/
def ofWords (words : List Word) : Except Ending Request := do
  let outer ← take .program words
  let name := outer.operands.headD []
  match Command.ofName? name with
  | none => throw (.refused .program (.noSuchCommand name))
  | some command =>
    let inner ← take (.command command) (outer.operands.drop 1)
    let extras := outer.extras ++ inner.extras
    if !extras.isEmpty then throw (.refused .program (.unrecognized extras))
    return {
      command
      sketch := inner.operands.headD []
      verbose := outer.given.any (·.switch = .verbose)
      package? := lastValue? .package inner.given
      out? := lastValue? .out inner.given }

end Request

end Sketchbook.Cli
