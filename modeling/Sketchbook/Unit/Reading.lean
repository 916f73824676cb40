import Sketchbook.Unit.Accessor
import Sketchbook.Record.Checked

namespace Sketchbook

open Sketchbook.Record

def Warning.ofTable (t : Table) : Checked Warning :=
  Warning.mk <$> t.field "message" Value.text <*> t.fieldOr "hint" Value.text? none

end Sketchbook
