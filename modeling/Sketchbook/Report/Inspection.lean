import Sketchbook.Report.Basic
import Sketchbook.Unit.Generate

namespace Sketchbook

open Sketchbook.Report Sketchbook.Settings Sketchbook.Editing

def Report.textOrNull : Option String → Datum
  | some s => .text s
  | none => .null

def Report.failureOrNull (f : Option Failure) : Datum := textOrNull (f.map Failure.name)

def Settings.Metadata.report (m : Metadata) : Datum := .record [
  ("width", textOrNull m.width), ("height", textOrNull m.height),
  ("renderer", textOrNull m.renderer), ("quality", textOrNull m.quality),
  ("size_seen", .flag m.sizeSeen), ("size_valid", .flag m.sizeValid),
  ("smooth_seen", .flag m.smoothSeen), ("smooth_valid", .flag m.smoothValid),
  ("size_failure", failureOrNull m.sizeFailure), ("smooth_failure", failureOrNull m.smoothFailure)]

def Settings.Call.report (c : Call) : Datum := .record [
  ("kind", .text c.site.setting.name),
  ("argument_texts", .list (c.site.arguments.map .text)),
  ("start", .number c.site.start), ("end", .number c.site.stop), ("line", .number c.site.line),
  ("scope", .text c.scope.name), ("valid", .flag c.assessment.valid)]

def Editing.Edit.report (e : Edit) : Datum := .record [
  ("position", .number e.position), ("inserted_text", .text e.text), ("kind", .text e.side.name)]

def Accessor.report (a : Accessor) : Datum := .record [
  ("name", .text a.name), ("return_type", .text a.returnType), ("body", .text a.body)]

def Warning.report (w : Warning) : Datum := .record [
  ("message", .text w.message), ("hint", textOrNull w.hint?)]

/-- All that is known about a sketch except the code made of it. -/
def Generated.report (g : Generated) : Datum := .record [
  ("mode", .text g.mode.name), ("line_offset", .number g.lineOffset),
  ("metadata", g.metadata.report), ("calls", .list (g.calls.map Call.report)),
  ("edits", .list (g.edits.map Edit.report)),
  ("accessors", .list (g.accessors.map Accessor.report)),
  ("warnings", .list (g.warnings.map Warning.report))]

end Sketchbook
