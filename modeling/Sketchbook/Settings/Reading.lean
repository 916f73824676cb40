import Sketchbook.Settings.Metadata
import Sketchbook.Record.Checked

namespace Sketchbook.Settings

open Sketchbook.Record

def settingChoices : List (String × Setting) := [Setting.size, .smooth].map fun s => (s.name, s)

def failureChoices : List (String × Failure) :=
  [Failure.scope, .parameters].map fun f => (f.name, f)

def Site.ofTable (t : Table) : Checked Site :=
  Site.mk <$> t.field "kind" (Value.choice settingChoices)
    <*> t.fieldOr "argument_texts" (Value.textsOr .notSequence) []
    <*> t.field "start" Value.wholeNumber
    <*> t.field "end" Value.wholeNumber
    <*> t.field "line" Value.wholeNumber

def Values.ofList (ts : List (String × String)) : Values :=
  ⟨ts.lookup "width", ts.lookup "height", ts.lookup "renderer", ts.lookup "quality"⟩

def Assessment.ofTable (t : Table) : Checked Assessment :=
  Assessment.mk <$> t.field "valid" Value.flag
    <*> t.fieldOr "parameters" (fun v => Values.ofList <$> v.textTable) {}
    <*> t.fieldOr "failure" (Value.choice? failureChoices) none

def Metadata.ofTable (t : Table) : Checked Metadata :=
  Metadata.mk <$> t.fieldOr "width" Value.text? none
    <*> t.fieldOr "height" Value.text? none
    <*> t.fieldOr "renderer" Value.text? none
    <*> t.fieldOr "quality" Value.text? none
    <*> t.fieldOr "size_seen" Value.flag false
    <*> t.fieldOr "size_valid" Value.flag false
    <*> t.fieldOr "smooth_seen" Value.flag false
    <*> t.fieldOr "smooth_valid" Value.flag false
    <*> t.fieldOr "size_failure" (Value.choice? failureChoices) none
    <*> t.fieldOr "smooth_failure" (Value.choice? failureChoices) none

end Sketchbook.Settings
