import Sketchbook.Settings.Metadata

namespace Sketchbook

open Sketchbook.Settings

structure Accessor where
  name : String
  returnType : String
  body : String
  deriving Repr, DecidableEq

namespace Accessor

def render (indent : String) (a : Accessor) : String :=
  indent ++ "public " ++ a.returnType ++ " " ++ a.name ++ "() \x7b return " ++ a.body ++ "; \x7d"

def renderAll (indent : String) (as : List Accessor) : String :=
  String.join (as.map fun a => "\n" ++ a.render indent ++ "\n")

end Accessor

/-- Something the author of a sketch should know. -/
structure Warning where
  message : String
  hint? : Option String := none
  deriving Repr, DecidableEq

namespace Warning

def size : Warning :=
  ⟨"Could not parse the size() command.",
    some "More about the size() command can be found in the size() reference."⟩

def smooth : Warning :=
  ⟨"Could not find smooth level",
    some ("The smooth level of this sketch could not automatically be determined " ++
      "from your code. Use only a numeric value (not variables) for the " ++
      "smooth() command. See the smooth() reference for an explanation.")⟩

def hintText? (w : Warning) : Option String := w.hint?.filter (· ≠ "")

def logLine (w : Warning) : String :=
  "WARNING preproc.accessors: " ++ w.message ++
    (match w.hintText? with
    | some h => " " ++ h
    | none => "")

def display (w : Warning) : String :=
  "warning: " ++ w.message ++ "\n" ++
    (match w.hintText? with
    | some h => "  " ++ h ++ "\n"
    | none => "")

end Warning

namespace Settings.Metadata

def accessorsOf (values : List (Option String × String × String)) : List Accessor :=
  values.filterMap fun (value, name, type) => value.map fun v => ⟨name, type, v⟩

def sizeAccessors (m : Metadata) : List Accessor :=
  if m.sizeSeen && m.sizeValid then
    accessorsOf [(m.width, "sketchWidth", "int"), (m.height, "sketchHeight", "int"),
      (m.renderer, "sketchRenderer", "String")]
  else []

def smoothAccessors (m : Metadata) : List Accessor :=
  if m.smoothSeen && m.smoothValid then accessorsOf [(m.quality, "sketchQuality", "int")] else []

def accessors (m : Metadata) : List Accessor := m.sizeAccessors ++ m.smoothAccessors

/-- What is to be said about settings whose arguments could not be made out. -/
def warnings (m : Metadata) : List Warning :=
  (if m.sizeSeen && !m.sizeValid && m.sizeFailure = some .parameters then [.size] else []) ++
    (if m.smoothSeen && !m.smoothValid && m.smoothFailure = some .parameters then [.smooth] else [])

/-- What one setting adds: its methods if it is valid. If its arguments are to blame, the warning
goes to `report`, which adds it to `log`. -/
def emitSetting {σ : Type} (report : σ → Warning → σ) (seen valid : Bool)
    (failure? : Option Failure) (values : List (Option String × String × String))
    (warning : Warning) (log : σ) : List Accessor × σ :=
  if seen then
    if valid then (accessorsOf values, log)
    else if failure? = some .parameters then ([], report log warning)
    else ([], log)
  else ([], log)

/-- The methods through which the settings are read; what is to be said goes to `report` on the
way. -/
def emit {σ : Type} (report : σ → Warning → σ) (m : Metadata) (log : σ) : List Accessor × σ :=
  let (size, log) := emitSetting report m.sizeSeen m.sizeValid m.sizeFailure
    [(m.width, "sketchWidth", "int"), (m.height, "sketchHeight", "int"),
      (m.renderer, "sketchRenderer", "String")] .size log
  let (smooth, log) := emitSetting report m.smoothSeen m.smoothValid m.smoothFailure
    [(m.quality, "sketchQuality", "int")] .smooth log
  (size ++ smooth, log)

/-- On the way exactly the warnings are reported, in order. -/
theorem emit_eq {σ : Type} (report : σ → Warning → σ) (m : Metadata) (log : σ) :
    m.emit report log = (m.accessors, m.warnings.foldl report log) := by
  simp only [emit, emitSetting, accessors, sizeAccessors, smoothAccessors, warnings]
  cases m.sizeSeen <;> cases m.sizeValid <;> cases m.smoothSeen <;> cases m.smoothValid <;>
    by_cases hs : m.sizeFailure = some .parameters <;>
    by_cases hq : m.smoothFailure = some .parameters <;> simp [hs, hq]

end Settings.Metadata

end Sketchbook
