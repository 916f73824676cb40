namespace Sketchbook.Settings

inductive Setting where
  | size
  | smooth
  deriving Repr, DecidableEq

def Setting.name : Setting → String
  | .size => "size"
  | .smooth => "smooth"

/-- Where a call stands: as a statement of the sketch itself, as a statement of the method that runs
at the start, or anywhere else. -/
inductive Scope where
  | global
  | entryMethod
  | invalid
  deriving Repr, DecidableEq

def Scope.name : Scope → String
  | .global => "global"
  | .entryMethod => "entry_method"
  | .invalid => "invalid"

/-- Why a call is not lifted: for where it stands, of which nothing is said, or for its arguments,
which is reported. -/
inductive Failure where
  | scope
  | parameters
  deriving Repr, DecidableEq

def Failure.name : Failure → String
  | .scope => "scope"
  | .parameters => "parameters"

structure Values where
  width : Option String := none
  height : Option String := none
  renderer : Option String := none
  quality : Option String := none
  deriving Repr, DecidableEq

/-- The values with their names, without those that are not set. -/
def Values.toList (v : Values) : List (String × String) :=
  ([("width", v.width), ("height", v.height), ("renderer", v.renderer),
    ("quality", v.quality)]).filterMap fun (name, value) => value.map (name, ·)

/-- What the arguments of a call amount to. -/
structure Assessment where
  valid : Bool
  values : Values := {}
  failure? : Option Failure := none
  deriving Repr, DecidableEq

/-- A call that sets something. Its span is in bytes of the sketch and its line counts from one. -/
structure Site where
  setting : Setting
  arguments : List String
  start : Int
  stop : Int
  line : Int
  deriving Repr, DecidableEq

/-- A call, where it stands and what it amounts to. -/
structure Call where
  site : Site
  scope : Scope
  assessment : Assessment
  deriving Repr, DecidableEq

end Sketchbook.Settings
