import Sketchbook.Settings.Basic

namespace Sketchbook.Settings

structure Metadata where
  width : Option String := none
  height : Option String := none
  renderer : Option String := none
  quality : Option String := none
  sizeSeen : Bool := false
  sizeValid : Bool := false
  smoothSeen : Bool := false
  smoothValid : Bool := false
  sizeFailure : Option Failure := none
  smoothFailure : Option Failure := none
  deriving Repr, DecidableEq

/-- A step that comes too late or too early. -/
inductive RecorderError where
  | frozen
  | notFrozen
  deriving Repr, DecidableEq

def RecorderError.message : RecorderError → String
  | .frozen => "metadata is already frozen"
  | .notFrozen => "metadata is not frozen yet"

/-- A call that decides, with what it amounts to. -/
structure Decision where
  site : Site
  assessment : Assessment
  deriving Repr, DecidableEq

/-- The calls seen so far: for each setting whether there was one and which one decides. The
deciding calls are kept in the order in which their settings first got one. -/
structure Recorder where
  seen : List Setting := []
  decisions : List Decision := []
  frozen? : Option Metadata := none
  deriving Repr, DecidableEq

namespace Recorder

def decision? (r : Recorder) (s : Setting) : Option Decision :=
  r.decisions.find? fun d => d.site.setting = s

/-- Puts a decision in the place of the one for the same setting, or at the end. -/
def putDecision (d : Decision) : List Decision → List Decision
  | [] => [d]
  | x :: xs => if x.site.setting = d.site.setting then d :: xs else x :: putDecision d xs

def record (r : Recorder) (site : Site) (a : Assessment) : Except RecorderError Recorder :=
  if r.frozen?.isSome then .error .frozen
  else
    let seen := if r.seen.contains site.setting then r.seen else r.seen ++ [site.setting]
    -- a call in the wrong place is seen and decides nothing
    if a.failure? = some .scope then .ok { r with seen }
    else .ok { r with seen, decisions := putDecision ⟨site, a⟩ r.decisions }

def failure? (r : Recorder) (s : Setting) : Option Failure :=
  match r.decision? s with
  | some d => d.assessment.failure?
  | none => if r.seen.contains s then some .scope else none

def metadata (r : Recorder) : Metadata :=
  let size := r.decision? .size
  let smooth := r.decision? .smooth
  { width := size.bind (·.assessment.values.width)
    height := size.bind (·.assessment.values.height)
    renderer := size.bind (·.assessment.values.renderer)
    quality := smooth.bind (·.assessment.values.quality)
    sizeSeen := r.seen.contains .size
    sizeValid := (size.map (·.assessment.valid)).getD false
    smoothSeen := r.seen.contains .smooth
    smoothValid := (smooth.map (·.assessment.valid)).getD false
    sizeFailure := r.failure? .size
    smoothFailure := r.failure? .smooth }

def freeze (r : Recorder) : Recorder × Metadata :=
  match r.frozen? with
  | some m => (r, m)
  | none => ({ r with frozen? := some r.metadata }, r.metadata)

def insertSite (s : Site) : List Site → List Site
  | [] => [s]
  | x :: xs => if s.start ≤ x.start then s :: x :: xs else x :: insertSite s xs

/-- The sites in the order of their starts; those with the same start keep their order. -/
def sortSites : List Site → List Site
  | [] => []
  | s :: ss => insertSite s (sortSites ss)

def decidingSites (r : Recorder) : Except RecorderError (List Site) :=
  if r.frozen?.isSome then
    .ok (sortSites ((r.decisions.filter fun d => d.assessment.valid).map (·.site)))
  else .error .notFrozen

end Recorder

end Sketchbook.Settings
