import Sketchbook.Text.Blank
import Sketchbook.Settings.Basic

namespace Sketchbook.Settings

open Sketchbook.Text

def displayWidth : String := "displayWidth"

def displayHeight : String := "displayHeight"

def renderers : List String := ["P2D", "P3D", "OPENGL", "JAVA2D"]

/-- Whether a text is written with ASCII digits alone, and at least one. -/
def isDigits (s : String) : Bool := !s.toList.isEmpty && s.toList.all Char.isDigit

/-- Whether a text is a whole number without a sign, blanks around it apart. -/
def isIntegerLiteral (s : String) : Bool := isDigits (trim s)

def dimension? (word s : String) : Option String :=
  let v := trim s
  if isIntegerLiteral v || v = word then some v else none

def assess (values : Values) (valid : Bool) : Assessment :=
  ⟨valid, values, if valid then none else some .parameters⟩

/-- The arguments of `size`: width, height and, if given, a renderer. Later ones do not matter. -/
def assessSize : List String → Assessment
  | [] => assess {} false
  | [w] => assess { width := dimension? displayWidth w } false
  | w :: h :: more =>
    let width := dimension? displayWidth w
    let height := dimension? displayHeight h
    let sized := width.isSome && height.isSome
    match more with
    | [] => assess { width, height } sized
    | r :: _ =>
      if renderers.contains (trim r) then
        assess { width, height, renderer := some (trim r) } sized
      else assess { width, height } false

def assessSmooth : List String → Assessment
  | [] => assess {} false
  | q :: _ =>
    if isIntegerLiteral q then assess { quality := some (trim q) } true else assess {} false

def Setting.assess : Setting → List String → Assessment
  | .size => assessSize
  | .smooth => assessSmooth

end Sketchbook.Settings
