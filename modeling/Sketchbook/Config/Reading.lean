import Sketchbook.Config.Basic
import Sketchbook.Record.Checked
import Sketchbook.Text.Word

namespace Sketchbook.Config

open Sketchbook.Record Sketchbook.Text

/-- Whether a text is a name: a letter of ASCII, an underscore or a dollar sign, and then word
characters of any script or dollar signs. -/
def isName : List Char → Bool
  | [] => false
  | c :: cs => (c.isAlpha || c = '_' || c = '$') && cs.all fun d => isWord d || d = '$'

def isPackageName (s : String) : Bool := (s.toList.splitOn '.').all isName

/-- A text that passes a check; otherwise it is named in the fault. -/
def checkedText (what : String) (check : String → Bool) (v : Value) : Checked String :=
  match v with
  | .string s =>
    if check s then .ok s else .bad [⟨[], .refused ("Invalid " ++ what ++ " '" ++ s ++ "'")⟩]
  | v => v.text

def fieldNames : List String :=
  ["package_name", "entry_method", "indent", "core_imports", "default_imports", "extra_imports"]

/-- The settings in a table. What is left out has its usual value. -/
def ofTable (t : Table) : Checked Config :=
  let usual : Config := {}
  Config.mk
    <$> t.fieldOr "package_name" (checkedText "package name" isPackageName) usual.packageName
    <*> t.fieldOr "entry_method" (checkedText "entry method name" fun s => isName s.toList)
      usual.entryMethod
    <*> t.fieldOr "indent" Value.count usual.indent
    <*> t.fieldOr "core_imports" Value.texts usual.coreImports
    <*> t.fieldOr "default_imports" Value.texts usual.defaultImports
    <*> t.fieldOr "extra_imports" Value.texts usual.extraImports
    <* t.onlyFields fieldNames

end Sketchbook.Config
