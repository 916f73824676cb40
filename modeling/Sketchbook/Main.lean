import Sketchbook.Cli.Run

namespace Sketchbook.Cli

/-- The paths that a run can look at: those of the sketch and its settings, and all on the way to a
file that is to be written. -/
def placesOf (w : World) (r : Request) : List Path :=
  let wayTo := fun (base : Path) (names : List Word) =>
    (List.range (names.length + 1)).map fun n => GivenPath.follow base (names.take n)
  let sketch := match (GivenPath.ofWord r.sketch).expand? w with
    | some p => wayTo [] (p.resolve w)
    | none => []
  let out := match r.out?.bind fun o => (GivenPath.ofWord o).expand? w with
    | some p => wayTo (p.base w) p.names
    | none => []
  let settings := sketch.getLast?.map fun p => p.dropLast ++ [(Config.fileName : Word)]
  sketch ++ settings.toList ++ out

/-- Notes what stands at a path. Only paths that are text can be looked at. -/
def look (w : World) (p : Path) : IO World := do
  if !p.word.isText then return w
  try
    let bytes ← IO.FS.readBinFile p.word.text
    return { w with files := (p, bytes.toList) :: w.files }
  catch _ =>
    if ← ((← IO.currentDir) / p.word.text).isDir then return { w with folders := p :: w.folders }
    return w

/-- The words of the command line with all their bytes, where they can be looked up, or else as they
were handed over. -/
def wordsOf (given : List String) : IO (List Word) := do
  try
    let bytes ← IO.FS.readBinFile "/proc/self/cmdline"
    let all := (bytes.toList.splitOn 0).dropLast
    return (all.drop (all.length - given.length)).map Word.ofBytes
  catch _ => return given.map Word.ofString

end Sketchbook.Cli

open Sketchbook.Cli in
def main (given : List String) : IO UInt32 := do
  let pathOf := fun (s : String) => (GivenPath.ofWord s).names
  let here := pathOf (toString (← IO.currentDir))
  let home := ((← IO.getEnv "HOME").map pathOf).getD []
  let words ← wordsOf given
  let start : World := { files := [], here, home }
  let places := match Request.ofWords words with
    | .ok r => placesOf start r
    | .error _ => []
  let world ← places.foldlM look start
  let outcome := run world words
  (← IO.getStdout).putStr outcome.stdout
  (← IO.getStderr).putStr outcome.stderr
  if let some (path, text) := outcome.written? then
    if !path.word.isText then throw (IO.userError "a path that is no text cannot be written to")
    IO.FS.writeFile path.word.text text
  match outcome.exit with
  | .code n => return n.toUInt32
  | .crash k => throw (IO.userError (reprStr k))
