import CatalogSearch.CommandLine.Run

/-! # The program

Reads the files that a command line refers to, runs it over them, and writes what it leads to.
-/

namespace CatalogSearch

/-- What lies at a path of the machine. Twenty-one is the code of an attempt to read a directory. -/
def probe (path : String) : IO (Option Node) := do
  try
    let bytes ← IO.FS.readBinFile path
    return some (.file bytes.toList)
  catch error => match error with
    | .inappropriateType _ code _ => return if code = 21 then some .directory else none
    | _ => return none

/-- The places on the way to a path, the path itself last. -/
def waypoints (path : PathName) : List PathName :=
  (List.range (path.parts.length + 1)).map fun count => { path with parts := path.parts.take count }

def visit (path : PathName) : IO (List (Location × Node)) := do
  let found ← (waypoints path).mapM fun place => do
    let node? ← probe place.text
    return node?.map fun node => (({} : Files).resolve place, node)
  return found.filterMap id

/-- The paths that a command line refers to, besides the places where settings are looked for. -/
def pathsIn (words : List String) : List String :=
  match CommandLine.Argument.ofWords words with
  | .ok arguments =>
    (CommandLine.Options.positionalsOf arguments).take 1 ++ CommandLine.Options.valuesOf arguments .config
  | .error _ => []

/-- The files that matter for a command line. -/
def snapshot (words : List String) : IO Files := do
  let homeText := (← IO.getEnv "HOME").getD ""
  let userPath := "/".intercalate (homeText :: Config.userFile.drop Location.home.length)
  let user ← probe userPath
  let local? ← visit (.ofText "bookworm.toml")
  let named ← (pathsIn words).mapM fun text => visit (.ofText text)
  return { homeText, nodes := (user.toList.map fun node => (Config.userFile, node)) ++ local? ++ named.flatten }

end CatalogSearch

open CatalogSearch

def main (words : List String) : IO UInt32 := do
  let run := CommandLine.run (← snapshot words) words
  IO.print run.written.text
  for display in run.written.displays do
    for line in display.draw do
      IO.println line
  match run.failure with
  | some failure => IO.eprintln (failure.message ((pathsIn words).headD ""))
  | none => pure ()
  return UInt32.ofNat run.exitCode
