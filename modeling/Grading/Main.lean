import Grading.CommandLine.Basic

/-! The program: it looks up the settings and files that its arguments ask for, and carries out what
a run on them comes to. -/

namespace Grading.CommandLine

def readFile? (path : String) : IO (Option ByteArray) := do
  try
    return some (← IO.FS.readBinFile path)
  catch _ => return none

def readSettings : IO (List (String × String)) :=
  Configuration.settingNames.filterMapM fun name => do
    return (← IO.getEnv name).map (name, ·)

/-- What is around the program, as far as the arguments ask for it. -/
def readSurroundings (arguments : List String) : IO Surroundings := do
  let program := (← IO.appPath).fileName.getD ""
  let settings ← readSettings
  let catalog := (Configuration.ofSettings (List.lookup · settings)).catalogPath
  let paths := ((Request.ofArguments? arguments).map Request.paths).getD []
  let files ← (paths ++ catalog.toList).filterMapM fun path => do
    return (← readFile? path).map (path, ·)
  -- Nothing is printed here that takes long to search: the simulated pool prints nothing.
  return ⟨program, (List.lookup · settings), (List.lookup · files), fun _ => some .zero⟩

/-- Writes the files of an ending, and tells which could be written. -/
def writeFiles (ending : Ending) : IO (List String) :=
  ending.written.filterMapM fun (path, content) => do
    try
      IO.FS.writeFile path content
      return some path
    catch _ => return none

end Grading.CommandLine

open Grading.CommandLine

def main (arguments : List String) : IO UInt32 := do
  let ending := run (← readSurroundings arguments) arguments
  (← IO.getStdout).putStr ending.stdout
  let written ← writeFiles ending
  return UInt32.ofNat (ending.writingTo written.contains).code
