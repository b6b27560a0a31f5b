import EntityStore.Command.Run

/-!
# The program

Reads the environment and the files that the arguments may name, runs the command, and prints what
it tells. Databases last as long as the run.
-/

namespace EntityStore

/-- The variables that are set. -/
def readEnvironment : IO Settings.Environment :=
  Settings.variableNames.filterMapM fun (name, _) => do
    let key := Settings.variablePrefix ++ name
    return (← IO.getEnv key).map fun text => (key, text)

/-- What is at a path, if anything is. -/
def readEntry (path : String) : IO (Option FileEntry) := do
  try
    return some (.file (← IO.FS.readBinFile path).toList)
  catch
    | .inappropriateType .. => return some .directory
    | _ => return none

/-- The files at some paths; an argument that is no path names no file. -/
def readFiles (paths : List String) : IO Files := do
  let entries ← paths.filterMapM fun path => do
    return (← readEntry path).map fun entry => (Files.normalPath path, entry)
  return ⟨entries⟩

end EntityStore

open EntityStore in
def main (arguments : List String) : IO UInt32 := do
  let environment ← readEnvironment
  let named := arguments ++ environment.map (·.2)
  let world : World :=
    { environment := environment, files := ← readFiles named, databaseVersion := "3.40.1" }
  let (outcome, _) := Command.run world arguments
  IO.print outcome.output
  match outcome.complaint with
  | some flaw => IO.eprintln ("Error: " ++ flaw.message)
  | none => pure ()
  return outcome.status.toUInt32
