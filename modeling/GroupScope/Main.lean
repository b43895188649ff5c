import GroupScope.CommandLine.Run
import GroupScope.CommandLine.Usage
/-!
# The program

Reads the arguments, the environment and the files that a run looks at, runs the command, carries
out what it changed, and prints.
-/

namespace GroupScope.CommandLine

/-- The variables of the process. -/
def readEnvironment : IO Environment := do
  let names := ["GF_CONFIG", "GF_DIRECTORY", "XDG_CONFIG_HOME", "HOME", "NO_COLOR"]
  let values ← names.mapM fun name => do pure (name, ← IO.getEnv name)
  pure (Environment.ofVariables (fun name => (values.lookup name).join) none)

/-- A directory, in which the attempt was made to look up a name. Whether it may be written shows
only when it is written, and so it is with files. -/
def directoryBy (attempt : IO α) : IO FileNode := do
  try
    discard attempt
    return .directory
  catch _ => return .directory .none

/-- A file, which the attempt was made to read. -/
def fileBy (attempt : IO ByteArray) : IO FileNode := do
  try return .file (← attempt)
  catch _ => return .file .empty .none

/-- Adds what stands on the disk at a location. -/
def loadNode (files : Files) (place : Location) : IO Files := do
  try
    let found ← IO.FS.realPath place.path
    if ← found.isDir then return files.put place (← directoryBy (found / ".").metadata)
    return files.put place (← fileBy (IO.FS.readBinFile found))
  catch _ => return files

/-- Adds what stands on the disk along a path. -/
def loadPath (files : Files) (path : String) : IO Files := do
  let start := files.start path
  let (files, _) ← (Files.pathNames path).foldlM (fun (files, here) name => do
    let place := Location.step here name
    pure (← loadNode files place, place)) (← loadNode files start, start)
  return files

/-- The store that is known before a path is looked at: the directories down to the working
directory. -/
def loadWorkingDirectory : IO Files := do
  let path := (← IO.currentDir).toString
  let workingDirectory := (Files.pathNames path).foldl Location.step .root
  loadPath { entries := [], workingDirectory } path

/-- Carries out one change on the disk. -/
def storeNode : Location × FileNode → IO Unit
  | (place, .directory _) => IO.FS.createDirAll place.path
  | (place, .file content _) => IO.FS.writeBinFile place.path content

end GroupScope.CommandLine

open GroupScope GroupScope.CommandLine in
/-- Runs the program. -/
def main (arguments : List String) : IO UInt32 := do
  let environment ← readEnvironment
  match Invocation.ofArguments environment.directoryFile arguments with
  | .error stop =>
    if stop.exitCode = 0 then IO.print stop.text else IO.eprint stop.text
    return stop.exitCode.toUInt32
  | .ok invocation =>
    let files ← (invocation.paths environment).foldlM loadPath (← loadWorkingDirectory)
    let outcome := run environment files invocation
    (outcome.files.changesSince files).forM storeNode
    IO.print outcome.output
    IO.eprint (outcome.diagnostics invocation)
    return outcome.exitCode.toUInt32
