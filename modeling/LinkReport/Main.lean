import LinkReport.CommandLine.Run

/-!
# The command line

The outer layer of both programs. It looks at the process and its working directory, runs
the program that the executable is named after, and passes on what the run leaves behind.
-/

namespace LinkReport.CommandLine

/-- The surroundings of this process. -/
def currentSurroundings : IO Surroundings := do
  let block ← IO.FS.readBinFile "/proc/self/environ"
  let environment := Environment.ofBlock block.toList
  let place ← try some <$> IO.currentDir catch _ => pure none
  match place with
  | none => return { environment, directory := none }
  | some place =>
    let file := place / ".env"
    let envFile : Config.EnvFileEntry ←
      if ← file.isDir then pure .directory
      else if ← file.pathExists then (.file ·.toList) <$> IO.FS.readBinFile file
      else pure .absent
    return { environment, directory := some { path := place.toString, envFile } }

/-- Passes on what a run leaves behind, and gives its exit code. -/
def Output.emit (output : Output) : IO UInt32 := do
  IO.eprint output.stderr
  IO.print output.stdout
  return output.code.toUInt32

end LinkReport.CommandLine

/-- Runs the program that the executable is named after. -/
def main (arguments : List String) : IO UInt32 := do
  let name := (← IO.appPath).fileName.getD ""
  let program := (LinkReport.CommandLine.Program.ofName? name).getD .demo
  let surroundings ← LinkReport.CommandLine.currentSurroundings
  match program.run arguments surroundings with
  | .ok output => output.emit
  | .error crash => (LinkReport.CommandLine.Output.ofCrash crash).emit
