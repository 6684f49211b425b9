import PatternMachine.Command

/-!
# The command line program

The files a command may look at are read first; the command is then carried out
on the tree they form.
-/

namespace PatternMachine
namespace Main

/-- Add what stands at a path. A file that cannot be read is left out. -/
def addPath (files : Files) (path : String) : IO Files := do
  let place := System.mkFilePath [path]
  if path.isEmpty then return files
  else if ← place.isDir then return files.addDirectory path
  else if ← place.pathExists then
    return files.addFile path (Text.ofBytes (← IO.FS.readBinFile place).toList)
  else return files

/-- Add everything at and below a path. -/
partial def addTree (files : Files) (path : String) : IO Files := do
  let place := System.mkFilePath [path]
  let files ← addPath files path
  if ← place.isDir then
    let entries ← place.readDir
    entries.foldlM (fun files entry => addTree files (path ++ "/" ++ entry.fileName)) files
  else return files

/-- Read the files an invocation may look at. -/
def gather : Command.Invocation -> IO Files
  | .showHelp | .showVersion => return {}
  | .run overrides path _ _ | .check overrides path => do
      addPath (← addPath {} overrides.configuration) path
  | .test overrides path _ => do
      let files ← addPath {} overrides.configuration
      match path, overrides.configuration? files with
      | some path, _ => addTree files path
      | none, .ok configuration => addTree files configuration.conformance
      | none, .error _ => return files

/-- The result of a command line. -/
def resultOf (line : List String) : IO (Except Stop Command.Result) := do
  match Command.Invocation.ofLine line with
  | .error cause => return .ok (.ofError (.line cause))
  | .ok invocation => return invocation.perform (← gather invocation)

end Main
end PatternMachine

/-- Carry out the command line and exit with its code. -/
def main (line : List String) : IO UInt32 := do
  match ← PatternMachine.Main.resultOf line with
  | .ok result =>
      IO.print result.output
      IO.eprint result.allDiagnostics
      return UInt32.ofNat result.code
  | .error (.fatal message) =>
      IO.eprintln message
      return 255
  | .error _ => return 255
