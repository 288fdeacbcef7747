import LivePage.Program
/-!
# Entry point

Runs the program on the files of the machine. Everything that is decided is decided by `runProgram`.
-/
namespace LivePage

def faultOf (e : IO.Error) : FileFault :=
  match e with
  | .noFileOrDirectory .. => .missing
  | .inappropriateType .. => .notDirectory
  | e => .other (toString e)

def machineFiles (workingDirectory : String) : Files IO where
  workingDirectory := workingDirectory
  read path := do
    try
      if ← (← IO.FS.realPath path).isDir then return .error .isDirectory
      match String.fromUTF8? (← IO.FS.readBinFile path) with
      | some text => return .ok text
      | none => return .error .invalidText
    catch e => return .error (faultOf e)
  isFile path := do
    try return !(← (← IO.FS.realPath path).isDir) catch _ => return false
  isDirectory path := do
    try (← IO.FS.realPath path).isDir catch _ => return false
  entries path := do
    try return (← (← IO.FS.realPath path).readDir).toList.map (·.fileName) catch _ => return []

end LivePage

/-- Answers a command line. -/
def main (arguments : List String) : IO UInt32 := do
  let directory ← IO.currentDir
  let r ← LivePage.runProgram (LivePage.machineFiles directory.toString) arguments
  (← IO.getStdout).putStr r.output
  (← IO.getStderr).putStr r.messages
  return UInt32.ofNat r.exitCode
