import Rewinding.CommandLine

/-!
# The executable

Reads the file that the command line names and prints the answer.
-/

namespace Rewinding

/-- Why the system could not read a file. A path goes wrong on its type when the file is a directory,
which only the reading notices (code 21), or when a name before its last is none. -/
def FileFault.ofError : IO.Error → FileFault
  | .noFileOrDirectory .. => .missing
  | .inappropriateType _ code _ => if code = 21 then .isDirectory else .notDirectory
  | .invalidArgument .. => .nameTooLong
  | e => .other (toString e)

def readSource (path : String) : IO (Except FileFault String) := do
  try
    return FileFault.textOf (← IO.FS.readBinFile path)
  catch e =>
    return .error (FileFault.ofError e)

/-- The variable of the environment with the directives for the log. -/
def logVariable : String := "REWIND_LOG"

def answerTo (words : List String) : IO Response := do
  match CommandLine.prepare words (← IO.getEnv logVariable) with
  | .ok a => return CommandLine.carryOut a (← readSource a.graph)
  | .error response => return response

end Rewinding

def main (words : List String) : IO UInt32 := do
  let response ← Rewinding.answerTo words
  (← IO.getStdout).putStr response.stdout
  (← IO.getStderr).putStr response.stderr
  return response.exit.toUInt32
