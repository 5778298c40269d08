import PlaybookLint.CommandLine
import PlaybookLint.Rehearsal

/-!
The program. It takes the words of a command line and reads a rehearsal from its standard input; what
the command prints on the host of the rehearsal is printed, and its code is returned.
-/

namespace PlaybookLint.Main

/-- Everything that is left on a stream. -/
partial def readAll (input : IO.FS.Stream) (before : String) : IO String := do
  let line ← input.getLine
  if line.isEmpty then return before else readAll input (before ++ line)

/-- The code for a command line or a rehearsal that cannot be followed. -/
def usageCode : UInt32 := 2

/-- Prints what a command leaves behind. -/
def finish : Except CommandLine.Fault CommandLine.Result → IO UInt32
  | .ok result => do
    (← IO.getStdout).putStr result.stdout
    (← IO.getStderr).putStr result.stderr
    return result.code.toUInt32
  | .error fault => do
    (← IO.getStderr).putStrLn fault.message
    return 1

/-- Follows a command line on the host of a rehearsal. -/
def follow (words : List String) (document : String) : IO UInt32 := do
  match Rehearsal.read document, CommandLine.Task.ofWords words with
  | .error refusal, _ =>
    (← IO.getStderr).putStrLn refusal.message
    return usageCode
  | .ok _, .error _ => return usageCode
  | .ok host, .ok task => finish (task.run host false)

end PlaybookLint.Main

def main (words : List String) : IO UInt32 := do
  let document ← PlaybookLint.Main.readAll (← IO.getStdin) ""
  PlaybookLint.Main.follow words document
