import Lexicon.CommandLine.Run

/-!
# The program

Reads the arguments and the files that they name, runs the command, and writes what it reports. The
log shows warnings, or everything in debugging.
-/

namespace Lexicon.Program

open CommandLine

/-- The fault of a failed reading. -/
def faultOf : IO.Error → FileFault
  | .noFileOrDirectory .. => .missing
  | .inappropriateType _ 20 _ => .notDirectory
  | .inappropriateType _ 21 _ => .isDirectory
  | e => .other (toString e)

/-- The content of a file, or why it cannot be read. -/
def readFile (path : String) : IO (Except FileFault (List UInt8)) := do
  try
    return .ok (← IO.FS.readBinFile path).toList
  catch e =>
    return .error (faultOf e)

/-- The content of the settings file, if there is one. -/
def settingsContent (path : String) : IO (Option (Except FileFault (List UInt8))) := do
  match ← readFile path with
  | .error .missing | .error .notDirectory => return none
  | content => return some content

/-- The directory of the settings file. -/
def settingsDirectory : IO String := do
  let base ← match ← IO.getEnv "XDG_DATA_HOME" with
    | some base => pure base
    | none => pure ""
  if base.startsWith "/" then return base ++ "/otmq"
  let home ← IO.getEnv "HOME"
  return home.getD "" ++ "/.local/share/otmq"

/-- Reads what a command finds around it. -/
def look (directory : String) (command : Command) : IO Surroundings := do
  let settingsPath := directory ++ "/config.json"
  let files ← command.files.mapM fun path => return (path, ← readFile path)
  return {
    contentOf := fun path => (files.lookup path).getD (.error .missing)
    settingsPath
    settingsFile := ← settingsContent settingsPath
    logFilter := none }

/-- Writes what a command leaves behind. -/
def write (directory : String) (w : Surroundings) (r : Report) : IO Unit := do
  if let some text := r.saved then
    IO.FS.createDirAll directory
    IO.FS.writeFile w.settingsPath text
  (← IO.getStderr).putStr r.errorOutput
  (← IO.getStdout).putStr r.output

end Lexicon.Program

open Lexicon in
/-- Runs the program with arguments. -/
def main (arguments : List String) : IO UInt32 := do
  match CommandLine.Invocation.ofArguments? arguments with
  | none =>
    IO.eprintln "usage: otmq [--debug] [--no-color] search|script|check|list|config ..."
    return 2
  | some invocation =>
    let directory ← Program.settingsDirectory
    let w ← Program.look directory invocation.command
    let report := CommandLine.run w invocation
    Program.write directory w report
    return report.exitCode
