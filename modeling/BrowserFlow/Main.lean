import BrowserFlow.Command.Help
import BrowserFlow.Command.Run
import BrowserFlow.Settings.File
import Std.Time.DateTime.Timestamp

/-!
The program: the command line, run on the files of the machine. No service is asked.
-/

namespace BrowserFlow

def FileError.ofIO : IO.Error → FileError
  | .noFileOrDirectory .. => notFound
  | .alreadyExists .. => alreadyExists
  | .inappropriateType _ code _ =>
    if code = 21 then isDirectory else notDirectory
  | .resourceExhausted .. => noSpace
  | e => other (toString e)

def attemptIO (action : IO α) : IO (Except FileError α) := do
  try return .ok (← action) catch e => return .error (.ofIO e)

instance : FileSystem IO where
  readText path := attemptIO (IO.FS.readFile path)
  writeText path text := attemptIO (IO.FS.writeFile path text)
  makeDirectory path := attemptIO (IO.FS.createDir path)
  isDirectory path := do return (← attemptIO (IO.FS.realPath (path ++ "/."))) matches .ok _
  openForAppend path := attemptIO do
    let _ ← IO.FS.Handle.mk path .append
  appendText path text := attemptIO do
    (← IO.FS.Handle.mk path .append).putStr text
  clock := do return (← Std.Time.Timestamp.now).toMillisecondsSinceUnixEpoch.toInt.toNat

def noService : IO Service := do return ⟨fun _ => none, ← IO.getEnv "OPENAI_API_KEY"⟩

def runInvocation (invocation : Invocation) : IO UInt32 := do
  let settings : Settings ← Settings.load invocation.settings
  let result ← (invocation.command.run (← noService) settings : ExceptT CommandError IO String).run
  match result with
  | .ok text =>
    IO.print text
    return 0
  | .error e =>
    IO.eprintln ("Error: " ++ e.message)
    return 1

end BrowserFlow

open BrowserFlow in
def main (arguments : List String) : IO UInt32 := do
  match CommandLine.parse arguments with
  | .ok invocation => runInvocation invocation
  | .error e =>
    IO.print e.output
    if e.exitCode ≠ 0 then IO.eprintln ("error: " ++ e.message)
    return .ofNat e.exitCode
