import BrowserFlow.Command.Basic
import BrowserFlow.Compile.Artifacts
import BrowserFlow.Replay.Report
import BrowserFlow.Settings.App

/-!
Commands carried out: what each does to the files and what it prints.
-/

namespace BrowserFlow

inductive CommandError where
  | compile (e : CompileError)
  | file (e : FileError)
deriving DecidableEq, Repr

def CommandError.message : CommandError → String
  | compile e => e.message
  | file e => e.message

/-- The service that commands ask for rewritten scripts. -/
structure Service where
  transport : Rewrite.Transport
  key : Option String

/-- What a compilation says of itself, line by line. -/
def Compiled.summary (result : Compiled) : List String :=
  ["Loaded " ++ toString result.events.length ++ " events.",
    "Compiled flow '" ++ result.flow.name ++ "' with " ++ toString result.flow.steps.length ++
      " steps (digest " ++ result.digest ++ ")."] ++
    (if result.rewritten then ["Rewritten script written."] else []) ++
    ["Wrote output to " ++ result.outDirectory]

def printedLines (lines : List String) : String := String.join (lines.map (· ++ "\n"))

/-- The file of overrides next to a flow, unless another one is given. -/
def dataPath (flowPath : String) (config : ReplayConfig) (data : Option String) : String :=
  data.getD (Path.sibling flowPath config.dataFile)

namespace Command

variable {m : Type → Type} [Monad m] [FileSystem m]

def attempt (action : Attempt m α) : ExceptT CommandError m α :=
  ExceptT.mk do return (← action.run).mapError .compile

def rewriterOf (service : Service) (settings : Settings) (provider : Option Rewrite.Provider) :
    Rewrite.Rewriter :=
  Rewrite.rewriter service.transport
    { settings.rewrite with provider := settings.provider provider } service.key

/-- Carries a command out and yields what it prints. -/
def run (service : Service) (settings : Settings) : Command → ExceptT CommandError m String
  | .compile events outDirectory noClassify mode provider trace => do
    let trace ← liftM (n := ExceptT CommandError m) (openTrace trace : m (Option String))
    let result ← attempt <|
      BrowserFlow.compile
        { outDirectory := outDirectory
          segment := settings.segmentConfig noClassify
          replay := settings.replayConfig mode
          rewriter := rewriterOf service settings provider
          trace := trace }
        events
    return printedLines result.summary
  | .template path => do
    let flow ← attempt (loadFlow path)
    return (InputTables.ofSteps flow.steps).text ++ "\n"
  | .plan path data mode => do
    let flow ← attempt (loadFlow path)
    let config := settings.replayConfig mode
    let overrides ←
      liftM (n := ExceptT CommandError m) (loadOverrides (dataPath path config data) : m Overrides)
    return (Plan.build flow overrides config).report
  | .script path output mode => do
    let flow ← attempt (loadFlow path)
    let script := flow.script (settings.replayConfig mode)
    match output with
    | none => return script
    | some output =>
      ExceptT.mk do
        match ← FileSystem.writeText output script with
        | .ok () => return .ok ""
        | .error e => return .error (.file e)

end Command

end BrowserFlow
