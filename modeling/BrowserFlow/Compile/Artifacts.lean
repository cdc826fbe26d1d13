import BrowserFlow.Flow.Build
import BrowserFlow.Flow.Inputs
import BrowserFlow.Replay.Script
import BrowserFlow.Rewrite.Service

/-!
Compilation: from a file of events to the files a replay needs.
-/

namespace BrowserFlow

/-- An action on files that may fail. -/
abbrev Attempt (m : Type → Type) := ExceptT CompileError m

structure CompileOptions where
  outDirectory : String
  segment : SegmentConfig
  replay : ReplayConfig
  rewriter : Rewrite.Rewriter
  /-- The file to which a trace is appended. -/
  trace : Option String

structure Compiled where
  events : List Event
  flow : Flow
  digest : String
  outDirectory : String
  rewritten : Bool
  rewriteFailure : Option Rewrite.Error
deriving DecidableEq, Repr

def eventsFile : String := "events.json"
def flowFile : String := "flow.json"
def scriptFile : String := "run.ts"
def rewrittenScriptFile : String := "llm-run.ts"

structure Artifact where
  name : String
  text : String
deriving DecidableEq, Repr

/-- The files that every compilation writes, in this order. -/
def artifacts (config : ReplayConfig) (events : List Event) (flow : Flow) : List Artifact :=
  [⟨eventsFile, Event.listText events⟩,
    ⟨flowFile, flow.text⟩,
    ⟨scriptFile, flow.script config⟩,
    ⟨config.dataFile, (InputTables.ofSteps flow.steps).text⟩]

namespace Attempt

variable {m : Type → Type} [Monad m] [FileSystem m]

def ofFile (path : String) (action : m (Except FileError α)) : Attempt m α :=
  ExceptT.mk do return (← action).mapError (CompileError.file path)

def readText (path : String) : Attempt m String := ofFile path (FileSystem.readText path)

def writeArtifact (directory : String) (artifact : Artifact) : Attempt m Unit :=
  let path := Path.join directory artifact.name
  ofFile path (FileSystem.writeText path artifact.text)

def makeDirectory (path : String) : Attempt m Unit :=
  ofFile path (FileSystem.makeAllDirectories path)

def ofExcept (result : Except CompileError α) : Attempt m α := ExceptT.mk (pure result)

end Attempt

section

variable {m : Type → Type} [Monad m] [FileSystem m]

def loadEvents (path : String) : Attempt m (List Event) := do
  Attempt.ofExcept (readEvents path (← Attempt.readText path))

def loadFlow (path : String) : Attempt m Flow := do
  Attempt.ofExcept (Flow.read (← Attempt.readText path))

/-- A file that is missing or cannot be read overrides nothing. -/
def loadOverrides (path : String) : m Overrides := do
  match ← FileSystem.readText path with
  | .ok text => return .ofText text
  | .error _ => return .none

/-- Opens the trace; without its file there is no trace. -/
def openTrace (path : Option String) : m (Option String) := do
  match path with
  | none => return none
  | some path =>
    match ← FileSystem.openForAppend path with
    | .ok () => return some path
    | .error _ => return none

/-- Appends the records one by one. A record that cannot be written is dropped. -/
def writeTrace (trace : Option String) (records : List TraceRecord) : m Unit :=
  match trace with
  | none => return ()
  | some path =>
    records.forM fun record => do
      let _ ← FileSystem.appendText path (record.line (← FileSystem.clock))

/-- Only a script that the service gives is written. -/
def writeRewritten (directory : String) (outcome : Rewrite.Outcome) : Attempt m Unit :=
  match outcome with
  | .ok (some script) => Attempt.writeArtifact directory ⟨rewrittenScriptFile, script⟩
  | _ => return ()

/-- The trace is written once the flow has a name, and nothing else before all is computed. A
service that fails does not stop the compilation. -/
def compile (options : CompileOptions) (eventsPath : String) : Attempt m Compiled := do
  let events ← loadEvents eventsPath
  let flow ← Attempt.ofExcept (Flow.build options.segment events)
  liftM (n := Attempt m) (writeTrace options.trace (trace options.segment events) : m Unit)
  Attempt.makeDirectory options.outDirectory
  (artifacts options.replay events flow).forM (Attempt.writeArtifact options.outDirectory)
  let outcome := options.rewriter flow (flow.script options.replay)
  writeRewritten options.outDirectory outcome
  return { events := events
           flow := flow
           digest := flow.digest
           outDirectory := options.outDirectory
           rewritten := outcome matches .ok (some _)
           rewriteFailure := match outcome with | .error e => some e | .ok _ => none }

end

def rewriteFailureMessage (e : Rewrite.Error) : String := "Script rewrite failed: " ++ e.message

end BrowserFlow
