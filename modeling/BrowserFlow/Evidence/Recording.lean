import BrowserFlow.Evidence.Event

/-!
Recordings: events are taken in only between a start and the next stop.
-/

namespace BrowserFlow

inductive RecordingPhase where
  | idle
  | recording
  | stopped
deriving DecidableEq, Repr, Inhabited

def RecordingPhase.tag : RecordingPhase → String
  | idle => "idle"
  | recording => "recording"
  | stopped => "stopped"

structure Recording where
  phase : RecordingPhase
  events : List Event
deriving DecidableEq, Repr, Inhabited

/-- What is reported of a recording. -/
structure RecordingStatus where
  isRecording : Bool
  count : Nat
deriving DecidableEq, Repr

namespace Recording

def new : Recording := ⟨.idle, []⟩

def start (r : Recording) : Recording := { r with phase := .recording }

/-- Stops a running recording; the events are kept. -/
def stop (r : Recording) : Recording :=
  if r.phase = .recording then { r with phase := .stopped } else r

/-- Forgets the events; the phase stays. -/
def clear (r : Recording) : Recording := { r with events := [] }

def accepts (r : Recording) : Bool := r.phase == .recording

def record (r : Recording) (event : Event) : Recording :=
  if r.accepts then { r with events := r.events ++ [event] } else r

def status (r : Recording) : RecordingStatus := ⟨r.phase == .recording, r.events.length⟩

end Recording

end BrowserFlow
