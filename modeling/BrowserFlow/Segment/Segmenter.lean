import BrowserFlow.Segment.Click
import BrowserFlow.Segment.Decision
import BrowserFlow.Segment.Window

/-!
Segmentation: one pass over the events that turns them into steps.
-/

namespace BrowserFlow

structure SegmentConfig where
  classify : Bool
  windowSize : Nat
deriving DecidableEq, Repr, Inhabited

def SegmentConfig.standard : SegmentConfig := ⟨true, 10⟩

namespace Event

/-- The type of the step for an event, apart from what the window adds. -/
def baseType (config : SegmentConfig) (event : Event) : StepType :=
  match event.type with
  | .click => if config.classify then event.clickType else .click
  | .input => .input
  | .change => .change
  | .keydown => .keydown
  | .submit => .submit
  | .navigate => .navigate
  | .focus => .focus

def params? (event : Event) : Option Params :=
  match event.type with
  | .input | .change => some (Table.single "value" (.text event.enteredText))
  | .keydown => some (Table.single "key" (.text "Enter"))
  | _ => none

/-- The step for an event. A navigation concerns the page and leads to its URL. -/
def toStep (event : Event) (number : Nat) (type : StepType) : Step :=
  { id := "step-" ++ toString number
    type := type
    selectors := if event.type = .navigate then .page else event.selectors
    precondition := event.pageUrl?.map fun url => ⟨some url⟩
    effect :=
      if event.type = .navigate then event.pageUrl?.map fun url => ⟨some url, none⟩ else none
    params := event.params? }

end Event

/-- What has been held back: the latest text entry of each field, the field touched last at the
end. `emitted` counts the steps so far. -/
structure Segmenter where
  pending : List (String × Event)
  window : InputWindow
  emitted : Nat
deriving DecidableEq, Repr

namespace Segmenter

def start (config : SegmentConfig) : Segmenter := ⟨[], .ofSize config.windowSize, 0⟩

def flushEntries (index : Nat) : Nat → List (String × Event) → List Decision
  | _, [] => []
  | emitted, (key, event) :: rest =>
    .flushed index event key (event.toStep (emitted + 1) .input) ::
      flushEntries index (emitted + 1) rest

/-- Turns everything held back into steps. -/
def flush (s : Segmenter) (index : Nat) : Segmenter × List Decision :=
  ({ s with pending := [], emitted := s.emitted + s.pending.length },
    flushEntries index s.emitted s.pending)

def without (key : String) (pending : List (String × Event)) : List (String × Event) :=
  pending.filter (·.1 ≠ key)

/-- Holds a text entry back, in place of an earlier one of its field. -/
def buffer (s : Segmenter) (key : String) (event : Event) : Segmenter :=
  { s with pending := without key s.pending ++ [(key, event)] }

def supersede (s : Segmenter) (index : Nat) (key : String) (event : Event) :
    Segmenter × List Decision :=
  if s.pending.any (·.1 = key) then
    ({ s with pending := without key s.pending }, [.superseded index event key])
  else (s, [])

def emit (s : Segmenter) (index : Nat) (event : Event) (type : StepType) :
    Segmenter × List Decision :=
  ({ s with emitted := s.emitted + 1 }, [.emitted index event (event.toStep (s.emitted + 1) type)])

/-- Notes a text entry with a field in the window. -/
def observe (s : Segmenter) (event : Event) : Segmenter :=
  match event.fieldKey? with
  | some key =>
    if event.type.isTextEntry then { s with window := s.window.push ⟨key, event.isPassword⟩ } else s
  | none => s

def terminalType (config : SegmentConfig) (s : Segmenter) (base : StepType) : StepType :=
  if config.classify then s.window.terminalType base else base

/-- The effect of one event. -/
def advance (config : SegmentConfig) (s : Segmenter) (index : Nat) (event : Event) :
    Segmenter × List Decision :=
  let s := s.observe event
  match event.type with
  | .input =>
    match event.fieldKey? with
    | some key => (s.buffer key event, [.buffered index event key])
    | none => (s, [])
  | .change =>
    let (s, dropped) :=
      match event.fieldKey? with
      | some key => s.supersede index key event
      | none => (s, [])
    let (s, step) := s.emit index event (event.baseType config)
    (s, dropped ++ step)
  | .submit | .keydown =>
    let type := s.terminalType config (event.baseType config)
    let (s, flushed) := s.flush index
    let (s, step) := { s with window := s.window.clear }.emit index event type
    (s, flushed ++ step)
  | .click | .navigate | .focus =>
    let (s, flushed) := s.flush index
    let (s, step) := s.emit index event (event.baseType config)
    (s, flushed ++ step)

def run (config : SegmentConfig) : Segmenter → Nat → List Event → List Decision
  | s, index, [] => (s.flush index).2
  | s, index, event :: events =>
    let (s, decisions) := s.advance config index event
    decisions ++ run config s (index + 1) events

end Segmenter

/-- All decisions for a list of events, in order. -/
def decisions (config : SegmentConfig) (events : List Event) : List Decision :=
  (Segmenter.start config).run config 0 events

/-- The steps for a list of events. -/
def segment (config : SegmentConfig) (events : List Event) : List Step :=
  (decisions config events).filterMap Decision.step?

def trace (config : SegmentConfig) (events : List Event) : List TraceRecord :=
  (decisions config events).map Decision.record

end BrowserFlow
