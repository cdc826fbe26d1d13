import BrowserFlow.Evidence.Selectors
import BrowserFlow.Flow.Step

/-!
The decisions made while events are turned into steps, and how a trace records them.
-/

namespace BrowserFlow

/-- A text entry is held back until its field is done with; every other event becomes a step at
once. `index` is the position of the event that made the decision fall. -/
inductive Decision where
  | buffered (index : Nat) (event : Event) (fieldKey : String)
  | superseded (index : Nat) (event : Event) (fieldKey : String)
  | flushed (index : Nat) (event : Event) (fieldKey : String) (step : Step)
  | emitted (index : Nat) (event : Event) (step : Step)
deriving DecidableEq, Repr

structure TraceRecord where
  index : Nat
  eventType : EventType
  fieldKey : Option String
  decision : String
  stepId : Option String
  stepType : Option StepType
deriving DecidableEq, Repr

namespace Decision

def step? : Decision → Option Step
  | buffered .. | superseded .. => none
  | flushed _ _ _ step | emitted _ _ step => some step

def record : Decision → TraceRecord
  | buffered index event key => ⟨index, event.type, some key, "buffered", none, none⟩
  | superseded index event key => ⟨index, event.type, some key, "superseded", none, none⟩
  | flushed index event key step =>
    ⟨index, event.type, some key, "flushed", some step.id, some step.type⟩
  | emitted index event step =>
    ⟨index, event.type, none, "emitted", some step.id, some step.type⟩

end Decision

open Json (Value)

/-- The fields of a record, without the time at which it was written. -/
def TraceRecord.fields (r : TraceRecord) : List (String × Value) :=
  [("event_index", .nat r.index), ("event_type", .string r.eventType.tag),
    ("field_key", .optional r.fieldKey), ("decision", .string r.decision),
    ("step_id", .optional r.stepId), ("step_type", .optional (r.stepType.map StepType.tag))]

/-- One line of a trace. -/
def TraceRecord.line (timestamp : Nat) (r : TraceRecord) : String :=
  (Value.object (("timestamp_ms", .nat timestamp) :: r.fields)).compact ++ "\n"

end BrowserFlow
