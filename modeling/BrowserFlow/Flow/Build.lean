import BrowserFlow.Compile.Error
import BrowserFlow.Flow.Codec
import BrowserFlow.Segment.Segmenter
import BrowserFlow.Url.Basic

/-!
Flows made of events.
-/

namespace BrowserFlow.Flow

def defaultName : String := "workflow"

/-- A flow is named for the host that its first event was seen on. -/
def nameOf (events : List Event) : Except CompileError String :=
  match events.head?.bind Event.pageUrl? with
  | none => .ok defaultName
  | some url => (Url.host url).mapError (CompileError.url url)

def build (config : SegmentConfig) (events : List Event) : Except CompileError Flow := do
  return { name := ← nameOf events, steps := segment config events }

/-- Reads the text of a flow. -/
def read (text : String) : Except CompileError Flow :=
  (ofText text).mapError (CompileError.json "flow")

end BrowserFlow.Flow
