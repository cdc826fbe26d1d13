import BrowserFlow.Flow.Inputs
import BrowserFlow.Replay.Action
import BrowserFlow.Replay.Config
import BrowserFlow.Replay.Filter

/-!
Plans: what a replay of a flow would do.
-/

namespace BrowserFlow

open Json (Value)

structure PlannedStep where
  stepId : String
  type : StepType
  action : Action
  candidates : List Locator
  urlBefore : Option String
  visibleAfter : Option String
  urlAfter : Option String
  overridden : Bool
deriving DecidableEq, Repr

structure Plan where
  flowName : String
  startUrl : Option String
  preconditionMode : PreconditionMode
  steps : List PlannedStep
  skipped : List String
  stepDelayMs : Nat
  locatorTimeoutMs : Nat
deriving DecidableEq, Repr

namespace PlannedStep

/-- Whether the step differs in its value from the first step of the flow with its id. -/
def isOverridden (flow : Flow) (step : Step) : Bool :=
  (flow.steps.find? (·.id = step.id)).any fun first =>
    !sameOption Scalar.same (first.param? "value") (step.param? "value")

def ofStep (flow : Flow) (config : ReplayConfig) (step : Step) : PlannedStep :=
  let action := Action.ofStep step
  { stepId := step.id
    type := step.type
    action := action
    candidates := if action.needsElement then step.selectors.candidates else []
    urlBefore :=
      match config.preconditionMode with
      | .perStep => step.preconditionUrl?
      | .startOnly => none
    visibleAfter := step.effect.bind (·.elementVisible)
    urlAfter := step.effect.bind (·.urlMatches)
    overridden := isOverridden flow step }

def toJson (p : PlannedStep) : Value :=
  .object
    [("step_id", .string p.stepId), ("step_type", .string p.type.tag),
      ("action", p.action.toJson),
      ("candidates", .strings (p.candidates.map Locator.expression)),
      ("wait_for_url_before", .optional p.urlBefore),
      ("wait_for_visible_after", .optional p.visibleAfter),
      ("wait_for_url_after", .optional p.urlAfter), ("overridden", .bool p.overridden)]

end PlannedStep

namespace Plan

/-- Overrides are merged in first; a step is skipped when no replayed step has its id. -/
def build (flow : Flow) (overrides : Overrides) (config : ReplayConfig) : Plan :=
  let merged := overrides.apply flow.steps
  let kept := replayed merged
  { flowName := flow.name
    startUrl := kept.head?.bind (·.preconditionUrl?)
    preconditionMode := config.preconditionMode
    steps := kept.map (PlannedStep.ofStep flow config)
    skipped := (merged.map (·.id)).filter fun id => !(kept.map (·.id)).contains id
    stepDelayMs := config.stepDelayMs
    locatorTimeoutMs := config.locatorTimeoutMs }

def toJson (plan : Plan) : Value :=
  .object
    [("flow_name", .string plan.flowName), ("start_url", .optional plan.startUrl),
      ("precondition_mode", .string plan.preconditionMode.tag),
      ("steps", .array (plan.steps.map PlannedStep.toJson)),
      ("skipped", .strings plan.skipped), ("step_delay_ms", .nat plan.stepDelayMs),
      ("locator_timeout_ms", .nat plan.locatorTimeoutMs)]

end Plan

end BrowserFlow
