import BrowserFlow.Flow.Step

/-!
What a script does with the element of a step.
-/

namespace BrowserFlow

inductive Action where
  | click
  | fillOrSelect (value : String)
  | press (key : String)
  | clickThenEnter
  | awaitEffects
deriving DecidableEq, Repr, Inhabited

namespace Action

/-- A step of a foreign type is clicked. -/
def ofType (type : StepType) (value key : Option String) : Action :=
  match type with
  | .navigate => awaitEffects
  | .input | .change => fillOrSelect (value.getD "")
  | .keydown => press (key.getD "Enter")
  | .submit | .login | .fillForm => clickThenEnter
  | .click | .clickSlot | .dismissPopup | .focus | .other _ => click

def ofStep (step : Step) : Action :=
  ofType step.type ((step.param? "value").map Scalar.display)
    ((step.param? "key").map Scalar.display)

def needsElement (action : Action) : Bool := action ≠ awaitEffects

def toJson : Action → Json.Value
  | click => .object [("action", .string "click")]
  | fillOrSelect value => .object [("action", .string "fill_or_select"), ("value", .string value)]
  | press key => .object [("action", .string "press"), ("key", .string key)]
  | clickThenEnter => .object [("action", .string "click_then_enter")]
  | awaitEffects => .object [("action", .string "await_effects")]

end Action

end BrowserFlow
