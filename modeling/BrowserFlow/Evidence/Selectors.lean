import BrowserFlow.Evidence.Event
import BrowserFlow.Flow.Step

/-!
The locators that the evidence of an event offers for its target.
-/

namespace BrowserFlow.Event

def roleLocator? (event : Event) (target : Target) : Option Locator := do
  return .role (← target.role?) (← event.accessibleName?)

/-- The locators that can be built, the most robust first: test attributes, role with accessible
name, label, placeholder, id, name, text, path in the style sheet language, and XPath. -/
def candidates (event : Event) (target : Target) : List Locator :=
  [(target.dataAttribute? "data-testid").map .testId,
    (target.dataAttribute? "data-test").map .dataTest,
    (target.dataAttribute? "data-cy").map .dataCy,
    event.roleLocator? target,
    event.firstLabel?.map .label,
    (observed target.placeholder).map .placeholder,
    (observed target.id).map .id,
    (observed target.name).map .name,
    (observed target.innerText).map .text,
    (observed target.cssPath).map .ofPath,
    (observed target.xpath).map .xpath].reduceOption

/-- An event without a target concerns the page. -/
def selectors (event : Event) : Bundle :=
  match event.target with
  | none => .page
  | some target => .ofCandidates (event.candidates target)

end BrowserFlow.Event
