import BrowserFlow.Json.Value
import BrowserFlow.Locator.Expression
import BrowserFlow.Table

/-!
Flows: named sequences of steps that a script can replay.
-/

namespace BrowserFlow

inductive StepType where
  | navigate
  | click
  | input
  | change
  | keydown
  | submit
  | focus
  | login
  | fillForm
  | clickSlot
  | dismissPopup
  | other (tag : String)
deriving DecidableEq, Repr, Inhabited

namespace StepType

def tag : StepType → String
  | navigate => "NAVIGATE"
  | click => "CLICK"
  | input => "INPUT"
  | change => "CHANGE"
  | keydown => "KEYDOWN"
  | submit => "SUBMIT"
  | focus => "FOCUS"
  | login => "LOGIN"
  | fillForm => "FILL_FORM"
  | clickSlot => "CLICK_SLOT"
  | dismissPopup => "DISMISS_POPUP"
  | other t => t

def known : List StepType :=
  [navigate, click, input, change, keydown, submit, focus, login, fillForm, clickSlot, dismissPopup]

def ofTag (t : String) : StepType :=
  (known.find? fun type => type.tag = t).getD (other t)

def isKnown : StepType → Bool
  | other _ => false
  | _ => true

/-- The types whose steps carry an input value. -/
def isTextEntry : StepType → Bool
  | input | change => true
  | _ => false

end StepType

/-- The value of a parameter. -/
inductive Scalar where
  | bool (b : Bool)
  | number (n : Json.Number)
  | text (s : String)
deriving DecidableEq, Repr, Inhabited

namespace Scalar

/-- Equal as values: the two real zeros are equal. -/
def same : Scalar → Scalar → Bool
  | bool a, bool b => a == b
  | number m, number n => m.sameValue n
  | text s, text t => s == t
  | _, _ => false

def display : Scalar → String
  | bool b => toString b
  | number n => String.ofList n.text
  | text s => s

end Scalar

/-- Candidate locators for one element, the first to be tried and the others in order. -/
structure Bundle where
  primary : Locator
  fallbacks : List Locator
deriving DecidableEq, Repr, Inhabited

namespace Bundle

def page : Bundle := ⟨.page, []⟩

def candidates (b : Bundle) : List Locator := b.primary :: b.fallbacks

def isPage (b : Bundle) : Bool := b.primary.isPage && b.fallbacks.isEmpty

/-- Drops locators whose expression occurs earlier. -/
def distinct (seen : List String) : List Locator → List Locator
  | [] => []
  | l :: rest =>
    if l.expression ∈ seen then distinct seen rest
    else l :: distinct (l.expression :: seen) rest

/-- The first of several candidates with one expression is kept; no candidate means the page. -/
def ofCandidates (candidates : List Locator) : Bundle :=
  match distinct [] candidates with
  | [] => page
  | primary :: fallbacks => ⟨primary, fallbacks⟩

/-- The keys of the candidates that have one, in order. -/
def keys (b : Bundle) : List Key := b.candidates.filterMap Locator.key?

end Bundle

/-- What holds before a step runs. -/
structure Precondition where
  urlMatches : Option String
deriving DecidableEq, Repr, Inhabited

/-- What holds after a step has run. -/
structure Effect where
  urlMatches : Option String
  elementVisible : Option String
deriving DecidableEq, Repr, Inhabited

abbrev Params := Table Scalar

structure Step where
  id : String
  type : StepType
  selectors : Bundle
  precondition : Option Precondition
  effect : Option Effect
  params : Option Params
deriving DecidableEq, Repr, Inhabited

namespace Step

def param? (step : Step) (name : String) : Option Scalar :=
  step.params.bind (·.get? name)

def preconditionUrl? (step : Step) : Option String :=
  step.precondition.bind (·.urlMatches)

def keys (step : Step) : List Key := step.selectors.keys

end Step

/-- Optional values, equal when both are missing or both are there and the same. -/
def sameOption (same : α → α → Bool) : Option α → Option α → Bool
  | none, none => true
  | some a, some b => same a b
  | _, _ => false

def sameList (same : α → α → Bool) : List α → List α → Bool
  | [], [] => true
  | a :: as, b :: bs => same a b && sameList same as bs
  | _, _ => false

/-- Parameters are compared by name. -/
def Step.same (first second : Step) : Bool :=
  first.id == second.id && first.type == second.type && first.selectors == second.selectors &&
    first.precondition == second.precondition && first.effect == second.effect &&
    sameOption (Table.sameEntries Scalar.same) first.params second.params

structure Flow where
  name : String
  steps : List Step
deriving DecidableEq, Repr, Inhabited

def Flow.same (first second : Flow) : Bool :=
  first.name == second.name && sameList Step.same first.steps second.steps

end BrowserFlow
