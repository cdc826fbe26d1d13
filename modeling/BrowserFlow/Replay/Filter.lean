import BrowserFlow.Flow.Step

/-!
The steps of a flow that are not worth replaying.
-/

namespace BrowserFlow

/-- Focusing an element that the next step clicks anyway. -/
def Step.isIdleFocus (step : Step) (next : Option Step) : Bool :=
  step.type == .focus &&
    next.any fun next =>
      (next.type == .click || next.type == .login) && next.selectors == step.selectors

/-- Submitting after a click on the same element or on the same page. -/
def Step.isIdleSubmit (step : Step) (previous : Option Step) : Bool :=
  step.type == .submit &&
    previous.any fun previous =>
      previous.type == .click &&
        (previous.selectors == step.selectors ||
          previous.preconditionUrl? == step.preconditionUrl?)

def Step.isReplayed (previous : Option Step) (step : Step) (next : Option Step) : Bool :=
  !step.isIdleFocus next && !step.isIdleSubmit previous

/-- `previous` is the step before the first of these, kept or not. -/
def replayedFrom (previous : Option Step) : List Step → List Step
  | [] => []
  | step :: rest =>
    if step.isReplayed previous rest.head? then step :: replayedFrom (some step) rest
    else replayedFrom (some step) rest

def replayed (steps : List Step) : List Step := replayedFrom none steps

end BrowserFlow
