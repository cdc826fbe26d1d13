import BrowserFlow.Replay.Plan
import BrowserFlow.Text.Shown

/-!
Plans written out for a reader.
-/

namespace BrowserFlow

/-- Fills up with blanks to a width counted in characters. -/
def padRight (width : Nat) (s : String) : String :=
  s ++ String.ofList (List.replicate (width - s.length) ' ')

def Action.report : Action → String
  | click => "click"
  | fillOrSelect value => "fill " ++ Text.shown value
  | press key => "press " ++ key
  | clickThenEnter => "click + Enter"
  | awaitEffects => "await effects"

def typeWidth : Nat := 13

/-- A line for the step, and below it one for each thing it waits for and each candidate. -/
def PlannedStep.reportLines (p : PlannedStep) : List String :=
  [("[" ++ p.stepId ++ "] " ++ padRight typeWidth p.type.tag ++ " " ++ p.action.report ++
      if p.overridden then " (override)" else "")] ++
    p.urlBefore.toList.map ("    requires url " ++ ·) ++
    p.candidates.map (fun l => "    -> " ++ l.expression) ++
    p.visibleAfter.toList.map ("    then wait visible " ++ ·) ++
    p.urlAfter.toList.map ("    then wait url " ++ ·)

def Plan.reportLines (plan : Plan) : List String :=
  ["=== Replay Plan: " ++ plan.flowName ++ " ===",
    "Start: " ++ plan.startUrl.getD "current page" ++ " (precondition mode: " ++
      plan.preconditionMode.tag ++ ")",
    ""] ++
    plan.steps.flatMap PlannedStep.reportLines ++
    (if plan.skipped.isEmpty then [] else ["", "Skipped: " ++ ", ".intercalate plan.skipped]) ++
    ["=== " ++ toString plan.steps.length ++ " steps to run, " ++ toString plan.skipped.length ++
      " skipped (locator timeout " ++ toString plan.locatorTimeoutMs ++ "ms, step delay " ++
      toString plan.stepDelayMs ++ "ms) ==="]

def Plan.report (plan : Plan) : String :=
  String.join (plan.reportLines.map (· ++ "\n"))

end BrowserFlow
