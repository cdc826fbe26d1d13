import BrowserFlow.Flow.Codec
import BrowserFlow.Replay.Config
import BrowserFlow.Replay.Template
import BrowserFlow.Text.Split

/-!
Scripts that replay a flow.
-/

namespace BrowserFlow

open Json (Value)

/-- A step as a script holds it: with its locators spelled out. -/
def Step.scriptJson (step : Step) : Value :=
  .object
    ([("id", .string step.id), ("type", .string step.type.tag),
      ("selectors", step.selectors.toJson),
      ("locators", .array (step.selectors.candidates.map Locator.toJson))] ++
      step.conditionFields)

def Flow.scriptSteps (flow : Flow) : Value := .array (flow.steps.map Step.scriptJson)

namespace Script

/-- A mark in the template and the text that takes its place. -/
structure Slot where
  mark : String
  text : String
deriving DecidableEq, Repr

def slots (flow : Flow) (config : ReplayConfig) : List Slot :=
  [⟨"\x7b\x7bFLOW_NAME\x7d\x7d", Json.quote flow.name⟩,
    ⟨"\x7b\x7bSTEP_DELAY_MS\x7d\x7d", toString config.stepDelayMs⟩,
    ⟨"\x7b\x7bLOCATOR_TIMEOUT_MS\x7d\x7d", toString config.locatorTimeoutMs⟩,
    ⟨"\x7b\x7bPRECONDITION_MODE\x7d\x7d", Json.quote config.preconditionMode.tag⟩,
    ⟨"\x7b\x7bDATA_FILE\x7d\x7d", Json.quote ("./" ++ config.dataFile)⟩,
    ⟨"\x7b\x7bSTEPS\x7d\x7d", flow.scriptSteps.pretty⟩]

def fill (text : List Char) (slot : Slot) : List Char :=
  Text.replaceAll slot.mark.toList slot.text.toList text

end Script

/-- The slots are filled one after the other. -/
def Flow.script (flow : Flow) (config : ReplayConfig) : String :=
  String.ofList ((Script.slots flow config).foldl Script.fill Script.template.toList)

end BrowserFlow
