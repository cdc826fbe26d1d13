import BrowserFlow.Digest.Sha1
import BrowserFlow.Flow.Step
import BrowserFlow.Json.Reader
import BrowserFlow.Locator.Parse

/-!
The JSON form of flows.
-/

namespace BrowserFlow

open Json (Reader Source Value)

def Scalar.toJson : Scalar → Value
  | .bool b => .bool b
  | .number n => .number n
  | .text s => .string s

def Scalar.ofJson : Value → Scalar
  | .bool b => .bool b
  | .number n => .number n
  | v => .text v.getString

def Params.toJson (params : Params) : Value :=
  .object (params.entries.map fun (name, value) => (name, value.toJson))

def Params.ofJson (v : Value) : Params :=
  Table.ofEntries (v.getFields.map fun (name, value) => (name, Scalar.ofJson value))

/-- The name of the choice between the three kinds of scalar, as messages call it. -/
def Scalar.reader (depth : Nat) : Reader := Reader.scalar "ParamValue" depth

def Params.reader (depth : Nat) : Reader := Reader.table (Scalar.reader depth)

/-- A field that is written only when it is there. -/
def presentField (name : String) (value : Option Value) : List (String × Value) :=
  (value.map fun v => (name, v)).toList

namespace Bundle

def toJson (b : Bundle) : Value :=
  .object
    [("primary", .string b.primary.expression),
      ("fallbacks", .array (b.fallbacks.map fun l => .string l.expression))]

def reader (source : Source) : Reader :=
  Reader.record source "struct SelectorBundle"
    [Reader.required "primary" Reader.string,
      Reader.defaulted "fallbacks" (.array []) (Reader.list Reader.string)]

/-- Repeated candidates are kept. -/
def ofJson (v : Value) : Bundle :=
  { primary := .ofExpression (v.field "primary").getString
    fallbacks := (v.field "fallbacks").getStrings.map .ofExpression }

end Bundle

namespace Precondition

def toJson (p : Precondition) : Value :=
  .object (presentField "urlMatches" (p.urlMatches.map .string))

def reader (source : Source) : Reader :=
  Reader.record source "struct StepPrecondition" [Reader.omittable "urlMatches" Reader.string]

def ofJson (v : Value) : Precondition := ⟨(v.field "urlMatches").getString?⟩

end Precondition

namespace Effect

def toJson (e : Effect) : Value :=
  .object
    (presentField "urlMatches" (e.urlMatches.map .string) ++
      presentField "elementVisible" (e.elementVisible.map .string))

def reader (source : Source) : Reader :=
  Reader.record source "struct StepEffect"
    [Reader.omittable "urlMatches" Reader.string, Reader.omittable "elementVisible" Reader.string]

def ofJson (v : Value) : Effect :=
  ⟨(v.field "urlMatches").getString?, (v.field "elementVisible").getString?⟩

end Effect

namespace Step

/-- The fields after the locators. -/
def conditionFields (step : Step) : List (String × Value) :=
  presentField "preconditions" (step.precondition.map Precondition.toJson) ++
    presentField "effects" (step.effect.map Effect.toJson) ++
    presentField "params" (step.params.map Params.toJson)

def toJson (step : Step) : Value :=
  .object
    ([("id", .string step.id), ("type", .string step.type.tag),
      ("selectors", step.selectors.toJson)] ++ step.conditionFields)

/-- The containers open around a parameter value: flow, list of steps, step and parameters. -/
def paramDepth : Nat := 4

def reader (source : Source) : Reader :=
  Reader.record source "struct Step"
    [Reader.required "id" Reader.string,
      Reader.required "type" Reader.string,
      Reader.required "selectors" (Bundle.reader source),
      Reader.omittable "preconditions" (Precondition.reader source),
      Reader.omittable "effects" (Effect.reader source),
      Reader.omittable "params" (Params.reader (Json.maxDepth - paramDepth))]

def ofJson (v : Value) : Step :=
  { id := (v.field "id").getString
    type := .ofTag (v.field "type").getString
    selectors := .ofJson (v.field "selectors")
    precondition := (v.field "preconditions").get? .ofJson
    effect := (v.field "effects").get? .ofJson
    params := (v.field "params").get? Params.ofJson }

end Step

namespace Flow

def toJson (flow : Flow) : Value :=
  .object [("name", .string flow.name), ("steps", .array (flow.steps.map Step.toJson))]

def reader (source : Source) : Reader :=
  Reader.record source "struct Flow"
    [Reader.required "name" Reader.string,
      Reader.required "steps" (Reader.list (Step.reader source))]

def ofJson (v : Value) : Flow :=
  { name := (v.field "name").getString
    steps := (v.field "steps").getItems.map .ofJson }

/-- The text in which a flow is stored. -/
def text (flow : Flow) : String := flow.toJson.pretty

def digest (flow : Flow) : String := Sha1.hexDigest flow.text

def ofText (text : String) : Except Json.ReadError Flow := do
  return ofJson (← (reader .text).run text)

end Flow

end BrowserFlow
