import BrowserFlow.Evidence.Event
import BrowserFlow.Json.Reader

/-!
The JSON form of evidence.
-/

namespace BrowserFlow

open Json (Reader Source Value)

namespace EventType

def reader (source : Source) : Reader := Reader.variant source (all.map tag)

def ofJson (v : Value) : EventType := (ofTag? v.getString).getD .click

end EventType

namespace Rect

def toJson (r : Rect) : Value :=
  let real (x : Json.Double) : Value := .number (.real x)
  .object [("x", real r.x), ("y", real r.y), ("width", real r.width), ("height", real r.height)]

def reader (source : Source) : Reader :=
  Reader.record source "struct BoundingRect"
    (["x", "y", "width", "height"].map fun name => Reader.required name Reader.real)

def ofJson (v : Value) : Rect :=
  { x := (v.field "x").getReal
    y := (v.field "y").getReal
    width := (v.field "width").getReal
    height := (v.field "height").getReal }

end Rect

namespace Attributes

def toJson (attributes : Attributes) : Value :=
  .object (attributes.entries.map fun (name, value) => (name, .string value))

def ofJson (v : Value) : Attributes :=
  ofEntries (v.getFields.map fun (name, value) => (name, value.getString))

end Attributes

namespace Target

def toJson (t : Target) : Value :=
  .object
    [("tagName", .optional t.tagName), ("inputType", .optional t.inputType),
      ("id", .optional t.id), ("name", .optional t.name), ("classList", .strings t.classes),
      ("dataAttributes", t.dataAttributes.toJson), ("ariaLabel", .optional t.ariaLabel),
      ("ariaLabelledby", .optional t.ariaLabelledBy), ("role", .optional t.role),
      ("placeholder", .optional t.placeholder), ("title", .optional t.title),
      ("innerText", .optional t.innerText), ("value", .optional t.value),
      ("boundingClientRect", (t.bounds.map Rect.toJson).getD .null),
      ("cssPath", .optional t.cssPath), ("xpath", .optional t.xpath)]

def reader (source : Source) : Reader :=
  Reader.record source "struct TargetFingerprint"
    [Reader.nullable "tagName" Reader.string,
      Reader.nullable "inputType" Reader.string,
      Reader.nullable "id" Reader.string,
      Reader.nullable "name" Reader.string,
      Reader.defaulted "classList" (.array []) (Reader.list Reader.string),
      Reader.defaulted "dataAttributes" (.object []) (Reader.table Reader.string),
      Reader.nullable "ariaLabel" Reader.string,
      Reader.nullable "ariaLabelledby" Reader.string,
      Reader.nullable "role" Reader.string,
      Reader.nullable "placeholder" Reader.string,
      Reader.nullable "title" Reader.string,
      Reader.nullable "innerText" Reader.string,
      Reader.nullable "value" Reader.string,
      Reader.nullable "boundingClientRect" (Rect.reader source),
      Reader.nullable "cssPath" Reader.string,
      Reader.nullable "xpath" Reader.string]

def ofJson (v : Value) : Target :=
  let text (name : String) := (v.field name).getString?
  { tagName := text "tagName"
    inputType := text "inputType"
    id := text "id"
    name := text "name"
    classes := (v.field "classList").getStrings
    dataAttributes := .ofJson (v.field "dataAttributes")
    ariaLabel := text "ariaLabel"
    ariaLabelledBy := text "ariaLabelledby"
    role := text "role"
    placeholder := text "placeholder"
    title := text "title"
    innerText := text "innerText"
    value := text "value"
    bounds := (v.field "boundingClientRect").get? .ofJson
    cssPath := text "cssPath"
    xpath := text "xpath" }

end Target

namespace Parent

def toJson (p : Parent) : Value :=
  .object
    [("tagName", .string p.tagName), ("id", .optional p.id), ("name", .optional p.name),
      ("classList", .strings p.classes), ("role", .optional p.role),
      ("textSnippet", .optional p.textSnippet)]

def reader (source : Source) : Reader :=
  Reader.record source "struct ParentSnapshot"
    [Reader.required "tagName" Reader.string,
      Reader.nullable "id" Reader.string,
      Reader.nullable "name" Reader.string,
      Reader.defaulted "classList" (.array []) (Reader.list Reader.string),
      Reader.nullable "role" Reader.string,
      Reader.nullable "textSnippet" Reader.string]

def ofJson (v : Value) : Parent :=
  { tagName := (v.field "tagName").getString
    id := (v.field "id").getString?
    name := (v.field "name").getString?
    classes := (v.field "classList").getStrings
    role := (v.field "role").getString?
    textSnippet := (v.field "textSnippet").getString? }

end Parent

namespace Context

def toJson (c : Context) : Value :=
  .object
    [("parentChain", .array (c.parents.map Parent.toJson)),
      ("nearbyLabels", .strings c.nearbyLabels)]

def none : Context := ⟨[], []⟩

def reader (source : Source) : Reader :=
  Reader.record source "struct ContextSnapshot"
    [Reader.defaulted "parentChain" (.array []) (Reader.list (Parent.reader source)),
      Reader.defaulted "nearbyLabels" (.array []) (Reader.list Reader.string)]

def ofJson (v : Value) : Context :=
  { parents := (v.field "parentChain").getItems.map .ofJson
    nearbyLabels := (v.field "nearbyLabels").getStrings }

end Context

namespace Event

def toJson (e : Event) : Value :=
  .object
    [("eventType", .string e.type.tag), ("timestamp", .nat e.timestamp),
      ("url", .optional e.url), ("framePath", .strings e.framePath),
      ("target", (e.target.map Target.toJson).getD .null), ("context", e.context.toJson)]

def reader (source : Source) : Reader :=
  Reader.record source "struct EvidenceEvent"
    [Reader.required "eventType" (EventType.reader source),
      Reader.required "timestamp" (Reader.natural "u64"),
      Reader.omittable "url" Reader.string,
      Reader.defaulted "framePath" (.array []) (Reader.list Reader.string),
      Reader.nullable "target" (Target.reader source),
      Reader.defaulted "context" Context.none.toJson (Context.reader source)]

def ofJson (v : Value) : Event :=
  { type := .ofJson (v.field "eventType")
    timestamp := (v.field "timestamp").getNat
    url := (v.field "url").getString?
    framePath := (v.field "framePath").getStrings
    target := (v.field "target").get? .ofJson
    context := .ofJson (v.field "context") }

/-- Reads the text of a single event. -/
def ofText (text : String) : Except Json.ReadError Event := do
  return ofJson (← (reader .text).run text)

def listToJson (events : List Event) : Value := .array (events.map toJson)

/-- The text in which a list of events is stored. -/
def listText (events : List Event) : String := (listToJson events).pretty

end Event

/-- Why an events text was rejected. -/
inductive EvidenceError where
  | notJson (f : Json.Fault)
  | notArray
  | wrongShape (e : Json.ReadError)
deriving DecidableEq, Repr

/-- Reads a list of events. The whole text is read before any event is looked at, and of a repeated
name the last value counts. -/
def Event.listOfText (text : String) : Except EvidenceError (List Event) :=
  match (Json.Document.read text.toList).settle with
  | .error f => .error (.notJson f)
  | .ok (.array items) =>
    match Reader.list (Event.reader .value) (.ofValue (.array items)) with
    | .ok v => .ok (v.getItems.map .ofJson)
    | .error e => .error (.wrongShape e)
  | .ok _ => .error .notArray

end BrowserFlow
