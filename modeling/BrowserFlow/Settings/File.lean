import BrowserFlow.Files.System
import BrowserFlow.Settings.App
import BrowserFlow.Yaml.Document

/-!
The settings file.
-/

namespace BrowserFlow

namespace Yaml

/-- The fields of a mapping that have one of these names, each at most once. -/
def Node.entriesFor (names : List String) (found : List (String × Node)) :
    List (Node × Node) → Option (List (String × Node))
  | [] => some found
  | (.scalar name _, value) :: rest =>
    if names.contains name then
      if (found.lookup name).isSome then none
      else entriesFor names (found ++ [(name, value)]) rest
    else entriesFor names found rest
  | _ => none

/-- Other names are passed over, and nothing at all is a mapping without entries. -/
def Node.fields? (names : List String) : Node → Option (List (String × Node))
  | .mapping entries => entriesFor names [] entries
  | .scalar "" _ => some []
  | _ => none

/-- The value of a field, or `standard` when the field is not there. -/
def field (fields : List (String × Node)) (name : String) (read : Node → Option α)
    (standard : α) : Option α :=
  match fields.lookup name with
  | some node => read node
  | none => some standard

def Node.text? : Node → Option String
  | .scalar text _ => some text
  | _ => none

def Node.bool? : Node → Option Bool
  | .scalar text true =>
    if ["true", "True", "TRUE"].contains text then some true
    else if ["false", "False", "FALSE"].contains text then some false
    else none
  | _ => none

def isNull (text : String) : Bool := ["", "null", "Null", "NULL", "~"].contains text

/-- Text, or null when it is written so without quotes. -/
def Node.optionalText? : Node → Option (Option String)
  | .scalar text plain => some (if plain && isNull text then none else some text)
  | _ => none

def digitsValue? (radix : Nat) (digits : List Char) : Option Nat :=
  if digits.isEmpty then none
  else
    digits.foldlM
      (fun value c =>
        (Scan.hexValue? c).bind fun digit =>
          if digit < radix then some (radix * value + digit) else none)
      0

/-- A number after its sign; zeros may stand before other digits only behind the mark of a radix. -/
def unsigned? : List Char → Option Nat
  | '0' :: 'x' :: digits => digitsValue? 16 digits
  | '0' :: 'o' :: digits => digitsValue? 8 digits
  | '0' :: 'b' :: digits => digitsValue? 2 digits
  | '0' :: c :: digits => if (c :: digits).all Char.isDigit then none else digitsValue? 10 (c :: digits)
  | digits => digitsValue? 10 digits

def Node.nat? : Node → Option Nat
  | .scalar text true =>
    let digits :=
      match text.toList with
      | '+' :: rest => rest
      | all => all
    (unsigned? digits).filter (· ≤ 0xFFFFFFFFFFFFFFFF)
  | _ => none

end Yaml

open Yaml (Node field)

def SegmentConfig.ofNode (node : Node) : Option SegmentConfig := do
  let fields ← node.fields? ["classify", "window_size"]
  return { classify := ← field fields "classify" Node.bool? standard.classify
           windowSize := ← field fields "window_size" Node.nat? standard.windowSize }

def ReplayConfig.ofNode (node : Node) : Option ReplayConfig := do
  let fields ←
    node.fields? ["precondition_mode", "step_delay_ms", "locator_timeout_ms", "data_file"]
  let mode (node : Node) := node.text?.bind PreconditionMode.ofTag?
  return { preconditionMode := ← field fields "precondition_mode" mode standard.preconditionMode
           stepDelayMs := ← field fields "step_delay_ms" Node.nat? standard.stepDelayMs
           locatorTimeoutMs := ← field fields "locator_timeout_ms" Node.nat? standard.locatorTimeoutMs
           dataFile := ← field fields "data_file" Node.text? standard.dataFile }

def Rewrite.Config.ofNode (node : Node) : Option Rewrite.Config := do
  let fields ← node.fields? ["provider", "endpoint", "model", "timeout_secs"]
  let provider (node : Node) := node.text?.bind Provider.ofTag?
  return { provider := ← field fields "provider" provider standard.provider
           endpoint := ← field fields "endpoint" Node.optionalText? standard.endpoint
           model := ← field fields "model" Node.optionalText? standard.model
           timeoutSecs := ← field fields "timeout_secs" Node.nat? standard.timeoutSecs }

namespace Settings

def ofNode (node : Node) : Option Settings := do
  let fields ← node.fields? ["segment", "replay", "rewrite"]
  return { segment := ← field fields "segment" SegmentConfig.ofNode .standard
           replay := ← field fields "replay" ReplayConfig.ofNode .standard
           rewrite := ← field fields "rewrite" Rewrite.Config.ofNode .standard }

/-- A text that does not say settings says the standard ones. -/
def ofText (text : String) : Settings := ((Yaml.read? text).bind ofNode).getD standard

def defaultFile : String := "workflow-extractor.yaml"

/-- Without a file the settings are the standard ones. -/
def load {m : Type → Type} [Monad m] [FileSystem m] (path : Option String) : m Settings := do
  match ← FileSystem.readText (path.getD defaultFile) with
  | .ok text => return ofText text
  | .error _ => return standard

end Settings

end BrowserFlow
