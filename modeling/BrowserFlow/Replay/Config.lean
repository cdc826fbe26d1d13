import BrowserFlow.Json.Reader

/-!
Settings of a replay.
-/

namespace BrowserFlow

open Json (Reader Source Value)

/-- When a script checks the preconditions of steps. -/
inductive PreconditionMode where
  | startOnly
  | perStep
deriving DecidableEq, Repr, Inhabited

namespace PreconditionMode

def tag : PreconditionMode → String
  | startOnly => "start-only"
  | perStep => "per-step"

def all : List PreconditionMode := [startOnly, perStep]

def ofTag? (t : String) : Option PreconditionMode := all.find? (·.tag = t)

def reader (source : Source) : Reader := Reader.variant source (all.map tag)

def ofJson (v : Value) : PreconditionMode := (ofTag? v.getString).getD startOnly

end PreconditionMode

structure ReplayConfig where
  preconditionMode : PreconditionMode
  stepDelayMs : Nat
  locatorTimeoutMs : Nat
  dataFile : String
deriving DecidableEq, Repr, Inhabited

namespace ReplayConfig

def standard : ReplayConfig := ⟨.startOnly, 500, 8000, "data.json"⟩

def toJson (c : ReplayConfig) : Value :=
  .object
    [("precondition_mode", .string c.preconditionMode.tag), ("step_delay_ms", .nat c.stepDelayMs),
      ("locator_timeout_ms", .nat c.locatorTimeoutMs), ("data_file", .string c.dataFile)]

def reader (source : Source) : Reader :=
  Reader.record source "struct ReplayConfig"
    [Reader.defaulted "precondition_mode" (.string standard.preconditionMode.tag)
        (PreconditionMode.reader source),
      Reader.defaulted "step_delay_ms" (.nat standard.stepDelayMs) (Reader.natural "u64"),
      Reader.defaulted "locator_timeout_ms" (.nat standard.locatorTimeoutMs)
        (Reader.natural "u64"),
      Reader.defaulted "data_file" (.string standard.dataFile) Reader.string]

def ofJson (v : Value) : ReplayConfig :=
  { preconditionMode := .ofJson (v.field "precondition_mode")
    stepDelayMs := (v.field "step_delay_ms").getNat
    locatorTimeoutMs := (v.field "locator_timeout_ms").getNat
    dataFile := (v.field "data_file").getString }

end ReplayConfig

end BrowserFlow
