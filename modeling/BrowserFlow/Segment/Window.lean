import BrowserFlow.Flow.Step

/-!
The window of recent text entries that decides what the end of a form is called.
-/

namespace BrowserFlow

structure Entry where
  fieldKey : String
  isPassword : Bool
deriving DecidableEq, Repr

/-- The most recent entries, the oldest first; at least one fits. -/
structure InputWindow where
  capacity : Nat
  entries : List Entry
deriving DecidableEq, Repr

namespace InputWindow

def ofSize (size : Nat) : InputWindow := ⟨max size 1, []⟩

/-- A full window loses its oldest entry. -/
def push (window : InputWindow) (entry : Entry) : InputWindow :=
  let kept := if window.entries.length = window.capacity then window.entries.tail else window.entries
  { window with entries := kept ++ [entry] }

def clear (window : InputWindow) : InputWindow := { window with entries := [] }

def distinctFields (window : InputWindow) : Nat :=
  ((window.entries.map (·.fieldKey)).foldr (fun key seen => if key ∈ seen then seen else key :: seen)
    []).length

/-- Two or more fields make a form, and a form with a password is a login. -/
def terminalType (window : InputWindow) (base : StepType) : StepType :=
  if window.distinctFields < 2 then base
  else if window.entries.any (·.isPassword) then .login
  else .fillForm

end InputWindow

end BrowserFlow
