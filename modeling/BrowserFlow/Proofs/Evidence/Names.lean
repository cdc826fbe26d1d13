import BrowserFlow.Evidence.Event
import Mathlib.Data.List.ReduceOption

/-!
# What an element shows of itself

The role and the name of an element as they are read off its evidence, field by field. A field that
is empty says nothing, and the next one is asked.
-/

namespace BrowserFlow

/-- A field, if it says something. -/
def filled (field : Option String) : Option String := field.filter (· ≠ "")

theorem observed_eq_filled (field : Option String) : observed field = filled field := by
  have hempty : (fun text : String => !text.isEmpty) = fun text => decide (text ≠ "") := by
    funext text
    by_cases htext : text = "" <;> simp [htext]
  rw [observed, filled, hempty]

theorem filled_some_of_ne {text : String} (h : text ≠ "") : filled (some text) = some text :=
  Option.filter_some_pos (by simpa using h)

/-- The role that an element states, else the one that a button, a link or a checkbox has without
stating it. -/
def Target.shownRole? (target : Target) : Option String :=
  filled target.role <|>
    if target.tagName = some "button" then some "button"
    else if target.tagName = some "a" then some "link"
    else if target.tagName = some "input" ∧ target.inputType = some "checkbox" then
      some "checkbox"
    else none

theorem Target.role?_eq_shownRole? (target : Target) : target.role? = target.shownRole? := by
  rw [role?, shownRole?, observed_eq_filled, observed_eq_filled]
  cases filled target.role with
  | some role => rfl
  | none =>
      cases htag : target.tagName with
      | none => rfl
      | some tag =>
          by_cases hempty : tag = ""
          · subst hempty
            rfl
          · rw [filled_some_of_ne hempty]
            simp only [Option.some.injEq]
            split <;> simp_all

/-- What assistive tools are told, else the text inside, else the first label nearby. -/
def Event.shownName? (event : Event) : Option String :=
  [event.target.bind (·.ariaLabel), event.target.bind (·.innerText),
    event.context.nearbyLabels.head?].reduceOption.find? (· ≠ "")

theorem find?_reduceOption_cons (field : Option String) (fields : List (Option String)) :
    (field :: fields).reduceOption.find? (· ≠ "") =
      (filled field <|> fields.reduceOption.find? (· ≠ "")) := by
  cases field with
  | none => rfl
  | some text =>
      rw [List.reduceOption_cons_of_some, List.find?_cons, filled, Option.filter_some]
      by_cases htext : text = "" <;> simp [htext]

theorem filled_bind (target : Option Target) (field : Target → Option String) :
    filled (target.bind field) = target.bind fun target => filled (field target) := by
  cases target <;> rfl

theorem Event.accessibleName?_eq_shownName? (event : Event) :
    event.accessibleName? = event.shownName? := by
  rw [shownName?, find?_reduceOption_cons, find?_reduceOption_cons, find?_reduceOption_cons,
    filled_bind, filled_bind, accessibleName?, firstLabel?]
  simp [observed_eq_filled]

end BrowserFlow
