import BrowserFlow.Segment.Segmenter
import Mathlib.Data.List.DropRight

/-!
What the events before an event say about it: the text entries of the form being filled, and the
type of the step that ends it.
-/

namespace BrowserFlow

theorem EventType.not_isTextEntry_of_isTerminal {type : EventType} (h : type.isTerminal) :
    ¬type.isTextEntry := by
  cases type with
  | submit | keydown => decide
  | _ => simp [isTerminal] at h

/-- What a window holds of a text entry with a field. -/
def Event.entry? (event : Event) : Option Entry :=
  if event.type.isTextEntry then event.fieldKey?.map (⟨·, event.isPassword⟩) else none

/-- The text entries since the last end of a form. -/
def formEntries (past : List Event) : List Entry :=
  (past.rtakeWhile (!·.type.isTerminal)).filterMap Event.entry?

/-- The last of these entries, at least one. -/
def recentWindow (size : Nat) (past : List Event) : InputWindow :=
  ⟨max size 1, (formEntries past).rtake (max size 1)⟩

/-- The type of the step for an event that comes after `past`. -/
def Event.stepType (config : SegmentConfig) (past : List Event) (event : Event) : StepType :=
  if config.classify && event.type.isTerminal then
    (recentWindow config.windowSize past).terminalType (event.baseType config)
  else event.baseType config

theorem Event.stepType_of_not_terminal (config : SegmentConfig) (past : List Event) {event : Event}
    (h : ¬event.type.isTerminal) : event.stepType config past = event.baseType config := by
  simp [stepType, h]

theorem formEntries_append_of_terminal (past : List Event) {event : Event}
    (h : event.type.isTerminal) : formEntries (past ++ [event]) = [] := by
  rw [formEntries, List.rtakeWhile_concat_neg _ _ _ (by simpa using h), List.filterMap_nil]

theorem formEntries_append (past : List Event) {event : Event} (h : ¬event.type.isTerminal) :
    formEntries (past ++ [event]) = formEntries past ++ event.entry?.toList := by
  rw [formEntries, List.rtakeWhile_concat_pos _ _ _ (by simpa using h), List.filterMap_append]
  cases hentry : event.entry? <;> simp [formEntries, hentry]

theorem recentWindow_nil (size : Nat) : recentWindow size [] = .ofSize size := by
  simp [recentWindow, formEntries, InputWindow.ofSize]

theorem recentWindow_append_of_terminal (size : Nat) (past : List Event) {event : Event}
    (h : event.type.isTerminal) :
    recentWindow size (past ++ [event]) = (recentWindow size past).clear := by
  simp [recentWindow, formEntries_append_of_terminal past h, InputWindow.clear]

theorem recentWindow_append_of_no_entry (size : Nat) (past : List Event) {event : Event}
    (hterminal : ¬event.type.isTerminal) (hentry : event.entry? = none) :
    recentWindow size (past ++ [event]) = recentWindow size past := by
  simp [recentWindow, formEntries_append past hterminal, hentry]

/-- Pushing onto the last `n + 1` entries leaves the last `n + 1` entries. -/
theorem rtake_push (n : Nat) (entries : List α) (entry : α) :
    (if (entries.rtake (n + 1)).length = n + 1 then (entries.rtake (n + 1)).tail
      else entries.rtake (n + 1)) ++ [entry] = (entries ++ [entry]).rtake (n + 1) := by
  rw [List.rtake_concat_succ]
  congr 1
  have hlength : (entries.rtake (n + 1)).length = min (n + 1) entries.length := by
    simp only [List.rtake, List.length_drop]
    omega
  rw [hlength]
  split
  · next hfull =>
      simp only [List.rtake, List.tail_drop]
      congr 1
      omega
  · next hfree =>
      simp only [List.rtake]
      congr 1
      omega

theorem recentWindow_append_of_entry (size : Nat) (past : List Event) {event : Event}
    {entry : Entry} (hterminal : ¬event.type.isTerminal) (hentry : event.entry? = some entry) :
    recentWindow size (past ++ [event]) = (recentWindow size past).push entry := by
  obtain ⟨n, hn⟩ : ∃ n, max size 1 = n + 1 := ⟨max size 1 - 1, by omega⟩
  simp only [recentWindow, formEntries_append past hterminal, hentry, Option.toList_some,
    InputWindow.push, hn, rtake_push]

end BrowserFlow
