import BrowserFlow.Evidence.Recording
import Mathlib.Data.List.Basic
import Mathlib.Data.List.Induction

/-!
# What a recording holds

A recording is asked to start, to stop, to forget and to take events in, in any order. What it
holds, what it answers and which phase it is in can be read off these operations alone: an event is
held when the last start or stop before it is a start and nothing after it forgets.
-/

namespace BrowserFlow

inductive RecordingOp where
  | start
  | stop
  | clear
  | record (event : Event)
deriving DecidableEq

inductive RecordingAnswer where
  | status (status : RecordingStatus)
  | taken (accepted : Bool)
deriving DecidableEq

namespace RecordingOp

def isSwitch : RecordingOp → Bool
  | start | stop => true
  | clear | record _ => false

def event? : RecordingOp → Option Event
  | record event => some event
  | start | stop | clear => none

end RecordingOp

/-- The last start or stop is a start. -/
def IsRunning (operations : List RecordingOp) : Prop :=
  (operations.filter RecordingOp.isSwitch).getLast? = some .start

instance (operations : List RecordingOp) : Decidable (IsRunning operations) :=
  inferInstanceAs (Decidable (_ = _))

/-- The events that were offered to a running recording and not forgotten later. -/
def heldEvents (operations : List RecordingOp) : List Event :=
  operations.zipIdx.filterMap fun (operation, i) =>
    if IsRunning (operations.take i) ∧ .clear ∉ operations.drop (i + 1) then operation.event?
    else none

/-- What an operation is answered after others: an event is told whether it was taken in, and
everything else is told how many events are held now. -/
def answerAfter (earlier : List RecordingOp) (operation : RecordingOp) : RecordingAnswer :=
  match operation with
  | .record _ => .taken (IsRunning earlier)
  | .start | .stop | .clear =>
    .status ⟨IsRunning (earlier ++ [operation]), (heldEvents (earlier ++ [operation])).length⟩

namespace Recording

def perform (r : Recording) : RecordingOp → Recording
  | .start => r.start
  | .stop => r.stop
  | .clear => r.clear
  | .record event => r.record event

def answer (r : Recording) : RecordingOp → RecordingAnswer
  | .start => .status r.start.status
  | .stop => .status r.stop.status
  | .clear => .status r.clear.status
  | .record _ => .taken r.accepts

/-- A new recording after these operations. -/
def after (operations : List RecordingOp) : Recording := operations.foldl perform new

def answers : Recording → List RecordingOp → List RecordingAnswer
  | _, [] => []
  | r, operation :: later => r.answer operation :: answers (r.perform operation) later

theorem after_append_singleton (operations : List RecordingOp) (operation : RecordingOp) :
    after (operations ++ [operation]) = (after operations).perform operation := by
  rw [after, List.foldl_concat]
  rfl

end Recording

/-! ### One more operation -/

section Append

variable (operations : List RecordingOp)

theorem isRunning_append_start : IsRunning (operations ++ [.start]) := by
  simp [IsRunning, RecordingOp.isSwitch]

theorem not_isRunning_append_stop : ¬IsRunning (operations ++ [.stop]) := by
  simp [IsRunning, RecordingOp.isSwitch]

variable {operations}

theorem isRunning_append_of_not_switch {operation : RecordingOp} (h : operation.isSwitch = false) :
    IsRunning (operations ++ [operation]) ↔ IsRunning operations := by
  simp [IsRunning, h]

/-- One more operation forgets all events or none, and adds its own event. -/
theorem heldEvents_append_singleton (operation : RecordingOp) :
    heldEvents (operations ++ [operation]) =
      (if operation = .clear then [] else heldEvents operations) ++
        if IsRunning operations then operation.event?.toList else [] := by
  rw [heldEvents, List.zipIdx_append, List.filterMap_append]
  congr 1
  · split_ifs with hclear
    · rw [List.filterMap_eq_nil_iff]
      rintro ⟨earlier, i⟩ hmem
      have hlt := (List.mem_zipIdx hmem).2.1
      have hforgotten : RecordingOp.clear ∈ (operations ++ [operation]).drop (i + 1) := by
        rw [hclear, List.drop_append_of_le_length (by omega)]
        exact List.mem_append_right _ List.mem_cons_self
      exact if_neg fun h => h.2 hforgotten
    · apply List.filterMap_congr
      rintro ⟨earlier, i⟩ hmem
      have hlt := (List.mem_zipIdx hmem).2.1
      simp only
      rw [List.take_append_of_le_length (by omega), List.drop_append_of_le_length (by omega)]
      simp [Ne.symm hclear]
  · by_cases hrunning : IsRunning operations <;> cases hevent : operation.event? <;>
      simp [hrunning, hevent]

end Append

/-! ### All operations -/

/-- A recording as its operations have left it. -/
structure Recording.Follows (operations : List RecordingOp) (r : Recording) : Prop where
  events : r.events = heldEvents operations
  recording : r.phase = .recording ↔ IsRunning operations
  idle : r.phase = .idle ↔ .start ∉ operations

namespace Recording

theorem follows_new : Follows [] new where
  events := rfl
  recording := by simp [new, IsRunning]
  idle := by simp [new]

namespace Follows

variable {operations : List RecordingOp} {r : Recording} (h : Follows operations r)

include h

theorem accepts_eq : r.accepts = decide (IsRunning operations) := by
  rw [accepts, beq_eq_decide]
  exact decide_eq_decide.mpr h.recording

theorem status_eq : r.status = ⟨IsRunning operations, (heldEvents operations).length⟩ := by
  rw [status, ← h.events, ← accepts, h.accepts_eq]

theorem start : Follows (operations ++ [.start]) r.start where
  events := by simp [Recording.start, heldEvents_append_singleton, h.events, RecordingOp.event?]
  recording := iff_of_true rfl (isRunning_append_start operations)
  idle := by simp [Recording.start]

theorem stop : Follows (operations ++ [.stop]) r.stop := by
  have hevents : heldEvents (operations ++ [.stop]) = heldEvents operations := by
    simp [heldEvents_append_singleton, RecordingOp.event?]
  rw [Recording.stop]
  split_ifs with hphase
  · refine ⟨hevents ▸ h.events, ?_, ?_⟩
    · exact iff_of_false (by simp) (not_isRunning_append_stop operations)
    · have hstarted := mt h.idle.mpr (by simp [hphase])
      simpa using hstarted
  · refine ⟨hevents ▸ h.events, iff_of_false hphase (not_isRunning_append_stop operations), ?_⟩
    simpa using h.idle

theorem clear : Follows (operations ++ [.clear]) r.clear where
  events := by simp [Recording.clear, heldEvents_append_singleton, RecordingOp.event?]
  recording := h.recording.trans (isRunning_append_of_not_switch rfl).symm
  idle := by simpa [Recording.clear] using h.idle

theorem record (event : Event) : Follows (operations ++ [.record event]) (r.record event) := by
  have hevents : heldEvents (operations ++ [.record event]) =
      heldEvents operations ++ if r.accepts then [event] else [] := by
    simp [heldEvents_append_singleton, h.accepts_eq, RecordingOp.event?]
  have hphase : (r.record event).phase = r.phase := by
    rw [Recording.record]
    split_ifs <;> rfl
  refine ⟨?_, ?_, ?_⟩
  · rw [hevents, Recording.record, ← h.events]
    split_ifs
    · rfl
    · exact (List.append_nil _).symm
  · rw [hphase, h.recording, isRunning_append_of_not_switch rfl]
  · simpa [hphase] using h.idle

theorem perform (operation : RecordingOp) :
    Follows (operations ++ [operation]) (r.perform operation) := by
  cases operation with
  | start => exact h.start
  | stop => exact h.stop
  | clear => exact h.clear
  | record event => exact h.record event

theorem answer_eq (operation : RecordingOp) :
    r.answer operation = answerAfter operations operation := by
  cases operation with
  | start => exact congrArg RecordingAnswer.status h.start.status_eq
  | stop => exact congrArg RecordingAnswer.status h.stop.status_eq
  | clear => exact congrArg RecordingAnswer.status h.clear.status_eq
  | record event => exact congrArg RecordingAnswer.taken h.accepts_eq

theorem answers_eq (later : List RecordingOp) :
    r.answers later =
      (later.zipIdx operations.length).map fun (operation, i) =>
        answerAfter ((operations ++ later).take i) operation := by
  induction later generalizing operations r with
  | nil => rfl
  | cons operation later ih =>
      have hsplit : operations ++ operation :: later = (operations ++ [operation]) ++ later := by
        simp
      have hrest := ih (h.perform operation)
      rw [List.length_append, List.length_singleton, ← hsplit] at hrest
      rw [answers, h.answer_eq, hrest, List.zipIdx_cons, List.map_cons]
      simp only [List.take_left]

end Follows

theorem follows_after (operations : List RecordingOp) : Follows operations (after operations) := by
  induction operations using List.reverseRecOn with
  | nil => exact follows_new
  | append_singleton operations operation ih =>
      rw [after_append_singleton]
      exact ih.perform operation

/-- After any operations a recording holds the events that were offered while it was running and not
forgotten later, and every answer on the way told so. It is idle until it is started for the first
time and never again. -/
theorem recording_follows_operations (operations : List RecordingOp) :
    (after operations).events = heldEvents operations ∧
      new.answers operations =
        (operations.zipIdx.map fun (operation, i) =>
          answerAfter (operations.take i) operation) ∧
      (after operations).status = ⟨IsRunning operations, (after operations).events.length⟩ ∧
      ((after operations).phase = .idle ↔ .start ∉ operations) ∧
      ∀ later, (after (operations ++ later)).phase = .idle ↔
        (after operations).phase = .idle ∧ .start ∉ later := by
  have h := follows_after operations
  refine ⟨h.events, follows_new.answers_eq operations, ?_, h.idle, fun later => ?_⟩
  · rw [h.status_eq, h.events]
  · rw [(follows_after (operations ++ later)).idle, h.idle, List.mem_append, not_or]

end Recording

end BrowserFlow
