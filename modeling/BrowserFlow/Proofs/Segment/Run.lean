import BrowserFlow.Proofs.Segment.Refinement

/-!
# Runs of the segmenter

A run can be cut anywhere: what is decided about the rest follows from the segmenter as it is at
the cut. The steps do not depend on the positions of the events. Of the history before the cut only
the window matters, and only to the first end of a form.
-/

namespace BrowserFlow

namespace Decision

/-- The position of the event that made the decision fall. -/
def index : Decision → Nat
  | buffered index .. | superseded index .. | flushed index .. | emitted index .. => index

/-- The step that the event at a position becomes itself, not one held back until then. -/
def emittedAt? (position : Nat) : Decision → Option Step
  | emitted index _ step => if index = position then some step else none
  | _ => none

theorem emittedAt?_of_index_ne {decision : Decision} {position : Nat}
    (h : decision.index ≠ position) : decision.emittedAt? position = none := by
  cases decision with
  | emitted index event step => exact if_neg h
  | _ => rfl

end Decision

namespace Segmenter

/-! ### Cutting a run -/

/-- The segmenter after these events, with the decisions on the way. -/
def read (config : SegmentConfig) : Segmenter → Nat → List Event → Segmenter × List Decision
  | s, _, [] => (s, [])
  | s, index, event :: events =>
      let (next, decisions) := s.advance config index event
      let (last, later) := read config next (index + 1) events
      (last, decisions ++ later)

theorem read_cons (config : SegmentConfig) (s : Segmenter) (index : Nat) (event : Event)
    (events : List Event) :
    read config s index (event :: events) =
      ((read config (s.advance config index event).1 (index + 1) events).1,
        (s.advance config index event).2 ++
          (read config (s.advance config index event).1 (index + 1) events).2) := rfl

theorem run_append (config : SegmentConfig) (s : Segmenter) (index : Nat)
    (events rest : List Event) :
    run config s index (events ++ rest) =
      (read config s index events).2 ++
        run config (read config s index events).1 (index + events.length) rest := by
  induction events generalizing s index with
  | nil => rfl
  | cons event events ih =>
      rw [List.cons_append, run_cons, ih, read_cons, List.length_cons, List.append_assoc,
        Nat.add_right_comm, ← Nat.add_assoc]

/-! ### Positions -/

theorem index_of_mem_flushEntries {index emitted : Nat} {pending : List (String × Event)}
    {decision : Decision} (h : decision ∈ flushEntries index emitted pending) :
    decision.index = index ∧ ∀ position, decision.emittedAt? position = none := by
  induction pending generalizing emitted with
  | nil => simp [flushEntries] at h
  | cons entry pending ih =>
      rcases List.mem_cons.mp h with rfl | h
      · exact ⟨rfl, fun _ => rfl⟩
      · exact ih h

theorem index_of_mem_advance {config : SegmentConfig} {s : Segmenter} {index : Nat} {event : Event}
    {decision : Decision} (h : decision ∈ (s.advance config index event).2) :
    decision.index = index := by
  rw [advance] at h
  generalize s.observe event = observed at h
  cases htype : event.type with
  | input =>
      cases hkey : event.fieldKey? with
      | none => simp [htype, hkey] at h
      | some key =>
          simp only [htype, hkey, List.mem_singleton] at h
          rw [h, Decision.index]
  | change =>
      cases hkey : event.fieldKey? with
      | none =>
          simp only [htype, hkey, emit, List.nil_append, List.mem_singleton] at h
          rw [h, Decision.index]
      | some key =>
          simp only [htype, hkey, emit, supersede, List.mem_append, List.mem_singleton] at h
          rcases h with h | h
          · split at h
            · rw [List.mem_singleton.mp h, Decision.index]
            · simp at h
          · rw [h, Decision.index]
  | _ =>
      simp only [htype, flush, emit, List.mem_append, List.mem_singleton] at h
      rcases h with h | h
      · exact (index_of_mem_flushEntries h).1
      · rw [h, Decision.index]

theorem index_of_mem_read {config : SegmentConfig} {s : Segmenter} {index : Nat}
    {events : List Event} {decision : Decision} (h : decision ∈ (read config s index events).2) :
    decision.index < index + events.length := by
  induction events generalizing s index with
  | nil => simp [read] at h
  | cons event events ih =>
      rw [List.length_cons]
      rcases List.mem_append.mp h with h | h
      · have hindex := index_of_mem_advance h
        omega
      · have hindex := ih h
        omega

theorem index_of_mem_run {config : SegmentConfig} {s : Segmenter} {index : Nat}
    {events : List Event} {decision : Decision} (h : decision ∈ run config s index events) :
    index ≤ decision.index := by
  induction events generalizing s index with
  | nil => exact (index_of_mem_flushEntries h).1.ge
  | cons event events ih =>
      rw [run_cons] at h
      rcases List.mem_append.mp h with h | h
      · exact (index_of_mem_advance h).ge
      · exact Nat.le_of_succ_le (ih h)

/-- The positions of the events do not show in the steps. -/
theorem steps_flushEntries_index (i j emitted : Nat) (pending : List (String × Event)) :
    (flushEntries i emitted pending).filterMap Decision.step? =
      (flushEntries j emitted pending).filterMap Decision.step? := by
  induction pending generalizing emitted with
  | nil => rfl
  | cons entry pending ih => exact congrArg (_ :: ·) (ih (emitted + 1))

theorem advance_index (config : SegmentConfig) (s : Segmenter) (i j : Nat) (event : Event) :
    (s.advance config i event).1 = (s.advance config j event).1 ∧
      (s.advance config i event).2.filterMap Decision.step? =
        (s.advance config j event).2.filterMap Decision.step? := by
  rw [advance, advance]
  generalize s.observe event = observed
  cases htype : event.type with
  | input => cases hkey : event.fieldKey? <;> exact ⟨rfl, rfl⟩
  | change =>
      cases hkey : event.fieldKey? with
      | none => exact ⟨rfl, rfl⟩
      | some key =>
          simp only [supersede]
          split <;> exact ⟨rfl, rfl⟩
  | _ =>
      simp only [flush, emit, List.filterMap_append,
        steps_flushEntries_index i j observed.emitted observed.pending, true_and]
      rfl

theorem steps_run_index (config : SegmentConfig) (s : Segmenter) (i j : Nat)
    (events : List Event) :
    (run config s i events).filterMap Decision.step? =
      (run config s j events).filterMap Decision.step? := by
  induction events generalizing s i j with
  | nil => exact steps_flushEntries_index i j s.emitted s.pending
  | cons event events ih =>
      obtain ⟨hnext, hsteps⟩ := advance_index config s i j event
      rw [run_cons, run_cons, List.filterMap_append, List.filterMap_append, hsteps, hnext,
        ih _ (i + 1) (j + 1)]

/-! ### What a run owes to the history -/

/-- The steps that are still to come. -/
def stepsFrom (config : SegmentConfig) (s : Segmenter) (events : List Event) : List Step :=
  (run config s 0 events).filterMap Decision.step?

theorem steps_run_eq_stepsFrom (config : SegmentConfig) (s : Segmenter) (index : Nat)
    (events : List Event) :
    (run config s index events).filterMap Decision.step? = stepsFrom config s events :=
  steps_run_index config s index 0 events

theorem stepsFrom_cons (config : SegmentConfig) (s : Segmenter) (event : Event)
    (events : List Event) :
    stepsFrom config s (event :: events) =
      (s.advance config 0 event).2.filterMap Decision.step? ++
        stepsFrom config (s.advance config 0 event).1 events := by
  rw [stepsFrom, run_cons, List.filterMap_append, steps_run_eq_stepsFrom]

/-- What is held back and counted after an event does not depend on the history, and of its step
the type alone does. -/
theorem exists_advance_after (config : SegmentConfig) (entries : List Occurrence) (emitted : Nat)
    (event : Event) :
    ∃ (entries' : List Occurrence) (emitted' : Nat) (steps : StepType → List Step),
      ∀ (past : List Event) (index : Nat),
        ((after config past entries emitted).advance config index event).1 =
            after config (past ++ [event]) entries' emitted' ∧
          ((after config past entries emitted).advance config index event).2.filterMap
            Decision.step? = steps (event.stepType config past) := by
  by_cases htype : event.type.isTextEntry
  · cases hevent : event.type with
    | input =>
        exact ⟨entries ++ [(event, 0)], emitted, fun _ => [], fun past index =>
          advance_input 0 index hevent⟩
    | change =>
        exact ⟨entries ++ [(event, 0)], emitted + 1, fun _ => [event.toStep (emitted + 1) .change],
          fun past index => advance_change 0 index hevent⟩
    | _ => simp [hevent, EventType.isTextEntry] at htype
  · refine ⟨[], emitted + (Block.survivors entries).length + 1, fun type =>
      stepsOf config [] emitted (Block.survivors entries) ++
        [event.toStep (emitted + (Block.survivors entries).length + 1) type], fun past index => ?_⟩
    rw [advance_closing index htype, List.filterMap_append, steps_flush_after []]
    exact ⟨rfl, rfl⟩

theorem exists_read_after (config : SegmentConfig) (entries : List Occurrence) (emitted : Nat)
    (past : List Event) (index : Nat) (events : List Event) :
    ∃ entries' emitted', (read config (after config past entries emitted) index events).1 =
      after config (past ++ events) entries' emitted' := by
  induction events generalizing entries emitted past index with
  | nil => exact ⟨entries, emitted, by rw [read, List.append_nil]⟩
  | cons event events ih =>
      obtain ⟨entries', emitted', _, hadvance⟩ := exists_advance_after config entries emitted event
      have hrest := ih entries' emitted' (past ++ [event]) (index + 1)
      rwa [List.append_assoc, List.singleton_append, ← (hadvance past index).1] at hrest

section History

variable (config : SegmentConfig) (entries : List Occurrence) (emitted : Nat)

theorem exists_stepsFrom_of_no_terminal {events : List Event}
    (hevents : ∀ event ∈ events, ¬event.type.isTerminal) :
    ∃ steps, ∀ past, stepsFrom config (after config past entries emitted) events = steps := by
  induction events generalizing entries emitted with
  | nil => exact ⟨_, fun past => steps_flush_after [] 0⟩
  | cons event events ih =>
      obtain ⟨entries', emitted', steps, hadvance⟩ :=
        exists_advance_after config entries emitted event
      obtain ⟨later, hlater⟩ := ih entries' emitted' fun next hnext =>
        hevents next (List.mem_cons_of_mem _ hnext)
      refine ⟨steps (event.baseType config) ++ later, fun past => ?_⟩
      obtain ⟨hnext, hsteps⟩ := hadvance past 0
      rw [stepsFrom_cons, hnext, hsteps, hlater,
        Event.stepType_of_not_terminal _ _ (hevents event List.mem_cons_self)]

theorem after_append_of_terminal {past : List Event} {closing : Event}
    (hclosing : closing.type.isTerminal) :
    after config (past ++ [closing]) entries emitted =
      ⟨heldBack entries, .ofSize config.windowSize, emitted⟩ := by
  rw [after, recentWindow_append_of_terminal _ _ hclosing]
  rfl

/-- The history shows in the name of the first end of a form and nowhere else. -/
theorem exists_stepsFrom_of_terminal {middle : List Event} {closing : Event}
    (hmiddle : ∀ event ∈ middle, ¬event.type.isTerminal) (hclosing : closing.type.isTerminal)
    (rest : List Event) :
    ∃ lead number tail, ∀ past,
      stepsFrom config (after config past entries emitted) (middle ++ closing :: rest) =
        lead ++ closing.toStep number (closing.stepType config (past ++ middle)) :: tail := by
  induction middle generalizing entries emitted with
  | nil =>
      refine ⟨stepsOf config [] emitted (Block.survivors entries),
        emitted + (Block.survivors entries).length + 1,
        stepsFrom config ⟨heldBack [], .ofSize config.windowSize,
          emitted + (Block.survivors entries).length + 1⟩ rest, fun past => ?_⟩
      rw [List.nil_append, List.append_nil, stepsFrom_cons,
        advance_closing 0 (EventType.not_isTextEntry_of_isTerminal hclosing),
        List.filterMap_append, steps_flush_after [], after_append_of_terminal _ _ _ hclosing,
        List.append_assoc]
      rfl
  | cons event middle ih =>
      obtain ⟨entries', emitted', steps, hadvance⟩ :=
        exists_advance_after config entries emitted event
      obtain ⟨lead, number, tail, hlater⟩ := ih entries' emitted' fun next hnext =>
        hmiddle next (List.mem_cons_of_mem _ hnext)
      refine ⟨steps (event.baseType config) ++ lead, number, tail, fun past => ?_⟩
      obtain ⟨hnext, hsteps⟩ := hadvance past 0
      rw [List.cons_append, stepsFrom_cons, hnext, hsteps, hlater,
        Event.stepType_of_not_terminal _ _ (hmiddle event List.mem_cons_self), List.append_assoc,
        List.append_assoc, List.singleton_append]

end History

end Segmenter

/-- The decisions about the rest of a recording are those of the segmenter after its beginning. -/
theorem exists_decisions_append (config : SegmentConfig) (past : List Event) :
    ∃ earlier entries emitted, (∀ decision ∈ earlier, decision.index < past.length) ∧
      ∀ rest, decisions config (past ++ rest) =
        earlier ++ (Segmenter.after config past entries emitted).run config past.length rest := by
  obtain ⟨entries, emitted, hread⟩ := Segmenter.exists_read_after config [] 0 [] 0 past
  rw [List.nil_append, Segmenter.after_nil] at hread
  refine ⟨(Segmenter.read config (.start config) 0 past).2, entries, emitted, ?_, fun rest => ?_⟩
  · intro decision hdecision
    simpa using Segmenter.index_of_mem_read hdecision
  · rw [decisions, Segmenter.run_append, hread, Nat.zero_add]

theorem exists_segment_append (config : SegmentConfig) (past : List Event) :
    ∃ lead entries emitted, ∀ rest, segment config (past ++ rest) =
      lead ++ (Segmenter.after config past entries emitted).stepsFrom config rest := by
  obtain ⟨earlier, entries, emitted, -, hdecisions⟩ := exists_decisions_append config past
  refine ⟨earlier.filterMap Decision.step?, entries, emitted, fun rest => ?_⟩
  rw [segment, hdecisions, List.filterMap_append, Segmenter.steps_run_eq_stepsFrom]

end BrowserFlow
