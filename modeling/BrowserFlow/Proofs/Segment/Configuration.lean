import BrowserFlow.Proofs.Segment.Terminal

/-!
# Two configurations

Two segmenters that differ in their configuration read the same events in step. They hold back the
same text entries and count the same steps; only their windows differ, and each window is the last
of the same entries. So the steps differ in their types at most, and the end of a form is named after
more by the segmenter with the larger window.
-/

namespace BrowserFlow

/-- How the steps compare that two configurations make of one event. -/
structure Event.Twins (first second : SegmentConfig) (event : Event) (step twin : Step) :
    Prop where
  id : step.id = twin.id
  selectors : step.selectors = twin.selectors
  precondition : step.precondition = twin.precondition
  effect : step.effect = twin.effect
  params : step.params = twin.params
  type : step.type ≠ twin.type →
    event.type = .click ∨ event.type = .submit ∨ event.type = .keydown
  /-- Names of the end of a form, from least to most. -/
  ending : first.classify → second.classify → first.windowSize ≤ second.windowSize →
    event.type.isTerminal →
      step.type ∈ [event.type.plainEnd, .fillForm, .login] ∧
        twin.type ∈ [event.type.plainEnd, .fillForm, .login] ∧
        step.type.formRank ≤ twin.type.formRank
  other : first.classify → second.classify → ¬event.type.isTerminal → step.type = twin.type

/-- The step that a decision is about, with the event that it comes from. -/
def Decision.source? : Decision → Option (Event × Step)
  | buffered .. | superseded .. => none
  | flushed _ event _ step | emitted _ event step => some (event, step)

/-- The steps for a list of events, each with its event. -/
def sourcedSteps (config : SegmentConfig) (events : List Event) : List (Event × Step) :=
  (decisions config events).filterMap Decision.source?

theorem map_snd_sources (decisions : List Decision) :
    (decisions.filterMap Decision.source?).map Prod.snd = decisions.filterMap Decision.step? := by
  rw [List.map_filterMap]
  congr 1
  funext decision
  cases decision <;> rfl

/-! ### Types -/

theorem terminalType_mem (window : InputWindow) (base : StepType) :
    window.terminalType base ∈ [base, .fillForm, .login] := by
  rw [InputWindow.terminalType]
  split_ifs <;> simp

theorem entries_recentWindow_subset {size other : Nat} (h : size ≤ other) (past : List Event) :
    (recentWindow size past).entries ⊆ (recentWindow other past).entries :=
  rtake_subset_of_le _ (max_le_max_right 1 h)

section Types

variable {first second : SegmentConfig} {past : List Event} {event : Event}

/-- Only clicks and the ends of forms are named by a configuration. -/
theorem stepType_eq_of_plain (hclick : event.type ≠ .click) (hterminal : ¬event.type.isTerminal) :
    event.stepType first past = event.stepType second past := by
  rw [Event.stepType_of_not_terminal _ _ hterminal, Event.stepType_of_not_terminal _ _ hterminal,
    Event.baseType, Event.baseType]
  cases htype : event.type with
  | click => exact absurd htype hclick
  | _ => rfl

theorem stepType_eq_of_same_classify (hclassify : first.classify = second.classify)
    (hterminal : ¬event.type.isTerminal) :
    event.stepType first past = event.stepType second past := by
  rw [Event.stepType_of_not_terminal _ _ hterminal, Event.stepType_of_not_terminal _ _ hterminal,
    Event.baseType, Event.baseType, hclassify]

theorem formRank_stepType_le (hfirst : first.classify) (hsecond : second.classify)
    (hsize : first.windowSize ≤ second.windowSize) (hterminal : event.type.isTerminal) :
    (event.stepType first past).formRank ≤ (event.stepType second past).formRank := by
  rw [stepType_of_classified hterminal hfirst, stepType_of_classified hterminal hsecond]
  exact InputWindow.formRank_terminalType_mono (entries_recentWindow_subset hsize past)
    (formRank_plainEnd event.type)

theorem stepType_mem_of_classified {config : SegmentConfig} (h : config.classify)
    (hterminal : event.type.isTerminal) :
    event.stepType config past ∈ [event.type.plainEnd, .fillForm, .login] := by
  rw [stepType_of_classified hterminal h]
  exact terminalType_mem _ _

theorem Event.isTerminal_iff : event.type.isTerminal ↔
    event.type = .submit ∨ event.type = .keydown := by
  cases event.type <;> decide

end Types

theorem Event.twins_toStep (first second : SegmentConfig) (past : List Event) (event : Event)
    (number : Nat) :
    event.Twins first second (event.toStep number (event.stepType first past))
      (event.toStep number (event.stepType second past)) where
  id := rfl
  selectors := rfl
  precondition := rfl
  effect := rfl
  params := rfl
  type hne := by
    by_contra hother
    rw [← Event.isTerminal_iff, not_or] at hother
    exact hne (stepType_eq_of_plain hother.1 hother.2)
  ending hfirst hsecond hsize hterminal :=
    ⟨stepType_mem_of_classified hfirst hterminal, stepType_mem_of_classified hsecond hterminal,
      formRank_stepType_le hfirst hsecond hsize hterminal⟩
  other hfirst hsecond hterminal :=
    stepType_eq_of_same_classify (hfirst.trans hsecond.symm) hterminal

/-- What is not the end of a form can be one step under both. -/
theorem Event.twins_self (first second : SegmentConfig) {event : Event}
    (h : ¬event.type.isTerminal) (step : Step) : event.Twins first second step step where
  id := rfl
  selectors := rfl
  precondition := rfl
  effect := rfl
  params := rfl
  type hne := absurd rfl hne
  ending _ _ _ hterminal := absurd hterminal h
  other _ _ _ := rfl

/-! ### Two runs -/

/-- Steps of one event under two configurations. -/
def Twinned (first second : SegmentConfig) (source twin : Event × Step) : Prop :=
  source.1 = twin.1 ∧ source.1.Twins first second source.2 twin.2

namespace Segmenter

section Sources

variable {config : SegmentConfig} {past : List Event} {entries : List Occurrence}
  {emitted : Nat} {event : Event}

theorem sources_advance_input (index : Nat) (htype : event.type = .input) :
    ((after config past entries emitted).advance config index event).2.filterMap
      Decision.source? = [] := by
  obtain ⟨-, hsteps⟩ := @advance_input config past entries emitted event 0 index htype
  rw [← map_snd_sources] at hsteps
  exact List.map_eq_nil_iff.mp hsteps

theorem sources_advance_change (index : Nat) (htype : event.type = .change) :
    ((after config past entries emitted).advance config index event).2.filterMap
      Decision.source? = [(event, event.toStep (emitted + 1) .change)] := by
  have hterminal : ¬event.type.isTerminal := by simp [htype, EventType.isTerminal]
  have hbase : event.baseType config = .change := by simp [Event.baseType, htype]
  rw [advance, observe_after hterminal]
  cases hkey : event.fieldKey? with
  | none =>
      simp only [htype, hbase, emit_after]
      rfl
  | some key =>
      simp only [htype, hbase, supersede]
      split <;> rfl

end Sources

variable (first second : SegmentConfig)

theorem forall₂_flushEntries (index emitted : Nat) {pending : List (String × Event)}
    (h : ∀ entry ∈ pending, ¬entry.2.type.isTerminal) :
    List.Forall₂ (Twinned first second)
      ((flushEntries index emitted pending).filterMap Decision.source?)
      ((flushEntries index emitted pending).filterMap Decision.source?) := by
  induction pending generalizing emitted with
  | nil => exact .nil
  | cons entry pending ih =>
      have hentry : ¬entry.2.type.isTerminal := h entry List.mem_cons_self
      exact .cons ⟨rfl, Event.twins_self first second hentry _⟩
        (ih (emitted + 1) fun later hlater => h later (List.mem_cons_of_mem _ hlater))

theorem forall₂_flush_after (past : List Event) (entries : List Occurrence) (emitted index : Nat) :
    List.Forall₂ (Twinned first second)
      (((after first past entries emitted).flush index).2.filterMap Decision.source?)
      (((after second past entries emitted).flush index).2.filterMap Decision.source?) := by
  refine forall₂_flushEntries first second index emitted fun entry hentry => ?_
  obtain ⟨o, ho, rfl⟩ := List.mem_map.mp hentry
  simp [(Block.mem_survivors ho).1, EventType.isTerminal]

/-- One event: what is held back and counted stays the same under both configurations. -/
theorem exists_advance_twinned (past : List Event) (entries : List Occurrence)
    (emitted index : Nat) (event : Event) :
    ∃ entries' emitted',
      ((after first past entries emitted).advance first index event).1 =
          after first (past ++ [event]) entries' emitted' ∧
        ((after second past entries emitted).advance second index event).1 =
          after second (past ++ [event]) entries' emitted' ∧
        List.Forall₂ (Twinned first second)
          (((after first past entries emitted).advance first index event).2.filterMap
            Decision.source?)
          (((after second past entries emitted).advance second index event).2.filterMap
            Decision.source?) := by
  by_cases hentry : event.type.isTextEntry
  · cases htype : event.type with
    | input =>
        refine ⟨entries ++ [(event, 0)], emitted, (advance_input 0 index htype).1,
          (advance_input 0 index htype).1, ?_⟩
        rw [sources_advance_input index htype, sources_advance_input index htype]
        exact .nil
    | change =>
        have hterminal : ¬event.type.isTerminal := by simp [htype, EventType.isTerminal]
        refine ⟨entries ++ [(event, 0)], emitted + 1, (advance_change 0 index htype).1,
          (advance_change 0 index htype).1, ?_⟩
        rw [sources_advance_change index htype, sources_advance_change index htype]
        exact .cons ⟨rfl, Event.twins_self first second hterminal _⟩ .nil
    | _ => simp [htype, EventType.isTextEntry] at hentry
  · refine ⟨[], emitted + (Block.survivors entries).length + 1, ?_⟩
    rw [advance_closing index hentry, advance_closing index hentry, List.filterMap_append,
      List.filterMap_append]
    refine ⟨rfl, rfl, List.rel_append (forall₂_flush_after first second past entries emitted index)
      (.cons ⟨rfl, ?_⟩ .nil)⟩
    exact event.twins_toStep first second past _

/-- All events: the runs stay in step. -/
theorem forall₂_run_after (past : List Event) (entries : List Occurrence) (emitted index : Nat)
    (events : List Event) :
    List.Forall₂ (Twinned first second)
      ((run first (after first past entries emitted) index events).filterMap Decision.source?)
      ((run second (after second past entries emitted) index events).filterMap
        Decision.source?) := by
  induction events generalizing past entries emitted index with
  | nil => exact forall₂_flush_after first second past entries emitted index
  | cons event events ih =>
      obtain ⟨entries', emitted', hfirst, hsecond, htwinned⟩ :=
        exists_advance_twinned first second past entries emitted index event
      rw [run_cons, run_cons, hfirst, hsecond, List.filterMap_append, List.filterMap_append]
      exact List.rel_append htwinned (ih (past ++ [event]) entries' emitted' (index + 1))

end Segmenter

/-- A configuration changes the types of steps only, and only of those for clicks and the ends of
forms. With a larger window the end of a form is named after as much or more, and nothing else is
named differently. -/
theorem configuration_changes_only_types (first second : SegmentConfig) (events : List Event) :
    segment first events = (sourcedSteps first events).map Prod.snd ∧
      segment second events = (sourcedSteps second events).map Prod.snd ∧
      List.Forall₂ (Twinned first second) (sourcedSteps first events)
        (sourcedSteps second events) := by
  refine ⟨(map_snd_sources _).symm, (map_snd_sources _).symm, ?_⟩
  rw [sourcedSteps, decisions, sourcedSteps, decisions, ← Segmenter.after_nil,
    ← Segmenter.after_nil]
  exact Segmenter.forall₂_run_after first second [] [] 0 0 events

end BrowserFlow
