import BrowserFlow.Proofs.Evidence.Names
import BrowserFlow.Proofs.Segment.Block
import BrowserFlow.Proofs.Segment.History

/-!
# Segmentation block by block

The segmenter reads the events once and holds text entries back. What it holds back is a function
of the block being read, and its window is a function of all events so far. So its steps are those
of the blocks one after the other, which a recording can be read off by position.
-/

namespace BrowserFlow

/-- The steps of these occurrences in a recording, the first of them after `emitted` other steps. -/
def stepsOf (config : SegmentConfig) (events : List Event) (emitted : Nat)
    (sources : List Occurrence) : List Step :=
  (sources.zipIdx emitted).map fun (o, before) =>
    o.1.toStep (before + 1) (o.1.stepType config (events.take o.2))

theorem stepsOf_append (config : SegmentConfig) (events : List Event) (emitted : Nat)
    (first second : List Occurrence) :
    stepsOf config events emitted (first ++ second) =
      stepsOf config events emitted first ++
        stepsOf config events (emitted + first.length) second := by
  simp [stepsOf, List.zipIdx_append]

theorem stepsOf_cons (config : SegmentConfig) (events : List Event) (emitted : Nat)
    (o : Occurrence) (rest : List Occurrence) :
    stepsOf config events emitted (o :: rest) =
      o.1.toStep (emitted + 1) (o.1.stepType config (events.take o.2)) ::
        stepsOf config events (emitted + 1) rest := rfl

def stepId (number : Nat) : String := "step-" ++ toString number

theorem id_stepsOf (config : SegmentConfig) (events : List Event) (emitted : Nat)
    (sources : List Occurrence) (i : Nat)
    (h : i < (stepsOf config events emitted sources).length) :
    (stepsOf config events emitted sources)[i].id = stepId (emitted + i + 1) := by
  simp only [stepsOf, List.getElem_map, List.getElem_zipIdx]
  rfl

/-! ### What a step says of its event -/

/-- Types of events, each with the type of the steps that come of them. The others can become steps
of several types. -/
def plainSteps : List (EventType × StepType) :=
  [(.input, .input), (.change, .change), (.navigate, .navigate), (.focus, .focus)]

/-- What a step says of the event that it comes from, besides its number. -/
structure Step.TellsOf (step : Step) (event : Event) : Prop where
  plain : ∀ type, (event.type, type) ∈ plainSteps → step.type = type
  /-- A navigation concerns the page and leads to the URL. -/
  page : event.type = .navigate →
    step.selectors = .page ∧ step.effect = (filled event.url).map fun url => ⟨some url, none⟩
  element : event.type ≠ .navigate → step.selectors = event.selectors ∧ step.effect = none
  precondition : step.precondition = (filled event.url).map fun url => ⟨some url⟩
  entered : event.type = .input ∨ event.type = .change →
    step.params = some (Table.single "value" (.text ((event.target.bind (·.value)).getD "")))
  pressed : event.type = .keydown → step.params = some (Table.single "key" (.text "Enter"))
  bare : event.type ∉ [.input, .change, .keydown] → step.params = none

theorem Event.stepType_of_plain (config : SegmentConfig) (past : List Event) {event : Event}
    {type : StepType} (h : (event.type, type) ∈ plainSteps) :
    event.stepType config past = type := by
  simp only [plainSteps, List.mem_cons, List.not_mem_nil, or_false, Prod.mk.injEq] at h
  rcases h with ⟨htype, rfl⟩ | ⟨htype, rfl⟩ | ⟨htype, rfl⟩ | ⟨htype, rfl⟩ <;>
    simp [stepType, baseType, htype, EventType.isTerminal]

theorem Event.tellsOf_toStep (event : Event) (config : SegmentConfig) (past : List Event)
    (number : Nat) : (event.toStep number (event.stepType config past)).TellsOf event where
  plain _ hplain := event.stepType_of_plain config past hplain
  page hnavigate := by
    rw [toStep, if_pos hnavigate, if_pos hnavigate, pageUrl?, observed_eq_filled]
    exact ⟨rfl, rfl⟩
  element hother := by
    rw [toStep, if_neg hother, if_neg hother]
    exact ⟨rfl, rfl⟩
  precondition := by
    rw [toStep, pageUrl?, observed_eq_filled]
  entered htype := by
    rcases htype with htype | htype
    · simp only [toStep, params?, htype, enteredText]
    · simp only [toStep, params?, htype, enteredText]
  pressed htype := by simp only [toStep, params?, htype]
  bare htype := by
    simp only [toStep, params?]
    split <;> simp_all

theorem forall₂_tellsOf_stepsOf (config : SegmentConfig) (events : List Event) (emitted : Nat)
    (sources : List Occurrence) :
    List.Forall₂ (fun step o => step.TellsOf o.1) (stepsOf config events emitted sources)
      sources := by
  induction sources generalizing emitted with
  | nil => exact .nil
  | cons o rest ih =>
      rw [stepsOf_cons]
      exact .cons (o.1.tellsOf_toStep config _ _) (ih _)

/-- The survivors of a block by their fields. -/
def heldBack (entries : List Occurrence) : List (String × Event) :=
  (Block.survivors entries).map fun o => (o.1.fieldKey?.getD "", o.1)

namespace Segmenter

/-- The segmenter after `past`, when `entries` are the text entries since the last cut. -/
def after (config : SegmentConfig) (past : List Event) (entries : List Occurrence)
    (emitted : Nat) : Segmenter :=
  ⟨heldBack entries, recentWindow config.windowSize past, emitted⟩

theorem after_nil (config : SegmentConfig) : after config [] [] 0 = start config := by
  simp [after, start, heldBack, Block.survivors, recentWindow_nil]

theorem without_heldBack (key : String) (entries : List Occurrence) :
    without key (heldBack entries) =
      ((Block.survivors entries).filter fun o => some key ≠ o.1.fieldKey?).map fun o =>
        (o.1.fieldKey?.getD "", o.1) := by
  rw [without, heldBack, List.filter_map]
  congr 1
  apply List.filter_congr
  intro o ho
  obtain ⟨other, hother⟩ := Option.isSome_iff_exists.mp (Block.mem_survivors ho).2
  simp [hother, eq_comm]

theorem without_eq_self {key : String} {pending : List (String × Event)}
    (h : ¬pending.any (·.1 = key)) : without key pending = pending := by
  rw [without, List.filter_eq_self]
  intro entry hentry
  simp only [List.any_eq_true, not_exists, not_and] at h
  simpa using h entry hentry

/-! ### One operation -/

section Operations

variable {config : SegmentConfig} {past : List Event} {entries : List Occurrence}
  {emitted : Nat} {event : Event}

theorem heldBack_append_input {key : String} (position : Nat) (htype : event.type = .input)
    (hkey : event.fieldKey? = some key) :
    heldBack (entries ++ [(event, position)]) =
      without key (heldBack entries) ++ [(key, event)] := by
  rw [without_heldBack, heldBack, Block.survivors_append_singleton]
  simp [htype, hkey]

theorem heldBack_append_change {key : String} (position : Nat) (htype : event.type = .change)
    (hkey : event.fieldKey? = some key) :
    heldBack (entries ++ [(event, position)]) = without key (heldBack entries) := by
  rw [without_heldBack, heldBack, Block.survivors_append_singleton]
  simp [htype, hkey]

theorem heldBack_append_keyless (position : Nat) (hkey : event.fieldKey? = none) :
    heldBack (entries ++ [(event, position)]) = heldBack entries := by
  have hfilter : ((Block.survivors entries).filter fun earlier =>
      event.fieldKey? ≠ earlier.1.fieldKey?) = Block.survivors entries := by
    apply List.filter_eq_self.mpr
    intro earlier hearlier
    obtain ⟨other, hother⟩ := Option.isSome_iff_exists.mp (Block.mem_survivors hearlier).2
    simp [hkey, hother]
  rw [heldBack, Block.survivors_append_singleton, hfilter]
  simp [hkey, heldBack]

theorem buffer_after {key : String} (position : Nat) (htype : event.type = .input)
    (hkey : event.fieldKey? = some key) :
    (after config past entries emitted).buffer key event =
      after config past (entries ++ [(event, position)]) emitted := by
  rw [buffer, after, after, heldBack_append_input position htype hkey]

theorem supersede_after {key : String} (position index : Nat) (htype : event.type = .change)
    (hkey : event.fieldKey? = some key) :
    ((after config past entries emitted).supersede index key event).1 =
        after config past (entries ++ [(event, position)]) emitted ∧
      ((after config past entries emitted).supersede index key event).2.filterMap
        Decision.step? = [] := by
  have hheld : heldBack (entries ++ [(event, position)]) = without key (heldBack entries) :=
    heldBack_append_change position htype hkey
  rw [supersede]
  split
  · rw [after, after, hheld]
    exact ⟨rfl, rfl⟩
  · next habsent =>
      have hsame : without key (heldBack entries) = heldBack entries := without_eq_self habsent
      rw [after, after, hheld, hsame]
      exact ⟨rfl, rfl⟩

theorem after_append_keyless (position : Nat) (hkey : event.fieldKey? = none) :
    after config past (entries ++ [(event, position)]) emitted =
      after config past entries emitted := by
  rw [after, after, heldBack_append_keyless position hkey]

theorem observe_after (hterminal : ¬event.type.isTerminal) :
    (after config past entries emitted).observe event =
      after config (past ++ [event]) entries emitted := by
  cases hkey : event.fieldKey? with
  | none =>
      have hentry : event.entry? = none := by simp [Event.entry?, hkey]
      simp [observe, after, hkey, recentWindow_append_of_no_entry _ past hterminal hentry]
  | some key =>
      by_cases htype : event.type.isTextEntry
      · have hentry : event.entry? = some ⟨key, event.isPassword⟩ := by
          simp [Event.entry?, hkey, htype]
        simp [observe, after, hkey, htype, recentWindow_append_of_entry _ past hterminal hentry]
      · have hentry : event.entry? = none := by simp [Event.entry?, htype]
        simp [observe, after, hkey, htype, recentWindow_append_of_no_entry _ past hterminal hentry]

theorem observe_of_terminal (s : Segmenter) (hterminal : event.type.isTerminal) :
    s.observe event = s := by
  have htype := EventType.not_isTextEntry_of_isTerminal hterminal
  cases hkey : event.fieldKey? <;> simp [observe, hkey, htype]

theorem terminalType_after (hterminal : event.type.isTerminal) :
    terminalType config (after config past entries emitted) (event.baseType config) =
      event.stepType config past := by
  simp [terminalType, Event.stepType, hterminal, after]

theorem clear_after (hterminal : event.type.isTerminal) :
    { after config past entries emitted with
        window := (after config past entries emitted).window.clear } =
      after config (past ++ [event]) entries emitted := by
  rw [after, after, recentWindow_append_of_terminal _ past hterminal]

theorem emit_after (index : Nat) (type : StepType) :
    (after config past entries emitted).emit index event type =
      (after config past entries (emitted + 1),
        [.emitted index event (event.toStep (emitted + 1) type)]) := rfl

theorem flush_after (index : Nat) :
    ((after config past entries emitted).flush index).1 =
      after config past [] (emitted + (Block.survivors entries).length) := by
  simp [flush, after, heldBack, Block.survivors]

theorem steps_flushEntries (events : List Event) (index : Nat) {sources : List Occurrence}
    (hsources : ∀ o ∈ sources, o.1.type = .input) :
    (flushEntries index emitted (sources.map fun o => (o.1.fieldKey?.getD "", o.1))).filterMap
        Decision.step? =
      stepsOf config events emitted sources := by
  induction sources generalizing emitted with
  | nil => rfl
  | cons o rest ih =>
      have htype : o.1.type = .input := hsources o List.mem_cons_self
      have hstep : o.1.stepType config (events.take o.2) = .input := by
        rw [Event.stepType_of_not_terminal _ _ (by simp [htype, EventType.isTerminal])]
        simp [Event.baseType, htype]
      rw [stepsOf_cons, hstep,
        ← ih fun later hlater => hsources later (List.mem_cons_of_mem _ hlater)]
      rfl

theorem steps_flush_after (events : List Event) (index : Nat) :
    ((after config past entries emitted).flush index).2.filterMap Decision.step? =
      stepsOf config events emitted (Block.survivors entries) :=
  steps_flushEntries events index fun _ ho => (Block.mem_survivors ho).1

end Operations

/-! ### One event -/

section Advance

variable {config : SegmentConfig} {past : List Event} {entries : List Occurrence}
  {emitted : Nat} {event : Event}

theorem advance_input (position index : Nat) (htype : event.type = .input) :
    ((after config past entries emitted).advance config index event).1 =
        after config (past ++ [event]) (entries ++ [(event, position)]) emitted ∧
      ((after config past entries emitted).advance config index event).2.filterMap
        Decision.step? = [] := by
  have hterminal : ¬event.type.isTerminal := by simp [htype, EventType.isTerminal]
  rw [advance, observe_after hterminal]
  cases hkey : event.fieldKey? with
  | none =>
      simp only [htype, after_append_keyless position hkey, true_and]
      rfl
  | some key =>
      simp only [htype, buffer_after position htype hkey, true_and]
      rfl

theorem advance_change (position index : Nat) (htype : event.type = .change) :
    ((after config past entries emitted).advance config index event).1 =
        after config (past ++ [event]) (entries ++ [(event, position)]) (emitted + 1) ∧
      ((after config past entries emitted).advance config index event).2.filterMap
        Decision.step? = [event.toStep (emitted + 1) .change] := by
  have hterminal : ¬event.type.isTerminal := by simp [htype, EventType.isTerminal]
  have hbase : event.baseType config = .change := by simp [Event.baseType, htype]
  rw [advance, observe_after hterminal]
  cases hkey : event.fieldKey? with
  | none =>
      simp only [htype, hbase, emit_after, after_append_keyless position hkey, true_and]
      rfl
  | some key =>
      obtain ⟨hstate, hsteps⟩ :=
        @supersede_after config (past ++ [event]) entries emitted event key position index htype
          hkey
      simp only [htype, hbase, hstate, emit_after, List.filterMap_append, hsteps, true_and]
      rfl

/-- An event other than a text entry closes the block: all that was held back becomes steps, then
the event itself. The end of a form is named for the window before it is cleared. -/
theorem advance_closing (index : Nat) (htype : ¬event.type.isTextEntry) :
    (after config past entries emitted).advance config index event =
      (after config (past ++ [event]) [] (emitted + (Block.survivors entries).length + 1),
        ((after config past entries emitted).flush index).2 ++
          [.emitted index event (event.toStep (emitted + (Block.survivors entries).length + 1)
            (event.stepType config past))]) := by
  by_cases hterminal : event.type.isTerminal
  · rw [advance, observe_of_terminal _ hterminal]
    cases hevent : event.type with
    | submit | keydown =>
        simp only [terminalType_after hterminal, flush_after, clear_after hterminal, emit_after]
    | _ => simp [hevent, EventType.isTerminal] at hterminal
  · rw [advance, observe_after hterminal, Event.stepType_of_not_terminal config past hterminal]
    cases hevent : event.type with
    | click | navigate | focus =>
        simp only [flush_after, emit_after]
        rfl
    | input | change => simp [hevent, EventType.isTextEntry] at htype
    | _ => simp [hevent, EventType.isTerminal] at hterminal

end Advance

/-! ### All events -/

theorem run_cons (config : SegmentConfig) (s : Segmenter) (index : Nat) (event : Event)
    (rest : List Event) :
    run config s index (event :: rest) =
      (s.advance config index event).2 ++
        run config (s.advance config index event).1 (index + 1) rest := rfl

/-- The steps still to come are those of the blocks still to be read; of the block that has been
begun the changes are steps already. -/
theorem steps_run (config : SegmentConfig) (past rest : List Event) (entries : List Occurrence)
    (emitted : Nat) :
    stepsOf config (past ++ rest) emitted
        ((Block.cutFrom entries (rest.zipIdx past.length)).flatMap Block.sources) =
      stepsOf config (past ++ rest) emitted (Block.changes entries) ++
        (run config (after config past entries (emitted + (Block.changes entries).length))
          past.length rest).filterMap Decision.step? := by
  induction rest generalizing past entries emitted with
  | nil =>
      rw [run, steps_flush_after (past ++ [])]
      simp [Block.cutFrom, Block.sources, stepsOf_append]
  | cons event rest ih =>
      have hpast : past ++ event :: rest = (past ++ [event]) ++ rest := by simp
      have hlength : past.length + 1 = (past ++ [event]).length := by simp
      have hnext := ih (past ++ [event])
      rw [← hpast, ← hlength] at hnext
      rw [List.zipIdx_cons, run_cons, List.filterMap_append]
      cases htype : event.type with
      | input =>
          obtain ⟨hstate, hsteps⟩ := @advance_input config past entries
            (emitted + (Block.changes entries).length) event past.length past.length htype
          have hchanges : Block.changes (entries ++ [(event, past.length)]) =
              Block.changes entries := by
            simp [Block.changes_append_singleton, htype]
          rw [Block.cutFrom_cons_of_entry (by simp [htype, EventType.isTextEntry]), hnext, hchanges,
            hstate, hsteps, List.nil_append]
      | change =>
          obtain ⟨hstate, hsteps⟩ := @advance_change config past entries
            (emitted + (Block.changes entries).length) event past.length past.length htype
          have hchanges : Block.changes (entries ++ [(event, past.length)]) =
              Block.changes entries ++ [(event, past.length)] := by
            simp [Block.changes_append_singleton, htype]
          have hstepType : event.stepType config past = .change := by
            rw [Event.stepType_of_not_terminal _ _ (by simp [htype, EventType.isTerminal])]
            simp [Event.baseType, htype]
          rw [Block.cutFrom_cons_of_entry (by simp [htype, EventType.isTextEntry]), hnext, hchanges,
            hstate, hsteps, stepsOf_append]
          simp [stepsOf, hstepType, Nat.add_assoc]
      | _ =>
          have hentry : ¬event.type.isTextEntry := by simp [htype, EventType.isTextEntry]
          rw [Block.cutFrom_cons_of_closing hentry, advance_closing past.length hentry,
            List.filterMap_append, steps_flush_after (past ++ event :: rest), List.flatMap_cons,
            Block.sources, stepsOf_append, stepsOf_append, stepsOf_append, hnext]
          simp [stepsOf, Block.changes, Decision.step?, Nat.add_assoc]

end Segmenter

theorem segment_eq_stepsOf (config : SegmentConfig) (events : List Event) :
    segment config events = stepsOf config events 0 (stepSources events) := by
  have hrun := Segmenter.steps_run config [] events [] 0
  rw [List.nil_append] at hrun
  rw [segment, decisions, ← Segmenter.after_nil]
  exact hrun.symm

theorem nodup_positions_stepSources (events : List Event) :
    ((stepSources events).map Prod.snd).Nodup := by
  have hpositions : (events.zipIdx.map Prod.snd).Nodup := by
    rw [List.zipIdx_map_snd]
    exact List.nodup_range'
  have hkept : (events.zipIdx.filter fun o => !o.1.isLost (events.drop (o.2 + 1))).Sublist
      events.zipIdx := List.filter_sublist
  exact ((stepSources_perm events).map Prod.snd).nodup_iff.mpr
    (hpositions.sublist (hkept.map Prod.snd))

/-- The steps of a recording are those of its blocks in order: of each block the changes, the
surviving inputs and the event that closes it. They are numbered without gaps, and each tells of its
own event. No event is lost but inputs without a field and inputs whose field is touched again
within the block; none is the source of two steps. -/
theorem segment_eq_stepsOf_blocks (config : SegmentConfig) (events : List Event) :
    segment config events = stepsOf config events 0 ((blocks events).flatMap Block.sources) ∧
      (∀ (i : Nat) (h : i < (segment config events).length),
        (segment config events)[i].id = stepId (i + 1)) ∧
      List.Forall₂ (fun step o => step.TellsOf o.1) (segment config events)
        ((blocks events).flatMap Block.sources) ∧
      (stepSources events).Perm
        (events.zipIdx.filter fun o => !o.1.isLost (events.drop (o.2 + 1))) ∧
      ((stepSources events).map Prod.snd).Nodup := by
  have hsteps := segment_eq_stepsOf config events
  refine ⟨hsteps, fun i h => ?_, ?_, stepSources_perm events, nodup_positions_stepSources events⟩
  · simp only [hsteps, id_stepsOf, Nat.zero_add]
  · rw [hsteps]
    exact forall₂_tellsOf_stepsOf config events 0 _

/-- One more letter in a field. -/
def keystroke (field inputType : String) : Event :=
  { (default : Event) with
    type := .input
    target := some { (default : Target) with name := some field, inputType := some inputType } }

def submission : Event := { (default : Event) with type := .submit }

/-- Of two fields one is entered twice, and the other one is changed after it was entered. -/
def travelEvents : List Event :=
  [keystroke "user" "text", keystroke "city" "text",
    { keystroke "city" "text" with type := .change }, keystroke "user" "text",
    { (default : Event) with type := .input }, submission]

theorem segment_of_travelEvents :
    segment .standard travelEvents =
        [({ keystroke "city" "text" with type := .change } : Event).toStep 1 .change,
          (keystroke "user" "text").toStep 2 .input, submission.toStep 3 .fillForm] ∧
      (segment .standard travelEvents).map Step.id = ["step-1", "step-2", "step-3"] ∧
      (stepSources travelEvents).map Prod.snd = [2, 3, 5] := by
  rw [(segment_eq_stepsOf_blocks .standard travelEvents).1]
  decide +kernel

end BrowserFlow
