import BrowserFlow.Proofs.Segment.Terminal

/-!
# A form ended is a fresh start

Steps are numbered as they come: what they are apart from their numbers depends on what is held back
and on the window, and on nothing else. The end of a form leaves nothing held back and the window
empty, so the events after it become the steps of a recording of their own, numbered on.
-/

namespace BrowserFlow

/-- The same steps, numbered from `offset + 1` on. -/
def renumbered (offset : Nat) (steps : List Step) : List Step :=
  steps.mapIdx fun i step => { step with id := stepId (offset + i + 1) }

/-- The steps of these events, of these types, when `emitted` steps came before them. -/
def numbered (emitted : Nat) (sources : List (Event × StepType)) : List Step :=
  sources.mapIdx fun i (event, type) => event.toStep (emitted + i + 1) type

theorem numbered_cons (emitted : Nat) (event : Event) (type : StepType)
    (rest : List (Event × StepType)) :
    numbered emitted ((event, type) :: rest) =
      event.toStep (emitted + 1) type :: numbered (emitted + 1) rest := by
  simp [numbered, List.mapIdx_cons, Nat.add_assoc, Nat.add_comm 1]

theorem numbered_append (emitted : Nat) (first second : List (Event × StepType)) :
    numbered emitted (first ++ second) =
      numbered emitted first ++ numbered (emitted + first.length) second := by
  simp [numbered, List.mapIdx_append, Nat.add_assoc, Nat.add_comm first.length]

theorem length_numbered (emitted : Nat) (sources : List (Event × StepType)) :
    (numbered emitted sources).length = sources.length :=
  List.length_mapIdx

theorem id_numbered (emitted : Nat) (sources : List (Event × StepType)) (i : Nat)
    (h : i < (numbered emitted sources).length) :
    (numbered emitted sources)[i].id = stepId (emitted + i + 1) := by
  simp only [numbered, List.getElem_mapIdx]
  rfl

theorem renumbered_numbered (offset emitted : Nat) (sources : List (Event × StepType)) :
    renumbered offset (numbered emitted sources) = numbered offset sources := by
  rw [renumbered, numbered, List.mapIdx_mapIdx]
  rfl

namespace Segmenter

theorem steps_flushEntries_eq_numbered (index emitted : Nat) (pending : List (String × Event)) :
    (flushEntries index emitted pending).filterMap Decision.step? =
      numbered emitted (pending.map fun entry => (entry.2, .input)) := by
  induction pending generalizing emitted with
  | nil => rfl
  | cons entry pending ih =>
      rw [List.map_cons, numbered_cons, ← ih]
      rfl

theorem exists_observe (pending : List (String × Event)) (window : InputWindow) (event : Event) :
    ∃ window', ∀ emitted,
      observe ⟨pending, window, emitted⟩ event = ⟨pending, window', emitted⟩ := by
  cases hkey : event.fieldKey? with
  | none => exact ⟨window, fun emitted => by simp [observe, hkey]⟩
  | some key =>
      by_cases htype : event.type.isTextEntry
      · exact ⟨window.push ⟨key, event.isPassword⟩, fun emitted => by simp [observe, hkey, htype]⟩
      · exact ⟨window, fun emitted => by simp [observe, hkey, htype]⟩

theorem exists_supersede (pending : List (String × Event)) (window : InputWindow) (key : String)
    (event : Event) :
    ∃ pending', ∀ emitted index,
      (supersede ⟨pending, window, emitted⟩ index key event).1 = ⟨pending', window, emitted⟩ ∧
        (supersede ⟨pending, window, emitted⟩ index key event).2.filterMap Decision.step? = [] := by
  by_cases hheld : pending.any (·.1 = key)
  · exact ⟨without key pending, fun emitted index => by simp [supersede, hheld, Decision.step?]⟩
  · exact ⟨pending, fun emitted index => by simp [supersede, hheld]⟩

theorem steps_flush_emit (pending : List (String × Event)) (window : InputWindow)
    (emitted index : Nat) (event : Event) (type : StepType) :
    ((flush ⟨pending, window, emitted⟩ index).2 ++
        [Decision.emitted index event (event.toStep (emitted + pending.length + 1) type)]).filterMap
          Decision.step? =
      numbered emitted (pending.map (fun entry => (entry.2, .input)) ++ [(event, type)]) := by
  rw [List.filterMap_append, flush, steps_flushEntries_eq_numbered, numbered_append,
    List.length_map]
  rfl

section Advance

variable (config : SegmentConfig) (pending : List (String × Event)) (window : InputWindow)
  (event : Event)

/-- However many steps came before, this event leads to the same pending entries and window, and
adds the steps of the same sources. -/
def Advances (pending' : List (String × Event)) (window' : InputWindow)
    (sources : List (Event × StepType)) : Prop :=
  ∀ emitted index,
    (advance config ⟨pending, window, emitted⟩ index event).1 =
        ⟨pending', window', emitted + sources.length⟩ ∧
      (advance config ⟨pending, window, emitted⟩ index event).2.filterMap Decision.step? =
        numbered emitted sources

variable {config pending window event}

theorem advances_of_flush (observed window' : InputWindow) (type : StepType)
    (h : ∀ emitted index, advance config ⟨pending, window, emitted⟩ index event =
      (⟨[], window', emitted + pending.length + 1⟩,
        (flush ⟨pending, observed, emitted⟩ index).2 ++
          [.emitted index event (event.toStep (emitted + pending.length + 1) type)])) :
    Advances config pending window event [] window'
      (pending.map (fun entry => (entry.2, .input)) ++ [(event, type)]) := by
  intro emitted index
  rw [h, steps_flush_emit, List.length_append, List.length_map]
  exact ⟨rfl, rfl⟩

variable (config pending window event)

theorem exists_advances :
    ∃ pending' window' sources, Advances config pending window event pending' window' sources := by
  obtain ⟨observed, hobserve⟩ := exists_observe pending window event
  cases htype : event.type with
  | input =>
      cases hkey : event.fieldKey? with
      | none =>
          refine ⟨pending, observed, [], fun emitted index => ?_⟩
          simp only [advance, hobserve, htype, hkey]
          exact ⟨rfl, rfl⟩
      | some key =>
          refine ⟨without key pending ++ [(key, event)], observed, [], fun emitted index => ?_⟩
          simp only [advance, hobserve, htype, hkey]
          exact ⟨rfl, rfl⟩
  | change =>
      cases hkey : event.fieldKey? with
      | none =>
          refine ⟨pending, observed, [(event, event.baseType config)], fun emitted index => ?_⟩
          simp only [advance, hobserve, htype, hkey]
          exact ⟨rfl, rfl⟩
      | some key =>
          obtain ⟨left, hleft⟩ := exists_supersede pending observed key event
          refine ⟨left, observed, [(event, event.baseType config)], fun emitted index => ?_⟩
          obtain ⟨hstate, hsteps⟩ := hleft emitted index
          simp only [advance, hobserve, htype, hkey, hstate, List.filterMap_append, hsteps]
          exact ⟨rfl, rfl⟩
  | submit | keydown =>
      refine ⟨[], observed.clear, _, advances_of_flush observed observed.clear
        (terminalType config ⟨pending, observed, 0⟩ (event.baseType config))
        fun emitted index => ?_⟩
      simp only [advance, hobserve, htype]
      rfl
  | click | navigate | focus =>
      refine ⟨[], observed, _,
        advances_of_flush observed observed (event.baseType config) fun emitted index => ?_⟩
      simp only [advance, hobserve, htype]
      rfl

end Advance

theorem exists_read_numbered (config : SegmentConfig) (events : List Event)
    (pending : List (String × Event)) (window : InputWindow) :
    ∃ pending' window' sources, ∀ emitted index,
      (read config ⟨pending, window, emitted⟩ index events).1 =
          ⟨pending', window', emitted + sources.length⟩ ∧
        (read config ⟨pending, window, emitted⟩ index events).2.filterMap Decision.step? =
          numbered emitted sources := by
  induction events generalizing pending window with
  | nil => exact ⟨pending, window, [], fun _ _ => ⟨rfl, rfl⟩⟩
  | cons event events ih =>
      obtain ⟨pending', window', sources, hadvance⟩ := exists_advances config pending window event
      obtain ⟨pending'', window'', later, hlater⟩ := ih pending' window'
      refine ⟨pending'', window'', sources ++ later, fun emitted index => ?_⟩
      obtain ⟨hnext, hsteps⟩ := hadvance emitted index
      obtain ⟨hlast, hrest⟩ := hlater (emitted + sources.length) (index + 1)
      rw [read_cons, hnext, List.filterMap_append, hsteps, hrest, hlast, numbered_append,
        List.length_append, Nat.add_assoc]
      exact ⟨rfl, rfl⟩

theorem exists_stepsFrom_numbered (config : SegmentConfig) (events : List Event)
    (pending : List (String × Event)) (window : InputWindow) :
    ∃ sources, ∀ emitted,
      stepsFrom config ⟨pending, window, emitted⟩ events = numbered emitted sources := by
  obtain ⟨pending', window', sources, hread⟩ := exists_read_numbered config events pending window
  refine ⟨sources ++ pending'.map (fun entry => (entry.2, .input)), fun emitted => ?_⟩
  obtain ⟨hlast, hsteps⟩ := hread emitted 0
  have hrun := run_append config ⟨pending, window, emitted⟩ 0 events []
  rw [List.append_nil, hlast] at hrun
  rw [stepsFrom, hrun, List.filterMap_append, hsteps, numbered_append, run, flush,
    steps_flushEntries_eq_numbered]

theorem read_append (config : SegmentConfig) (s : Segmenter) (index : Nat)
    (events rest : List Event) :
    (read config s index (events ++ rest)).1 =
      (read config (read config s index events).1 (index + events.length) rest).1 := by
  induction events generalizing s index with
  | nil => rfl
  | cons event events ih =>
      rw [List.cons_append, read_cons, ih, read_cons, List.length_cons, Nat.add_right_comm,
        ← Nat.add_assoc]

/-- The end of a form leaves the segmenter as it was at the start, but for the count of steps. -/
theorem exists_read_of_terminal (config : SegmentConfig) (past : List Event) {closing : Event}
    (h : closing.type.isTerminal) :
    ∃ emitted, (read config (start config) 0 (past ++ [closing])).1 =
      ⟨[], .ofSize config.windowSize, emitted⟩ := by
  obtain ⟨entries, emitted, hpast⟩ := exists_read_after config [] 0 [] 0 past
  rw [List.nil_append, after_nil] at hpast
  refine ⟨emitted + (Block.survivors entries).length + 1, ?_⟩
  rw [read_append, hpast, read_cons,
    advance_closing _ (EventType.not_isTextEntry_of_isTerminal h)]
  exact after_append_of_terminal config [] _ h

end Segmenter

theorem segment_eq_stepsFrom (config : SegmentConfig) (events : List Event) :
    segment config events =
      Segmenter.stepsFrom config ⟨[], .ofSize config.windowSize, 0⟩ events := rfl

/-- After the end of a form the steps are those of the remaining events alone, numbered on. -/
theorem segment_append_of_terminal (config : SegmentConfig) (first second : List Event)
    (h : ∃ closing ∈ first.getLast?, closing.type.isTerminal) :
    segment config (first ++ second) =
        segment config first ++
          renumbered (segment config first).length (segment config second) ∧
      ∀ (i : Nat) (hi : i < (segment config second).length),
        (segment config second)[i].id = stepId (i + 1) := by
  obtain ⟨closing, hlast, hclosing⟩ := h
  obtain ⟨past, rfl⟩ := List.getLast?_eq_some_iff.mp hlast
  obtain ⟨pending, window, sources, hread⟩ := Segmenter.exists_read_numbered config
    (past ++ [closing]) [] (.ofSize config.windowSize)
  obtain ⟨hstate, hsteps⟩ := hread 0 0
  obtain ⟨emitted, hreset⟩ := Segmenter.exists_read_of_terminal config past hclosing
  -- The segmenter after `first` is known twice: as a count of steps and as a fresh start.
  rw [Nat.zero_add] at hstate
  rw [Segmenter.start, hstate] at hreset
  rw [hreset] at hstate
  obtain ⟨later, hlater⟩ := Segmenter.exists_stepsFrom_numbered config second []
    (.ofSize config.windowSize)
  have hrun : ∀ rest, segment config (past ++ [closing] ++ rest) =
      numbered 0 sources ++
        Segmenter.stepsFrom config ⟨[], .ofSize config.windowSize, emitted⟩ rest := by
    intro rest
    rw [segment_eq_stepsFrom, Segmenter.stepsFrom, Segmenter.run_append, List.filterMap_append,
      hsteps, hstate, Segmenter.steps_run_eq_stepsFrom]
  have hfirst : segment config (past ++ [closing]) = numbered 0 sources := by
    have hnil := hrun []
    rw [List.append_nil] at hnil
    rw [hnil]
    exact List.append_nil _
  have hcount : emitted = sources.length := (congrArg Segmenter.emitted hreset).symm
  have hsecond : segment config second = numbered 0 later := hlater 0
  refine ⟨?_, fun i hi => ?_⟩
  · rw [hrun, hlater, hfirst, hsecond, length_numbered, renumbered_numbered, hcount]
  · simp only [hsecond, id_numbered, Nat.zero_add]

/-- A login, and then a search of one field: the password of the first form is not seen there. -/
theorem segment_login_then_search :
    segment .standard ([keystroke "user" "text", keystroke "password" "password", submission] ++
        [keystroke "query" "text", submission]) =
      [(keystroke "user" "text").toStep 1 .input,
        (keystroke "password" "password").toStep 2 .input, submission.toStep 3 .login,
        (keystroke "query" "text").toStep 4 .input, submission.toStep 5 .submit] := by
  rw [(segment_append_of_terminal .standard
    [keystroke "user" "text", keystroke "password" "password", submission]
    [keystroke "query" "text", submission] ⟨submission, rfl, rfl⟩).1]
  decide +kernel

end BrowserFlow
