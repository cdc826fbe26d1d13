import BrowserFlow.Proofs.Segment.Run
import BrowserFlow.Proofs.Segment.Window

/-!
# The end of a form

The step for the end of a form is named after the last text entries before it, as many as the
window holds. Only the end of another form cuts them off; clicks, focus and navigation do not.
-/

namespace BrowserFlow

/-- The text entries with a field since the last end of a form. -/
def formEvents (past : List Event) : List Event :=
  (past.rtakeWhile (!·.type.isTerminal)).filter fun event =>
    event.type.isTextEntry && event.fieldKey?.isSome

/-- The last of them, as many as the window holds. -/
def windowEvents (config : SegmentConfig) (past : List Event) : List Event :=
  (formEvents past).rtake (max config.windowSize 1)

def TouchFields (events : List Event) : Prop :=
  ∃ first ∈ events, ∃ second ∈ events, first.fieldKey? ≠ second.fieldKey?

def EnterPassword (events : List Event) : Prop :=
  ∃ event ∈ events, event.target.bind (·.inputType) = some "password"

instance (events : List Event) : Decidable (TouchFields events) :=
  inferInstanceAs (Decidable (∃ first ∈ events, ∃ second ∈ events, _))

instance (events : List Event) : Decidable (EnterPassword events) :=
  inferInstanceAs (Decidable (∃ event ∈ events, _))

/-! ### The window as events -/

theorem isPassword_iff (event : Event) :
    event.isPassword ↔ event.target.bind (·.inputType) = some "password" := by
  cases htarget : event.target <;> simp [Event.isPassword, Target.isPassword, htarget]

/-- What the window holds of an event. -/
def Event.entered (event : Event) : Entry := ⟨event.fieldKey?.getD "", event.isPassword⟩

theorem entry?_eq_entered (event : Event) :
    event.entry? =
      if event.type.isTextEntry && event.fieldKey?.isSome then some event.entered else none := by
  cases hkey : event.fieldKey? <;> simp [Event.entry?, Event.entered, hkey]

theorem formEntries_eq_map (past : List Event) :
    formEntries past = (formEvents past).map Event.entered := by
  rw [formEntries, formEvents, ← List.filterMap_eq_map, List.filterMap_filter]
  congr 1
  funext event
  exact entry?_eq_entered event

theorem entries_recentWindow (config : SegmentConfig) (past : List Event) :
    (recentWindow config.windowSize past).entries =
      (windowEvents config past).map Event.entered := by
  rw [recentWindow, formEntries_eq_map, windowEvents, List.rtake, List.rtake, List.length_map,
    List.map_drop]

theorem fieldKey?_isSome_of_mem_windowEvents {config : SegmentConfig} {past : List Event}
    {event : Event} (h : event ∈ windowEvents config past) : event.fieldKey?.isSome := by
  have hform : event ∈ formEvents past := List.mem_of_mem_drop h
  have hentry := (List.mem_filter.mp hform).2
  exact (Bool.and_eq_true_iff.mp hentry).2

theorem distinctFields_recentWindow_lt_two_iff (config : SegmentConfig) (past : List Event) :
    (recentWindow config.windowSize past).distinctFields < 2 ↔
      ¬TouchFields (windowEvents config past) := by
  have hkeys : ∀ first ∈ windowEvents config past, ∀ second ∈ windowEvents config past,
      (first.entered.fieldKey = second.entered.fieldKey ↔ first.fieldKey? = second.fieldKey?) := by
    intro first hfirst second hsecond
    obtain ⟨key, hkey⟩ :=
      Option.isSome_iff_exists.mp (fieldKey?_isSome_of_mem_windowEvents hfirst)
    obtain ⟨other, hother⟩ :=
      Option.isSome_iff_exists.mp (fieldKey?_isSome_of_mem_windowEvents hsecond)
    simp [Event.entered, hkey, hother]
  rw [InputWindow.distinctFields_lt_two_iff, entries_recentWindow, TouchFields]
  simp only [List.forall_mem_map, not_exists, not_and, not_not]
  exact forall₂_congr fun first hfirst => forall₂_congr fun second hsecond =>
    hkeys first hfirst second hsecond

theorem any_isPassword_recentWindow_iff (config : SegmentConfig) (past : List Event) :
    (recentWindow config.windowSize past).entries.any (·.isPassword) ↔
      EnterPassword (windowEvents config past) := by
  rw [entries_recentWindow, List.any_map, List.any_eq_true, EnterPassword]
  exact exists_congr fun event => and_congr_right fun _ => isPassword_iff event

/-! ### The name of the end -/

section Name

variable {config : SegmentConfig} {past : List Event} {event : Event}
  (hterminal : event.type.isTerminal)

include hterminal

theorem stepType_of_unclassified (h : config.classify = false) :
    event.stepType config past = event.type.plainEnd := by
  rw [Event.stepType, h, Bool.false_and, if_neg Bool.false_ne_true,
    baseType_of_terminal config hterminal]

theorem stepType_of_classified (h : config.classify = true) :
    event.stepType config past =
      (recentWindow config.windowSize past).terminalType event.type.plainEnd := by
  rw [Event.stepType, h, hterminal, Bool.true_and, if_pos rfl,
    baseType_of_terminal config hterminal]

theorem stepType_cases (h : config.classify = true) :
    (¬TouchFields (windowEvents config past) ∧
        event.stepType config past = event.type.plainEnd) ∨
      (TouchFields (windowEvents config past) ∧ EnterPassword (windowEvents config past) ∧
        event.stepType config past = .login) ∨
      (TouchFields (windowEvents config past) ∧ ¬EnterPassword (windowEvents config past) ∧
        event.stepType config past = .fillForm) := by
  have hfields := distinctFields_recentWindow_lt_two_iff config past
  have hpassword := any_isPassword_recentWindow_iff config past
  rw [stepType_of_classified hterminal h, InputWindow.terminalType]
  split_ifs with hfew hany
  · exact .inl ⟨hfields.mp hfew, rfl⟩
  · exact .inr (.inl ⟨not_not.mp (mt hfields.mpr hfew), hpassword.mp hany, rfl⟩)
  · exact .inr (.inr ⟨not_not.mp (mt hfields.mpr hfew), mt hpassword.mpr hany, rfl⟩)

theorem stepType_eq_login_iff (h : config.classify = true) :
    event.stepType config past = .login ↔
      TouchFields (windowEvents config past) ∧ EnterPassword (windowEvents config past) := by
  rcases stepType_cases hterminal h with
    ⟨hfields, htype⟩ | ⟨hfields, hpassword, htype⟩ | ⟨hfields, hpassword, htype⟩
  · exact iff_of_false (htype ▸ plainEnd_ne (by decide)) fun hform => hfields hform.1
  · exact iff_of_true htype ⟨hfields, hpassword⟩
  · exact iff_of_false (by simp [htype]) fun hform => hpassword hform.2

theorem stepType_eq_fillForm_iff (h : config.classify = true) :
    event.stepType config past = .fillForm ↔
      TouchFields (windowEvents config past) ∧ ¬EnterPassword (windowEvents config past) := by
  rcases stepType_cases hterminal h with
    ⟨hfields, htype⟩ | ⟨hfields, hpassword, htype⟩ | ⟨hfields, hpassword, htype⟩
  · exact iff_of_false (htype ▸ plainEnd_ne (by decide)) fun hform => hfields hform.1
  · exact iff_of_false (by simp [htype]) fun hform => hform.2 hpassword
  · exact iff_of_true htype ⟨hfields, hpassword⟩

theorem stepType_of_one_field (h : config.classify = true)
    (hone : ¬TouchFields (windowEvents config past)) :
    event.stepType config past = event.type.plainEnd := by
  rcases stepType_cases hterminal h with ⟨-, htype⟩ | ⟨hfields, -⟩ | ⟨hfields, -⟩
  · exact htype
  · exact absurd hfields hone
  · exact absurd hfields hone

end Name

/-! ### The step for the end -/

/-- The end of a form becomes one step, whatever comes after it. -/
theorem exists_emittedAt_of_terminal (config : SegmentConfig) (past rest : List Event)
    {event : Event} (hterminal : event.type.isTerminal) :
    ∃ number, (decisions config (past ++ event :: rest)).filterMap
        (Decision.emittedAt? past.length) = [event.toStep number (event.stepType config past)] ∧
      event.toStep number (event.stepType config past) ∈
        segment config (past ++ event :: rest) := by
  obtain ⟨earlier, entries, emitted, hearlier, hdecisions⟩ := exists_decisions_append config past
  have hentry := EventType.not_isTextEntry_of_isTerminal hterminal
  have hbefore : earlier.filterMap (Decision.emittedAt? past.length) = [] := by
    rw [List.filterMap_eq_nil_iff]
    exact fun decision hmem => Decision.emittedAt?_of_index_ne (hearlier decision hmem).ne
  have hflushed : ∀ s : Segmenter, (s.flush past.length).2.filterMap
      (Decision.emittedAt? past.length) = [] := by
    intro s
    rw [List.filterMap_eq_nil_iff]
    exact fun decision hmem => (Segmenter.index_of_mem_flushEntries hmem).2 past.length
  have hlater : ∀ s : Segmenter, (s.run config (past.length + 1) rest).filterMap
      (Decision.emittedAt? past.length) = [] := by
    intro s
    rw [List.filterMap_eq_nil_iff]
    exact fun decision hmem =>
      Decision.emittedAt?_of_index_ne (Nat.ne_of_gt (Segmenter.index_of_mem_run hmem))
  refine ⟨emitted + (Block.survivors entries).length + 1, ?_, ?_⟩
  · rw [hdecisions, Segmenter.run_cons, Segmenter.advance_closing past.length hentry,
      List.filterMap_append, List.filterMap_append, List.filterMap_append, hbefore, hflushed,
      hlater]
    simp [Decision.emittedAt?]
  · rw [segment, hdecisions, Segmenter.run_cons, Segmenter.advance_closing past.length hentry,
      List.mem_filterMap]
    refine ⟨.emitted past.length event (event.toStep _ (event.stepType config past)), ?_, rfl⟩
    simp

/-- The step that a submission or a key press becomes is a login when the last text entries since
the one before touch two fields and enter a password, the end of a form when they touch two fields
and enter none, and otherwise, or without classification, just what it is. -/
theorem terminal_step_type (config : SegmentConfig) (past rest : List Event) {event : Event}
    (hterminal : event.type.isTerminal) :
    ∃ number step,
      (decisions config (past ++ event :: rest)).filterMap (Decision.emittedAt? past.length) =
          [step] ∧
        step ∈ segment config (past ++ event :: rest) ∧
        step = event.toStep number step.type ∧
        (config.classify = true →
          (step.type = .login ↔
              TouchFields (windowEvents config past) ∧ EnterPassword (windowEvents config past)) ∧
            (step.type = .fillForm ↔
              TouchFields (windowEvents config past) ∧
                ¬EnterPassword (windowEvents config past)) ∧
            (¬TouchFields (windowEvents config past) → step.type = event.type.plainEnd)) ∧
        (config.classify = false → step.type = event.type.plainEnd) := by
  obtain ⟨number, hemitted, hmem⟩ := exists_emittedAt_of_terminal config past rest hterminal
  refine ⟨number, event.toStep number (event.stepType config past), hemitted, hmem, rfl,
    fun h => ?_, ?_⟩
  · exact ⟨stepType_eq_login_iff hterminal h, stepType_eq_fillForm_iff hterminal h,
      stepType_of_one_field hterminal h⟩
  · exact stepType_of_unclassified hterminal

/-- A user and a password are entered, with a look at something else in between. -/
theorem submission_of_login :
    ∃ number step,
      (decisions .standard ([keystroke "user" "text", { (default : Event) with type := .focus },
        keystroke "password" "password"] ++ [submission])).filterMap (Decision.emittedAt? 3) =
          [step] ∧
        step.type = .login ∧ step = submission.toStep number .login := by
  obtain ⟨number, step, hemitted, -, hstep, hclassified, -⟩ :=
    @terminal_step_type .standard [keystroke "user" "text",
      { (default : Event) with type := .focus }, keystroke "password" "password"] [] submission rfl
  have hlogin : step.type = .login := (hclassified rfl).1.mpr (by decide)
  rw [hlogin] at hstep
  exact ⟨number, step, hemitted, hlogin, hstep⟩

end BrowserFlow
