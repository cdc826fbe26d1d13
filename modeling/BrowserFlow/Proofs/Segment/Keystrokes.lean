import BrowserFlow.Proofs.Segment.Terminal

/-!
# Repeated keystrokes

A field that is typed into gives an entry for each letter. Only the last one becomes a step, so a
letter less leaves all steps as they are but the next end of a form. The window counts letters: one
more can push an older field out of it, or a password, and then the end is named after less.
-/

namespace BrowserFlow

/-- Two letters in one field. -/
structure Event.SameField (first second : Event) : Prop where
  first_type : first.type = .input
  second_type : second.type = .input
  fieldKey : first.fieldKey? = second.fieldKey?
  inputType : first.target.bind (·.inputType) = second.target.bind (·.inputType)

namespace Event.SameField

variable {first second : Event} (h : first.SameField second)

include h

theorem entry?_eq : first.entry? = second.entry? := by
  have hpassword : first.isPassword = second.isPassword := by
    rw [Bool.eq_iff_iff, isPassword_iff, isPassword_iff, h.inputType]
  rw [Event.entry?, Event.entry?, h.first_type, h.second_type, h.fieldKey, hpassword]

theorem not_terminal_first : ¬first.type.isTerminal := by
  simp [h.first_type, EventType.isTerminal]

theorem not_terminal_second : ¬second.type.isTerminal := by
  simp [h.second_type, EventType.isTerminal]

/-! ### The steps -/

/-- The second letter takes the place of the first one. -/
theorem survivors_eq (entries : List Occurrence) (p q : Nat) :
    Block.survivors (entries ++ [(first, p)] ++ [(second, q)]) =
      Block.survivors (entries ++ [(second, q)]) := by
  have hreplaced : (if first.type = .input ∧ first.fieldKey?.isSome then [(first, p)] else []).filter
      (fun earlier : Occurrence => second.fieldKey? ≠ earlier.1.fieldKey?) = [] := by
    split_ifs
    · simp [h.fieldKey]
    · rfl
  rw [Block.survivors_append_singleton (entries ++ [(first, p)]),
    Block.survivors_append_singleton entries (first, p), List.filter_append, hreplaced,
    List.append_nil, List.filter_filter, h.fieldKey,
    Block.survivors_append_singleton entries (second, q)]
  simp only [Bool.and_self]

end Event.SameField

theorem Segmenter.stepsFrom_input (config : SegmentConfig) (past : List Event)
    (entries : List Occurrence) (emitted position : Nat) {event : Event} (h : event.type = .input)
    (rest : List Event) :
    (after config past entries emitted).stepsFrom config (event :: rest) =
      (after config (past ++ [event]) (entries ++ [(event, position)]) emitted).stepsFrom config
        rest := by
  obtain ⟨hnext, hsteps⟩ := @advance_input config past entries emitted event position 0 h
  rw [stepsFrom_cons, hnext, hsteps, List.nil_append]

/-- After both letters the segmenter differs from the one after the second alone in the history of
its window. -/
theorem Event.SameField.exists_segment {first second : Event} (h : first.SameField second)
    (config : SegmentConfig) (before : List Event) :
    ∃ lead entries emitted, ∀ rest,
      segment config (before ++ first :: second :: rest) =
          lead ++ (Segmenter.after config (before ++ [first, second]) entries emitted).stepsFrom
            config rest ∧
        segment config (before ++ second :: rest) =
          lead ++ (Segmenter.after config (before ++ [second]) entries emitted).stepsFrom
            config rest := by
  obtain ⟨lead, entries, emitted, hsegment⟩ := exists_segment_append config before
  refine ⟨lead, entries ++ [(second, 0)], emitted, fun rest => ⟨?_, ?_⟩⟩
  · rw [hsegment, Segmenter.stepsFrom_input _ _ _ _ 0 h.first_type,
      Segmenter.stepsFrom_input _ _ _ _ 0 h.second_type, Segmenter.after, heldBack,
      h.survivors_eq, ← heldBack, ← Segmenter.after, List.append_assoc, List.singleton_append]
  · rw [hsegment, Segmenter.stepsFrom_input _ _ _ _ 0 h.second_type]

/-! ### The name of the next end -/

theorem formEntries_append_of_no_terminal (past : List Event) {events : List Event}
    (h : ∀ event ∈ events, ¬event.type.isTerminal) :
    formEntries (past ++ events) = formEntries past ++ formEntries events := by
  induction events using List.reverseRecOn with
  | nil => simp [formEntries]
  | append_singleton events event ih =>
      have hevent : ¬event.type.isTerminal := h event (by simp)
      have hevents : ∀ event ∈ events, ¬event.type.isTerminal :=
        fun other hother => h other (List.mem_append_left _ hother)
      rw [← List.append_assoc, formEntries_append _ hevent, formEntries_append _ hevent,
        ih hevents, List.append_assoc]

namespace Event.SameField

variable {first second : Event} (h : first.SameField second) (config : SegmentConfig)
  (before : List Event) {middle : List Event}
  (hmiddle : ∀ event ∈ middle, ¬event.type.isTerminal)

include h hmiddle

theorem formEntries_twice :
    formEntries (before ++ first :: second :: middle) =
      formEntries before ++
        (second.entry?.toList ++ (second.entry?.toList ++ formEntries middle)) := by
  have hsplit : before ++ first :: second :: middle = before ++ [first] ++ [second] ++ middle := by
    simp
  rw [hsplit, formEntries_append_of_no_terminal _ hmiddle,
    formEntries_append _ h.not_terminal_second, formEntries_append _ h.not_terminal_first,
    h.entry?_eq, List.append_assoc, List.append_assoc]

theorem formEntries_once :
    formEntries (before ++ second :: middle) =
      formEntries before ++ (second.entry?.toList ++ formEntries middle) := by
  have hsplit : before ++ second :: middle = before ++ [second] ++ middle := by simp
  rw [hsplit, formEntries_append_of_no_terminal _ hmiddle,
    formEntries_append _ h.not_terminal_second, List.append_assoc]

theorem entries_subset :
    (recentWindow config.windowSize (before ++ first :: second :: middle)).entries ⊆
      (recentWindow config.windowSize (before ++ second :: middle)).entries := by
  rw [recentWindow, recentWindow, h.formEntries_twice before hmiddle,
    h.formEntries_once before hmiddle]
  cases second.entry? with
  | none => exact List.Subset.refl _
  | some entry => exact rtake_twice_subset (formEntries before) (formEntries middle) entry _

/-- The extra letter is no longer in the window, or takes nobody's place. -/
theorem recentWindow_eq_of_later
    (hlater : config.windowSize ≤ (formEntries middle).length + 1) :
    recentWindow config.windowSize (before ++ first :: second :: middle) =
      recentWindow config.windowSize (before ++ second :: middle) := by
  have hcapacity : max config.windowSize 1 ≤ (formEntries middle).length + 1 := by omega
  rw [recentWindow, recentWindow, h.formEntries_twice before hmiddle,
    h.formEntries_once before hmiddle]
  cases second.entry? with
  | none => rfl
  | some entry =>
      exact congrArg (InputWindow.mk _)
        (rtake_twice_of_le (formEntries before) (formEntries middle) entry hcapacity)

theorem entries_subset_of_room
    (hroom : (formEntries (before ++ first :: second :: middle)).length ≤ max config.windowSize 1) :
    (recentWindow config.windowSize (before ++ second :: middle)).entries ⊆
      (recentWindow config.windowSize (before ++ first :: second :: middle)).entries := by
  rw [recentWindow, recentWindow, rtake_eq_self hroom, h.formEntries_twice before hmiddle,
    h.formEntries_once before hmiddle]
  intro entry hentry
  have hmem := List.mem_of_mem_drop hentry
  simp only [List.mem_append] at hmem ⊢
  tauto

/-- The end can be named after less for the extra letter, never after more. -/
theorem formRank_le {closing : Event} (hclosing : closing.type.isTerminal) :
    (closing.stepType config (before ++ first :: second :: middle)).formRank ≤
      (closing.stepType config (before ++ second :: middle)).formRank := by
  rw [Event.stepType, Event.stepType]
  split_ifs
  · exact InputWindow.formRank_terminalType_mono (h.entries_subset config before hmiddle)
      (by rw [baseType_of_terminal config hclosing, formRank_plainEnd])
  · exact Nat.le_refl _

theorem stepType_eq (closing : Event)
    (hkept : config.classify = false ∨ config.windowSize ≤ (formEntries middle).length + 1 ∨
      (formEntries (before ++ first :: second :: middle)).length ≤ max config.windowSize 1) :
    closing.stepType config (before ++ first :: second :: middle) =
      closing.stepType config (before ++ second :: middle) := by
  rw [Event.stepType, Event.stepType]
  rcases hkept with hclassify | hlater | hroom
  · rw [hclassify, Bool.false_and, if_neg Bool.false_ne_true, if_neg Bool.false_ne_true]
  · rw [h.recentWindow_eq_of_later config before hmiddle hlater]
  · rw [InputWindow.terminalType_eq_of_subset (h.entries_subset config before hmiddle)
      (h.entries_subset_of_room config before hmiddle hroom)]

end Event.SameField

/-- Without the first of two letters in a field the steps are the same but for the name of the next
end of a form. It is named after the last entries, each letter being one of them: with fewer letters
after as much or more, and after the same without classification, when the window would have let go
of the letter anyway, and when it holds the whole form. -/
theorem segment_without_keystroke (config : SegmentConfig) (before after : List Event)
    {first second : Event} (h : first.SameField second) :
    ((∀ event ∈ after, ¬event.type.isTerminal) →
        segment config (before ++ first :: second :: after) =
          segment config (before ++ second :: after)) ∧
      ∀ middle closing rest, after = middle ++ closing :: rest →
        (∀ event ∈ middle, ¬event.type.isTerminal) → closing.type.isTerminal →
          (∃ lead number tail,
            segment config (before ++ first :: second :: after) =
                lead ++ closing.toStep number
                  (closing.stepType config (before ++ first :: second :: middle)) :: tail ∧
              segment config (before ++ second :: after) =
                lead ++ closing.toStep number
                  (closing.stepType config (before ++ second :: middle)) :: tail) ∧
            (closing.stepType config (before ++ first :: second :: middle)).formRank ≤
              (closing.stepType config (before ++ second :: middle)).formRank ∧
            (config.classify = false ∨ config.windowSize ≤ (formEntries middle).length + 1 ∨
                (formEntries (before ++ first :: second :: middle)).length ≤
                  max config.windowSize 1 →
              closing.stepType config (before ++ first :: second :: middle) =
                closing.stepType config (before ++ second :: middle)) := by
  obtain ⟨lead, entries, emitted, hsegment⟩ := h.exists_segment config before
  constructor
  · intro hafter
    obtain ⟨steps, hsteps⟩ :=
      Segmenter.exists_stepsFrom_of_no_terminal config entries emitted hafter
    rw [(hsegment after).1, (hsegment after).2, hsteps, hsteps]
  · rintro middle closing rest rfl hmiddle hclosing
    refine ⟨?_, h.formRank_le config before hmiddle hclosing,
      h.stepType_eq config before hmiddle closing⟩
    obtain ⟨form, number, tail, hsteps⟩ :=
      Segmenter.exists_stepsFrom_of_terminal config entries emitted hmiddle hclosing rest
    have htwice : before ++ [first, second] ++ middle = before ++ first :: second :: middle := by
      simp
    have honce : before ++ [second] ++ middle = before ++ second :: middle := by simp
    refine ⟨lead ++ form, number, tail, ?_, ?_⟩
    · rw [(hsegment _).1, hsteps, htwice, List.append_assoc]
    · rw [(hsegment _).2, hsteps, honce, List.append_assoc]

theorem sameField_keystroke (field inputType : String) :
    (keystroke field inputType).SameField (keystroke field inputType) := ⟨rfl, rfl, rfl, rfl⟩

/-- A login that the window holds as a whole. -/
theorem segment_short_login :
    segment .standard [keystroke "user" "text", keystroke "password" "password",
        keystroke "password" "password", submission] =
      segment .standard [keystroke "user" "text", keystroke "password" "password", submission] := by
  obtain ⟨-, hforms⟩ := segment_without_keystroke .standard [keystroke "user" "text"] [submission]
    (sameField_keystroke "password" "password")
  obtain ⟨⟨lead, number, tail, htwice, honce⟩, -, hname⟩ :=
    hforms [] submission [] rfl (by simp) rfl
  rw [hname (.inr (.inr (by decide)))] at htwice
  exact htwice.trans honce.symm

/-- A password of ten letters pushes the user out of the standard window. -/
theorem keystrokes_matter :
    ¬∀ (config : SegmentConfig) (before after : List Event) (first second : Event),
      first.SameField second →
        segment config (before ++ first :: second :: after) =
          segment config (before ++ second :: after) := by
  intro h
  have hsteps := h .standard
    (keystroke "user" "text" :: List.replicate 8 (keystroke "password" "password")) [submission] _ _
    (sameField_keystroke "password" "password")
  have htypes := congrArg (List.map Step.type) hsteps
  revert htypes
  decide +kernel

end BrowserFlow
