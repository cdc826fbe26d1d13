import BrowserFlow.Proofs.Segment.Run
import Mathlib.Data.List.Nodup

/-!
# What a trace tells

A trace is a log of the decisions. The steps can be read off it, and so can what became of each
input that was held back: it was flushed, superseded by a change of its field, or overwritten by a
later input. What is held back depends on the block that has been begun and on nothing before it, so
what is logged for an event is told by the events before it.
-/

namespace BrowserFlow

/-- The text entries of the block that has been begun. -/
def openEntries (past : List Event) : List Occurrence :=
  past.zipIdx.rtakeWhile (·.1.type.isTextEntry)

/-- An input of the field is held back. -/
def Holds (past : List Event) (key : String) : Bool :=
  (Block.survivors (openEntries past)).any (·.1.fieldKey? = some key)

/-- The next text entry of the field within the block is an input. -/
def isReplaced (key : String) (later : List Event) : Bool :=
  ((later.takeWhile (·.type.isTextEntry)).find? (·.fieldKey? = some key)).any (·.type = .input)

/-- An input is overwritten when its field is entered again before it could be flushed or
superseded. `later` are the events after it. -/
def Event.isOverwritten (event : Event) (later : List Event) : Bool :=
  event.type = .input && event.fieldKey?.any (isReplaced · later)

namespace TraceRecord

def isOfStep (record : TraceRecord) : Bool :=
  record.decision = "flushed" || record.decision = "emitted"

/-- The record of a step. Steps of inputs come from what was held back, and no others do. -/
structure IsOf (record : TraceRecord) (step : Step) : Prop where
  id : record.stepId = some step.id
  type : record.stepType = some step.type
  decision : record.decision = if step.type = .input then "flushed" else "emitted"
  eventType : record.eventType = .input ↔ step.type = .input

/-- The record of an input that is held back. -/
def ofBuffered? (o : Occurrence) : Option TraceRecord :=
  if o.1.type = .input then
    o.1.fieldKey?.map fun key => ⟨o.2, .input, some key, "buffered", none, none⟩
  else none

/-- The record of a change that supersedes what is held back for its field. -/
def ofSuperseded? (events : List Event) (o : Occurrence) : Option TraceRecord :=
  if o.1.type = .change then
    (o.1.fieldKey?.filter (Holds (events.take o.2))).map fun key =>
      ⟨o.2, .change, some key, "superseded", none, none⟩
  else none

end TraceRecord

theorem EventType.isTextEntry_iff {type : EventType} :
    type.isTextEntry ↔ type = .input ∨ type = .change := by
  cases type <;> decide

/-! ### The block that has been begun -/

theorem zipIdx_concat (past : List Event) (event : Event) :
    (past ++ [event]).zipIdx = past.zipIdx ++ [(event, past.length)] := by
  rw [List.zipIdx_append, List.zipIdx_singleton, Nat.zero_add]

theorem openEntries_append_entry (past : List Event) {event : Event}
    (h : event.type.isTextEntry) :
    openEntries (past ++ [event]) = openEntries past ++ [(event, past.length)] := by
  rw [openEntries, zipIdx_concat]
  exact List.rtakeWhile_concat_pos _ _ (event, past.length) h

theorem openEntries_append_closing (past : List Event) {event : Event}
    (h : ¬event.type.isTextEntry) : openEntries (past ++ [event]) = [] := by
  rw [openEntries, zipIdx_concat]
  exact List.rtakeWhile_concat_neg _ _ (event, past.length) h

/-- What is held back after these events. -/
def held (past : List Event) : List (String × Event) := heldBack (openEntries past)

theorem holds_iff (past : List Event) (key : String) :
    Holds past key ↔ (held past).any (·.1 = key) := by
  simp only [Holds, held, heldBack, List.any_map, List.any_eq_true, Function.comp_apply,
    decide_eq_true_eq]
  refine exists_congr fun o => and_congr_right fun ho => ?_
  obtain ⟨other, hother⟩ := Option.isSome_iff_exists.mp (Block.mem_survivors ho).2
  simp [hother]

theorem type_of_mem_heldBack {entries : List Occurrence} {entry : String × Event}
    (h : entry ∈ heldBack entries) : entry.2.type = .input := by
  obtain ⟨o, ho, rfl⟩ := List.mem_map.mp h
  exact (Block.mem_survivors ho).1

theorem Block.survivors_subset (entries : List Occurrence) : survivors entries ⊆ entries := by
  induction entries with
  | nil => exact List.Subset.refl _
  | cons first later ih =>
      rw [survivors]
      split_ifs
      · exact List.cons_subset_cons first ih
      · exact List.subset_cons_of_subset first ih

/-- Of each field at most one input is held back. -/
theorem nodup_keys_heldBack (entries : List Occurrence) :
    ((heldBack entries).map Prod.fst).Nodup := by
  induction entries with
  | nil => exact List.nodup_nil
  | cons first later ih =>
      rw [heldBack, Block.survivors]
      split_ifs with hkept
      · -- what survives later has another field, or the first would not have survived
        refine List.nodup_cons.mpr ⟨fun hagain => ?_, ih⟩
        obtain ⟨_, hheld, hkey⟩ := List.mem_map.mp hagain
        obtain ⟨next, hnext, rfl⟩ := List.mem_map.mp hheld
        obtain ⟨key, hfirst⟩ := Option.isSome_iff_exists.mp hkept.2.1
        obtain ⟨other, hother⟩ := Option.isSome_iff_exists.mp (Block.mem_survivors hnext).2
        refine hkept.2.2 next (Block.survivors_subset later hnext) ?_
        simpa [hfirst, hother] using hkey
      · exact ih

namespace Segmenter

/-! ### What is logged for an event -/

/-- What is logged for an event that comes after `past`. -/
inductive Logs (past : List Event) (event : Event) : List Decision → Prop
  | ignored (htype : event.type = .input) (hkey : event.fieldKey? = none) : Logs past event []
  | buffered (key : String) (htype : event.type = .input) (hkey : event.fieldKey? = some key) :
      Logs past event [.buffered past.length event key]
  | superseding (key : String) (step : Step) (htype : event.type = .change)
      (hkey : event.fieldKey? = some key) (hheld : Holds past key) (hstep : step.type = .change) :
      Logs past event [.superseded past.length event key, .emitted past.length event step]
  | changed (step : Step) (htype : event.type = .change)
      (hfree : ∀ key ∈ event.fieldKey?, ¬Holds past key) (hstep : step.type = .change) :
      Logs past event [.emitted past.length event step]
  | closing (emitted : Nat) (step : Step) (htype : ¬event.type.isTextEntry)
      (hstep : step.type ≠ .input) :
      Logs past event (flushEntries past.length emitted (held past) ++
        [.emitted past.length event step])

/-- What is logged for the events that come after `past` and for the end. -/
inductive LogsAll : List Event → List Event → List Decision → Prop
  | finish (past : List Event) (emitted : Nat) :
      LogsAll past [] (flushEntries past.length emitted (held past))
  | next {past rest : List Event} {event : Event} {now later : List Decision}
      (hnow : Logs past event now) (hlater : LogsAll (past ++ [event]) rest later) :
      LogsAll past (event :: rest) (now ++ later)

theorem stepType_ne_input (config : SegmentConfig) (past : List Event) {event : Event}
    (h : ¬event.type.isTextEntry) : event.stepType config past ≠ .input := by
  have hbase : event.baseType config ≠ .input := by
    rw [Event.baseType]
    cases htype : event.type with
    | click =>
        simp only [Event.clickType]
        split_ifs <;> decide
    | input => simp [htype, EventType.isTextEntry] at h
    | _ => simp
  rw [Event.stepType, InputWindow.terminalType]
  split_ifs
  · exact hbase
  · decide
  · decide
  · exact hbase

section Advance

variable (config : SegmentConfig) (past : List Event) (emitted : Nat) (event : Event)

theorem logs_advance :
    Logs past event
      ((after config past (openEntries past) emitted).advance config past.length event).2 := by
  by_cases htype : event.type.isTextEntry
  · have hterminal : ¬event.type.isTerminal :=
      fun h => EventType.not_isTextEntry_of_isTerminal h htype
    rw [advance, observe_after hterminal]
    cases hevent : event.type with
    | input =>
        cases hkey : event.fieldKey? with
        | none => exact .ignored hevent hkey
        | some key => exact .buffered key hevent hkey
    | change =>
        have hbase : event.baseType config = .change := by simp [Event.baseType, hevent]
        cases hkey : event.fieldKey? with
        | none => exact .changed _ hevent (by simp [hkey]) hbase
        | some key =>
            simp only [supersede]
            split
            · next hheld =>
                exact .superseding key _ hevent hkey ((holds_iff past key).mpr hheld) hbase
            · next hfree =>
                refine .changed _ hevent (fun other hother => ?_) hbase
                obtain rfl : key = other := Option.some.inj (hkey.symm.trans hother)
                exact mt (holds_iff past key).mp hfree
    | _ => simp [hevent, EventType.isTextEntry] at htype
  · rw [advance_closing past.length htype]
    exact .closing emitted _ htype (stepType_ne_input config past htype)

theorem exists_after_advance :
    ∃ emitted', ((after config past (openEntries past) emitted).advance config past.length event).1 =
      after config (past ++ [event]) (openEntries (past ++ [event])) emitted' := by
  by_cases htype : event.type.isTextEntry
  · rw [openEntries_append_entry past htype]
    cases hevent : event.type with
    | input => exact ⟨_, (advance_input past.length past.length hevent).1⟩
    | change => exact ⟨_, (advance_change past.length past.length hevent).1⟩
    | _ => simp [hevent, EventType.isTextEntry] at htype
  · rw [advance_closing past.length htype, openEntries_append_closing past htype]
    exact ⟨_, rfl⟩

end Advance

theorem logsAll_run (config : SegmentConfig) (past : List Event) (emitted : Nat)
    (rest : List Event) :
    LogsAll past rest
      (run config (after config past (openEntries past) emitted) past.length rest) := by
  induction rest generalizing past emitted with
  | nil => exact .finish past emitted
  | cons event rest ih =>
      obtain ⟨emitted', hafter⟩ := exists_after_advance config past emitted event
      have hlater := ih (past ++ [event]) emitted'
      rw [← hafter, List.length_append, List.length_singleton] at hlater
      exact .next (logs_advance config past emitted event) hlater

theorem logsAll_decisions (config : SegmentConfig) (events : List Event) :
    LogsAll [] events (decisions config events) := by
  have hrun := logsAll_run config [] 0 events
  rwa [openEntries, List.zipIdx_nil, List.rtakeWhile_nil, after_nil] at hrun

/-! ### The records of the steps -/

def stepRecords (decisions : List Decision) : List TraceRecord :=
  (decisions.map Decision.record).filter (·.isOfStep)

theorem stepRecords_append (first second : List Decision) :
    stepRecords (first ++ second) = stepRecords first ++ stepRecords second := by
  rw [stepRecords, List.map_append, List.filter_append, stepRecords, stepRecords]

theorem isOf_flushEntries (index emitted : Nat) {pending : List (String × Event)}
    (h : ∀ entry ∈ pending, entry.2.type = .input) :
    List.Forall₂ TraceRecord.IsOf (stepRecords (flushEntries index emitted pending))
      ((flushEntries index emitted pending).filterMap Decision.step?) := by
  induction pending generalizing emitted with
  | nil => exact .nil
  | cons entry pending ih =>
      obtain ⟨htype, hpending⟩ := List.forall_mem_cons.mp h
      exact .cons ⟨rfl, rfl, rfl, iff_of_true htype rfl⟩ (ih (emitted + 1) hpending)

theorem isOf_emitted (index : Nat) {event : Event} {step : Step} (hevent : event.type ≠ .input)
    (hstep : step.type ≠ .input) :
    TraceRecord.IsOf (Decision.emitted index event step).record step :=
  ⟨rfl, rfl, (if_neg hstep).symm, iff_of_false hevent hstep⟩

theorem Logs.isOf {past : List Event} {event : Event} {now : List Decision}
    (h : Logs past event now) :
    List.Forall₂ TraceRecord.IsOf (stepRecords now) (now.filterMap Decision.step?) := by
  cases h with
  | ignored htype hkey => exact .nil
  | buffered key htype hkey => exact .nil
  | superseding key step htype hkey hheld hstep =>
      exact .cons (isOf_emitted _ (by simp [htype]) (by simp [hstep])) .nil
  | changed step htype hfree hstep =>
      exact .cons (isOf_emitted _ (by simp [htype]) (by simp [hstep])) .nil
  | closing emitted step htype hstep =>
      have hevent : event.type ≠ .input := fun h => htype (EventType.isTextEntry_iff.mpr (.inl h))
      rw [stepRecords_append, List.filterMap_append]
      exact List.rel_append (isOf_flushEntries _ _ fun _ => type_of_mem_heldBack)
        (.cons (isOf_emitted _ hevent hstep) .nil)

theorem LogsAll.isOf {past rest : List Event} {all : List Decision} (h : LogsAll past rest all) :
    List.Forall₂ TraceRecord.IsOf (stepRecords all) (all.filterMap Decision.step?) := by
  induction h with
  | finish past emitted => exact isOf_flushEntries _ _ fun _ => type_of_mem_heldBack
  | next hnow _ ih =>
      rw [stepRecords_append, List.filterMap_append]
      exact List.rel_append hnow.isOf ih

/-! ### The records of the other decisions -/

/-- The records of one kind of decision. -/
def logged (decision : String) (decisions : List Decision) : List TraceRecord :=
  (decisions.map Decision.record).filter (·.decision = decision)

theorem logged_append (decision : String) (first second : List Decision) :
    logged decision (first ++ second) = logged decision first ++ logged decision second := by
  rw [logged, List.map_append, List.filter_append, logged, logged]

theorem logged_flushEntries {decision : String} (h : decision ≠ "flushed") (index emitted : Nat)
    (pending : List (String × Event)) :
    logged decision (flushEntries index emitted pending) = [] := by
  induction pending generalizing emitted with
  | nil => rfl
  | cons entry pending ih =>
      rw [logged, flushEntries, List.map_cons,
        List.filter_cons_of_neg (by simp [Decision.record, h.symm])]
      exact ih (emitted + 1)

theorem length_logged_flushed (index emitted : Nat) (pending : List (String × Event)) :
    (logged "flushed" (flushEntries index emitted pending)).length = pending.length := by
  induction pending generalizing emitted with
  | nil => rfl
  | cons entry pending ih => exact congrArg (· + 1) (ih (emitted + 1))

theorem Logs.buffered_eq {past : List Event} {event : Event} {now : List Decision}
    (h : Logs past event now) :
    logged "buffered" now = (TraceRecord.ofBuffered? (event, past.length)).toList := by
  cases h with
  | ignored htype hkey => simp [logged, TraceRecord.ofBuffered?, hkey]
  | buffered key htype hkey =>
      simp [logged, TraceRecord.ofBuffered?, Decision.record, htype, hkey]
  | superseding key step htype hkey hheld hstep =>
      simp [logged, TraceRecord.ofBuffered?, Decision.record, htype]
  | changed step htype hfree hstep =>
      simp [logged, TraceRecord.ofBuffered?, Decision.record, htype]
  | closing emitted step htype hstep =>
      have hevent : event.type ≠ .input := fun h => htype (EventType.isTextEntry_iff.mpr (.inl h))
      rw [logged_append, logged_flushEntries (by decide)]
      simp [logged, TraceRecord.ofBuffered?, Decision.record, hevent]

theorem Logs.superseded_eq {past : List Event} {event : Event} {now : List Decision}
    (h : Logs past event now) (later : List Event) :
    logged "superseded" now =
      (TraceRecord.ofSuperseded? (past ++ event :: later) (event, past.length)).toList := by
  rw [TraceRecord.ofSuperseded?, List.take_left]
  cases h with
  | ignored htype hkey => simp [logged, htype]
  | buffered key htype hkey => simp [logged, Decision.record, htype]
  | superseding key step htype hkey hheld hstep =>
      simp [logged, Decision.record, htype, hkey, Option.filter_some_pos hheld]
  | changed step htype hfree hstep =>
      cases hkey : event.fieldKey? with
      | none => simp [logged, Decision.record]
      | some key =>
          have hfree : Holds past key = false := by simpa using hfree key hkey
          simp [logged, Decision.record, Option.filter_some_neg hfree]
  | closing emitted step htype hstep =>
      have hevent : event.type ≠ .change := fun h => htype (EventType.isTextEntry_iff.mpr (.inr h))
      rw [logged_append, logged_flushEntries (by decide)]
      simp [logged, Decision.record, hevent]

/-- Records that are told event by event are told for all the events. -/
theorem LogsAll.logged_eq (decision : String)
    (record? : List Event → Occurrence → Option TraceRecord) (hdecision : decision ≠ "flushed")
    (hstep : ∀ {past event now}, Logs past event now → ∀ later,
      logged decision now = (record? (past ++ event :: later) (event, past.length)).toList)
    {past rest : List Event} {all : List Decision} (h : LogsAll past rest all) :
    logged decision all = (rest.zipIdx past.length).filterMap (record? (past ++ rest)) := by
  induction h with
  | finish past emitted => exact logged_flushEntries hdecision _ _ _
  | @next past rest event now later hnow _ ih =>
      rw [logged_append, hstep hnow rest, ih, List.zipIdx_cons, List.length_append,
        List.length_singleton, List.append_assoc, List.singleton_append]
      cases hrecord : record? (past ++ event :: rest) (event, past.length) <;> simp [hrecord]

/-! ### What becomes of what is held back -/

theorem isReplaced_cons_of_key {event : Event} {key : String} (hentry : event.type.isTextEntry)
    (hkey : event.fieldKey? = some key) (later : List Event) :
    isReplaced key (event :: later) = decide (event.type = .input) := by
  simp [isReplaced, hentry, hkey]

theorem isReplaced_cons_of_other {event : Event} {key : String} (hentry : event.type.isTextEntry)
    (hkey : event.fieldKey? ≠ some key) (later : List Event) :
    isReplaced key (event :: later) = isReplaced key later := by
  simp [isReplaced, hentry, hkey]

theorem isReplaced_cons_of_closing {event : Event} (hclosing : ¬event.type.isTextEntry)
    (key : String) (later : List Event) : isReplaced key (event :: later) = false := by
  simp [isReplaced, hclosing]

theorem length_without (key : String) (pending : List (String × Event)) :
    (without key pending).length + pending.countP (·.1 = key) = pending.length := by
  rw [without, ← List.countP_eq_length_filter, Nat.add_comm, eq_comm]
  simpa using List.length_eq_countP_add_countP (l := pending) (fun entry => entry.1 = key)

/-- How many of these are overwritten before they could be flushed or superseded. -/
def replaced (pending : List (String × Event)) (later : List Event) : Nat :=
  pending.countP (isReplaced ·.1 later)

theorem replaced_cons (entry : String × Event) (pending : List (String × Event))
    (later : List Event) :
    replaced (entry :: pending) later =
      replaced pending later + if isReplaced entry.1 later then 1 else 0 :=
  List.countP_cons

theorem replaced_concat (key : String) (event : Event) (pending : List (String × Event))
    (later : List Event) :
    replaced (pending ++ [(key, event)]) later =
      replaced pending later + if isReplaced key later then 1 else 0 := by
  rw [replaced, List.countP_append, List.countP_singleton, replaced]

/-- A text entry does away with what is held back for its field, and an input replaces it. -/
theorem replaced_cons_of_key {event : Event} {key : String} (hentry : event.type.isTextEntry)
    (hkey : event.fieldKey? = some key) (pending : List (String × Event)) (later : List Event) :
    replaced pending (event :: later) =
      replaced (without key pending) later +
        if event.type = .input then pending.countP (·.1 = key) else 0 := by
  induction pending with
  | nil => simp [replaced, without]
  | cons entry pending ih =>
      rw [replaced_cons, ih, List.countP_cons]
      by_cases hsame : entry.1 = key
      · subst hsame
        have hwithout : without entry.1 (entry :: pending) = without entry.1 pending :=
          List.filter_cons_of_neg (by simp)
        rw [isReplaced_cons_of_key hentry hkey, hwithout]
        by_cases hinput : event.type = .input <;> simp [hinput, Nat.add_assoc]
      · have hother : event.fieldKey? ≠ some entry.1 := by
          simpa [hkey] using Ne.symm hsame
        have hwithout : without key (entry :: pending) = entry :: without key pending :=
          List.filter_cons_of_pos (by simpa using hsame)
        rw [isReplaced_cons_of_other hentry hother, hwithout, replaced_cons]
        simp [hsame, Nat.add_right_comm]

/-- What comes after an event that closes the block does not matter to what was held back. -/
theorem replaced_cons_of_closing {event : Event} (hclosing : ¬event.type.isTextEntry)
    (pending : List (String × Event)) (later : List Event) :
    replaced pending (event :: later) = 0 := by
  simp [replaced, isReplaced_cons_of_closing hclosing]

theorem replaced_cons_of_keyless {event : Event} (hentry : event.type.isTextEntry)
    (hkey : event.fieldKey? = none) (pending : List (String × Event)) (later : List Event) :
    replaced pending (event :: later) = replaced pending later := by
  have hother (key : String) : isReplaced key (event :: later) = isReplaced key later :=
    isReplaced_cons_of_other hentry (by simp [hkey]) later
  simp only [replaced, hother]

theorem held_append_input (past : List Event) {event : Event} {key : String}
    (htype : event.type = .input) (hkey : event.fieldKey? = some key) :
    held (past ++ [event]) = without key (held past) ++ [(key, event)] := by
  rw [held, openEntries_append_entry past (EventType.isTextEntry_iff.mpr (.inl htype))]
  exact heldBack_append_input past.length htype hkey

theorem held_append_change (past : List Event) {event : Event} {key : String}
    (htype : event.type = .change) (hkey : event.fieldKey? = some key) :
    held (past ++ [event]) = without key (held past) := by
  rw [held, openEntries_append_entry past (EventType.isTextEntry_iff.mpr (.inr htype))]
  exact heldBack_append_change past.length htype hkey

theorem held_append_keyless (past : List Event) {event : Event}
    (hentry : event.type.isTextEntry) (hkey : event.fieldKey? = none) :
    held (past ++ [event]) = held past := by
  rw [held, openEntries_append_entry past hentry]
  exact heldBack_append_keyless past.length hkey

theorem held_append_closing (past : List Event) {event : Event}
    (h : ¬event.type.isTextEntry) : held (past ++ [event]) = [] := by
  rw [held, openEntries_append_closing past h]
  rfl

/-- A field that is held back is held back once. -/
theorem countP_held {past : List Event} {key : String} (h : Holds past key) :
    (held past).countP (·.1 = key) = 1 := by
  obtain ⟨entry, hentry, hkey⟩ := List.any_eq_true.mp ((holds_iff past key).mp h)
  have hmem : key ∈ (held past).map Prod.fst :=
    List.mem_map.mpr ⟨entry, hentry, by simpa using hkey⟩
  rw [← List.count_eq_one_of_mem (nodup_keys_heldBack (openEntries past)) hmem,
    List.count_eq_countP, List.countP_map]
  rfl

/-- What is put in the buffer by an event, with what was there, is what leaves it and what stays;
an input that will be replaced leaves it now or later. -/
theorem Logs.balance {past : List Event} {event : Event} {now : List Decision}
    (h : Logs past event now) (later : List Event) :
    (logged "buffered" now).length + (held past).length +
        replaced (held (past ++ [event])) later =
      (logged "flushed" now).length + (logged "superseded" now).length +
        (held (past ++ [event])).length + replaced (held past) (event :: later) +
        if event.isOverwritten later then 1 else 0 := by
  cases h with
  | ignored htype hkey =>
      have hentry := EventType.isTextEntry_iff.mpr (.inl htype)
      rw [held_append_keyless past hentry hkey, replaced_cons_of_keyless hentry hkey]
      simp [logged, Event.isOverwritten, hkey]
  | buffered key htype hkey =>
      have hentry := EventType.isTextEntry_iff.mpr (.inl htype)
      have hlength := length_without key (held past)
      have hoverwritten : event.isOverwritten later = isReplaced key later := by
        simp [Event.isOverwritten, htype, hkey]
      rw [held_append_input past htype hkey, replaced_concat, List.length_append,
        List.length_singleton, replaced_cons_of_key hentry hkey, if_pos htype, hoverwritten]
      change 1 + _ + _ = 0 + 0 + _ + _ + _
      omega
  | superseding key step htype hkey hheld hstep =>
      have hentry := EventType.isTextEntry_iff.mpr (.inr htype)
      have hlength := length_without key (held past)
      rw [countP_held hheld] at hlength
      have hinput : event.type ≠ .input := by simp [htype]
      have hkept : ¬event.isOverwritten later := by simp [Event.isOverwritten, hinput]
      rw [held_append_change past htype hkey, replaced_cons_of_key hentry hkey, if_neg hinput,
        if_neg hkept]
      change 0 + _ + _ = 0 + 1 + _ + _ + 0
      omega
  | changed step htype hfree hstep =>
      have hentry := EventType.isTextEntry_iff.mpr (.inr htype)
      have hsame : held (past ++ [event]) = held past ∧
          replaced (held past) (event :: later) = replaced (held past) later := by
        cases hkey : event.fieldKey? with
        | none =>
            exact ⟨held_append_keyless past hentry hkey, replaced_cons_of_keyless hentry hkey _ _⟩
        | some key =>
            have hwithout : without key (held past) = held past :=
              without_eq_self (mt (holds_iff past key).mpr (hfree key hkey))
            rw [held_append_change past htype hkey, replaced_cons_of_key hentry hkey, hwithout]
            simp [htype]
      rw [hsame.1, hsame.2]
      simp [logged, Decision.record, Event.isOverwritten, htype]
  | closing emitted step htype hstep =>
      have hevent : event.type ≠ .input := fun h => htype (EventType.isTextEntry_iff.mpr (.inl h))
      have hbuffered := logged_flushEntries (by decide : "buffered" ≠ "flushed") past.length emitted
        (held past)
      have hsuperseded := logged_flushEntries (by decide : "superseded" ≠ "flushed") past.length
        emitted (held past)
      have hflushed := length_logged_flushed past.length emitted (held past)
      rw [held_append_closing past htype, replaced_cons_of_closing htype]
      simp only [logged_append, hbuffered, hsuperseded, List.nil_append, List.length_append,
        hflushed]
      simp [logged, Decision.record, Event.isOverwritten, hevent, replaced]

theorem LogsAll.balance {past rest : List Event} {all : List Decision}
    (h : LogsAll past rest all) :
    (logged "buffered" all).length + (held past).length =
      (logged "flushed" all).length + (logged "superseded" all).length +
        replaced (held past) rest + (rest.zipIdx past.length).countP fun o =>
          o.1.isOverwritten ((past ++ rest).drop (o.2 + 1)) := by
  induction h with
  | finish past emitted =>
      rw [logged_flushEntries (by decide : "buffered" ≠ "flushed"),
        logged_flushEntries (by decide : "superseded" ≠ "flushed"), length_logged_flushed]
      simp [replaced, isReplaced]
  | @next past rest event now later hnow _ ih =>
      have hbalance := hnow.balance rest
      have hpast : past ++ event :: rest = (past ++ [event]) ++ rest := by simp
      have hlength : past.length + 1 = (past ++ [event]).length := by simp
      have hdrop : (past ++ event :: rest).drop (past.length + 1) = rest := by
        rw [hpast, hlength, List.drop_left]
      rw [List.zipIdx_cons, List.countP_cons, hdrop, hpast, hlength, logged_append, logged_append,
        logged_append, List.length_append, List.length_append, List.length_append]
      dsimp only
      omega

end Segmenter

open Segmenter

theorem index_record (decision : Decision) : decision.record.index = decision.index := by
  cases decision <;> rfl

theorem pairwise_index_run (config : SegmentConfig) (s : Segmenter) (index : Nat)
    (events : List Event) :
    (run config s index events).Pairwise (·.index ≤ ·.index) := by
  induction events generalizing s index with
  | nil =>
      refine List.pairwise_of_forall_mem_list fun first hfirst second hsecond => ?_
      rw [(index_of_mem_flushEntries hfirst).1, (index_of_mem_flushEntries hsecond).1]
  | cons event events ih =>
      rw [run_cons, List.pairwise_append]
      refine ⟨List.pairwise_of_forall_mem_list fun first hfirst second hsecond => ?_,
        ih _ _, fun first hfirst second hsecond => ?_⟩
      · rw [index_of_mem_advance hfirst, index_of_mem_advance hsecond]
      · rw [index_of_mem_advance hfirst]
        exact Nat.le_of_succ_le (index_of_mem_run hsecond)

/-- A trace is a faithful log. Its records of steps are those of the steps, in their order. There is
a record for each input with a field, which is held back, and one for each change of a field of which
an input is held back then, and no others. No record is out of order. And every input that was held
back was flushed, superseded or overwritten. -/
theorem trace_faithful (config : SegmentConfig) (events : List Event) :
    List.Forall₂ TraceRecord.IsOf ((trace config events).filter (·.isOfStep))
        (segment config events) ∧
      (trace config events).filter (·.decision = "buffered") =
        events.zipIdx.filterMap TraceRecord.ofBuffered? ∧
      (trace config events).filter (·.decision = "superseded") =
        events.zipIdx.filterMap (TraceRecord.ofSuperseded? events) ∧
      (trace config events).Pairwise (·.index ≤ ·.index) ∧
      (trace config events).countP (·.decision = "buffered") =
        (trace config events).countP (·.decision = "flushed") +
          (trace config events).countP (·.decision = "superseded") +
          events.zipIdx.countP fun o => o.1.isOverwritten (events.drop (o.2 + 1)) := by
  have hlog := logsAll_decisions config events
  refine ⟨hlog.isOf,
    hlog.logged_eq "buffered" (fun _ => TraceRecord.ofBuffered?) (by decide) fun hnow _ =>
      hnow.buffered_eq,
    hlog.logged_eq "superseded" TraceRecord.ofSuperseded? (by decide) Logs.superseded_eq, ?_, ?_⟩
  · rw [trace, List.pairwise_map]
    simp only [index_record]
    exact pairwise_index_run config (.start config) 0 events
  · have hbalance := hlog.balance
    simp only [List.countP_eq_length_filter] at hbalance ⊢
    exact hbalance

/-- One input is superseded, one overwritten and one flushed, and the one without a field leaves no
record. -/
theorem trace_of_travelEvents :
    (trace .standard travelEvents).map
        (fun record => (record.index, record.fieldKey, record.decision, record.stepId)) =
      [(0, some "user", "buffered", none), (1, some "city", "buffered", none),
        (2, some "city", "superseded", none), (2, none, "emitted", some "step-1"),
        (3, some "user", "buffered", none), (5, some "user", "flushed", some "step-2"),
        (5, none, "emitted", some "step-3")] ∧
      List.Forall₂ TraceRecord.IsOf ((trace .standard travelEvents).filter (·.isOfStep))
        (segment .standard travelEvents) ∧
      (travelEvents.zipIdx.countP fun o =>
        o.1.isOverwritten (travelEvents.drop (o.2 + 1))) = 1 := by
  obtain ⟨hsteps, -, -, -, hbalance⟩ := trace_faithful .standard travelEvents
  have hbuffered : (trace .standard travelEvents).countP (·.decision = "buffered") = 3 := by
    decide +kernel
  have hended : (trace .standard travelEvents).countP (·.decision = "flushed") +
      (trace .standard travelEvents).countP (·.decision = "superseded") = 2 := by
    decide +kernel
  refine ⟨by decide +kernel, hsteps, ?_⟩
  omega

end BrowserFlow
