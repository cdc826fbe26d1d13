import BrowserFlow.Evidence.Event
import Mathlib.Data.List.Perm.Basic
import Mathlib.Data.List.TakeWhile

/-!
Blocks: a recording cut after each event that enters no text. A block says on its own which of its
events become steps and in which order, whatever stands around it.
-/

namespace BrowserFlow

/-- An event with its position in the recording. -/
abbrev Occurrence := Event × Nat

structure Block where
  entries : List Occurrence
  closing : Option Occurrence

namespace Block

/-- `entries` are the text entries since the last cut. -/
def cutFrom (entries : List Occurrence) : List Occurrence → List Block
  | [] => [⟨entries, none⟩]
  | o :: rest =>
      if o.1.type.isTextEntry then cutFrom (entries ++ [o]) rest
      else ⟨entries, some o⟩ :: cutFrom [] rest

/-- The inputs with a field that no later entry of the block touches again. -/
def survivors : List Occurrence → List Occurrence
  | [] => []
  | o :: later =>
      if o.1.type = .input ∧ o.1.fieldKey?.isSome ∧
          ∀ next ∈ later, next.1.fieldKey? ≠ o.1.fieldKey? then
        o :: survivors later
      else survivors later

def changes (entries : List Occurrence) : List Occurrence :=
  entries.filter (·.1.type = .change)

/-- The events of a block that become steps, in the order of the steps. -/
def sources (block : Block) : List Occurrence :=
  changes block.entries ++ survivors block.entries ++ block.closing.toList

end Block

def blocks (events : List Event) : List Block := Block.cutFrom [] events.zipIdx

/-- The events that become steps, in the order of the steps. -/
def stepSources (events : List Event) : List Occurrence := (blocks events).flatMap Block.sources

/-- An input is lost without a field, or when its field is touched again before an event other than
a text entry. `later` are the events after it. -/
def Event.isLost (event : Event) (later : List Event) : Bool :=
  event.type = .input &&
    (event.fieldKey? = none ||
      (later.takeWhile (·.type.isTextEntry)).any (·.fieldKey? = event.fieldKey?))

namespace Block

theorem cutFrom_cons_of_entry {entries rest : List Occurrence} {o : Occurrence}
    (ho : o.1.type.isTextEntry) : cutFrom entries (o :: rest) = cutFrom (entries ++ [o]) rest :=
  if_pos ho

theorem cutFrom_cons_of_closing {entries rest : List Occurrence} {o : Occurrence}
    (ho : ¬o.1.type.isTextEntry) :
    cutFrom entries (o :: rest) = ⟨entries, some o⟩ :: cutFrom [] rest :=
  if_neg ho

theorem changes_append_singleton (entries : List Occurrence) (o : Occurrence) :
    changes (entries ++ [o]) =
      changes entries ++ if o.1.type = .change then [o] else [] := by
  by_cases hchange : o.1.type = .change <;> simp [changes, hchange]

/-- One more entry puts the survivors of its field out, and survives itself when it is an input
with a field. -/
theorem survivors_append_singleton (entries : List Occurrence) (o : Occurrence) :
    survivors (entries ++ [o]) =
      (survivors entries).filter (fun earlier => o.1.fieldKey? ≠ earlier.1.fieldKey?) ++
        if o.1.type = .input ∧ o.1.fieldKey?.isSome then [o] else [] := by
  induction entries with
  | nil => simp [survivors]
  | cons first entries ih =>
      rw [List.cons_append, survivors, survivors, ih]
      simp only [List.mem_append, List.mem_singleton, or_imp, forall_and, forall_eq]
      by_cases hkept : first.1.type = .input ∧ first.1.fieldKey?.isSome ∧
          ∀ next ∈ entries, next.1.fieldKey? ≠ first.1.fieldKey?
      · by_cases hsame : o.1.fieldKey? = first.1.fieldKey?
        · have hdropped : ¬(first.1.type = .input ∧ first.1.fieldKey?.isSome ∧
              (∀ next ∈ entries, next.1.fieldKey? ≠ first.1.fieldKey?) ∧
                o.1.fieldKey? ≠ first.1.fieldKey?) := fun h => h.2.2.2 hsame
          rw [if_pos hkept, if_neg hdropped, List.filter_cons_of_neg (by simp [hsame])]
        · rw [if_pos hkept, if_pos ⟨hkept.1, hkept.2.1, hkept.2.2, hsame⟩,
            List.filter_cons_of_pos (by simp [hsame]), List.cons_append]
      · have hdropped : ¬(first.1.type = .input ∧ first.1.fieldKey?.isSome ∧
            (∀ next ∈ entries, next.1.fieldKey? ≠ first.1.fieldKey?) ∧
              o.1.fieldKey? ≠ first.1.fieldKey?) :=
          fun h => hkept ⟨h.1, h.2.1, h.2.2.1⟩
        rw [if_neg hkept, if_neg hdropped]

theorem mem_survivors {entries : List Occurrence} {o : Occurrence} (h : o ∈ survivors entries) :
    o.1.type = .input ∧ o.1.fieldKey?.isSome := by
  induction entries with
  | nil => simp [survivors] at h
  | cons first entries ih =>
      rw [survivors] at h
      split at h
      · next hkept =>
          rcases List.mem_cons.mp h with rfl | h
          · exact ⟨hkept.1, hkept.2.1⟩
          · exact ih h
      · exact ih h

/-! ### Nothing else is lost -/

/-- The occurrences that are not lost, in the order of the recording. -/
def kept : List Occurrence → List Occurrence
  | [] => []
  | o :: later => if o.1.isLost (later.map Prod.fst) then kept later else o :: kept later

theorem takeWhile_map_fst {entries : List Occurrence}
    (hentries : ∀ entry ∈ entries, entry.1.type.isTextEntry) :
    (entries.map Prod.fst).takeWhile (·.type.isTextEntry) = entries.map Prod.fst := by
  rw [List.takeWhile_eq_self_iff]
  intro event hevent
  obtain ⟨entry, hentry, rfl⟩ := List.mem_map.mp hevent
  exact hentries entry hentry

/-- What comes after the event that closes a block does not matter to the block. -/
theorem isLost_append_closing (event : Event) {entries : List Occurrence} {o : Occurrence}
    (later : List Occurrence) (hentries : ∀ entry ∈ entries, entry.1.type.isTextEntry)
    (ho : ¬o.1.type.isTextEntry) :
    event.isLost ((entries ++ o :: later).map Prod.fst) = event.isLost (entries.map Prod.fst) := by
  have hwhile : ((entries ++ o :: later).map Prod.fst).takeWhile (·.type.isTextEntry) =
      (entries.map Prod.fst).takeWhile (·.type.isTextEntry) := by
    rw [takeWhile_map_fst hentries, List.map_append, List.map_cons, List.takeWhile_append_of_pos,
      List.takeWhile_cons, if_neg ho, List.append_nil]
    intro event hevent
    obtain ⟨entry, hentry, rfl⟩ := List.mem_map.mp hevent
    exact hentries entry hentry
  rw [Event.isLost, hwhile, Event.isLost]

theorem kept_append_closing {entries : List Occurrence} {o : Occurrence} (later : List Occurrence)
    (hentries : ∀ entry ∈ entries, entry.1.type.isTextEntry) (ho : ¬o.1.type.isTextEntry) :
    kept (entries ++ o :: later) = kept entries ++ o :: kept later := by
  induction entries with
  | nil =>
      have hlost : ¬o.1.isLost (later.map Prod.fst) := by
        intro h
        simp only [Event.isLost, Bool.and_eq_true, decide_eq_true_eq] at h
        exact ho (by rw [h.1]; rfl)
      exact if_neg hlost
  | cons first entries ih =>
      have hrest : ∀ entry ∈ entries, entry.1.type.isTextEntry :=
        fun entry hentry => hentries entry (List.mem_cons_of_mem _ hentry)
      rw [List.cons_append, kept, kept, isLost_append_closing first.1 later hrest ho, ih hrest]
      split <;> rfl

theorem isLost_iff {event : Event} {later : List Occurrence} (hinput : event.type = .input)
    (hlater : ∀ entry ∈ later, entry.1.type.isTextEntry) :
    event.isLost (later.map Prod.fst) ↔
      ¬(event.fieldKey?.isSome ∧ ∀ next ∈ later, next.1.fieldKey? ≠ event.fieldKey?) := by
  rw [Event.isLost, takeWhile_map_fst hlater]
  cases hkey : event.fieldKey? <;> simp [hinput]

/-- Within a block the changes and the survivors are all that is kept. -/
theorem changes_append_survivors_perm {entries : List Occurrence}
    (hentries : ∀ entry ∈ entries, entry.1.type.isTextEntry) :
    (changes entries ++ survivors entries).Perm (kept entries) := by
  induction entries with
  | nil => exact .nil
  | cons first later ih =>
      have hlater : ∀ entry ∈ later, entry.1.type.isTextEntry :=
        fun entry hentry => hentries entry (List.mem_cons_of_mem _ hentry)
      by_cases hinput : first.1.type = .input
      · have hchanges : changes (first :: later) = changes later := by
          simp [changes, hinput]
        have hlost := isLost_iff hinput hlater
        rw [hchanges, survivors, kept]
        by_cases hkept : first.1.fieldKey?.isSome ∧
            ∀ next ∈ later, next.1.fieldKey? ≠ first.1.fieldKey?
        · rw [if_pos ⟨hinput, hkept⟩, if_neg (mt hlost.mp (not_not.mpr hkept))]
          exact List.perm_middle.trans ((ih hlater).cons first)
        · rw [if_neg fun h => hkept h.2, if_pos (hlost.mpr hkept)]
          exact ih hlater
      · have hchange : first.1.type = .change := by
          have hentry := hentries first List.mem_cons_self
          cases htype : first.1.type <;> simp_all [EventType.isTextEntry]
        have hlost : ¬first.1.isLost (later.map Prod.fst) := by
          simp [Event.isLost, hinput]
        rw [survivors, if_neg fun h => hinput h.1, kept, if_neg hlost]
        rw [show changes (first :: later) = first :: changes later by simp [changes, hchange]]
        exact (ih hlater).cons first

theorem sources_cutFrom_perm {entries : List Occurrence} (rest : List Occurrence)
    (hentries : ∀ entry ∈ entries, entry.1.type.isTextEntry) :
    ((cutFrom entries rest).flatMap sources).Perm (kept (entries ++ rest)) := by
  induction rest generalizing entries with
  | nil =>
      simpa [cutFrom, sources] using changes_append_survivors_perm hentries
  | cons o rest ih =>
      by_cases ho : o.1.type.isTextEntry
      · have hmore : ∀ entry ∈ entries ++ [o], entry.1.type.isTextEntry := by
          intro entry hentry
          rcases List.mem_append.mp hentry with hentry | hentry
          · exact hentries entry hentry
          · rwa [List.mem_singleton.mp hentry]
        rw [cutFrom_cons_of_entry ho]
        simpa using ih hmore
      · rw [cutFrom_cons_of_closing ho, kept_append_closing rest hentries ho, List.flatMap_cons,
          sources, List.append_assoc]
        exact (changes_append_survivors_perm hentries).append ((ih (by simp)).cons o)

theorem kept_zipIdx (events : List Event) (start : Nat) :
    kept (events.zipIdx start) =
      (events.zipIdx start).filter fun o => !o.1.isLost (events.drop (o.2 + 1 - start)) := by
  induction events generalizing start with
  | nil => rfl
  | cons event events ih =>
      rw [List.zipIdx_cons, kept, List.zipIdx_map_fst, ih]
      have hrest : ((events.zipIdx (start + 1)).filter fun o =>
            !o.1.isLost (events.drop (o.2 + 1 - (start + 1)))) =
          (events.zipIdx (start + 1)).filter fun o =>
            !o.1.isLost ((event :: events).drop (o.2 + 1 - start)) := by
        apply List.filter_congr
        intro o ho
        have hle := (List.mem_zipIdx (x := o.1) (i := o.2) ho).1
        rw [show o.2 + 1 - start = o.2 + 1 - (start + 1) + 1 by omega, List.drop_succ_cons]
      rw [hrest]
      by_cases hlost : event.isLost events
      · rw [if_pos hlost, List.filter_cons_of_neg (by simpa using hlost)]
      · rw [if_neg hlost, List.filter_cons_of_pos (by simpa using hlost)]

end Block

/-- Every event that is not lost is the source of exactly one step. -/
theorem stepSources_perm (events : List Event) :
    (stepSources events).Perm
      (events.zipIdx.filter fun o => !o.1.isLost (events.drop (o.2 + 1))) := by
  have hperm := @Block.sources_cutFrom_perm [] events.zipIdx (by simp)
  rwa [List.nil_append, Block.kept_zipIdx] at hperm

end BrowserFlow
