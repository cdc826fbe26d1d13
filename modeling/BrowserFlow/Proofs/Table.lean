import BrowserFlow.Table
import Mathlib.Data.List.Forall2

/-!
# Looking names up

What a name stands for in a list of entries, and in the table made of them. Entries whose names
differ are a table as they stand.
-/

namespace BrowserFlow

theorem findValue?_eq_none_iff {name : String} {entries : List (String × α)} :
    findValue? name entries = none ↔ name ∉ entries.map Prod.fst := by
  induction entries with
  | nil => simp [findValue?]
  | cons entry entries ih =>
      obtain ⟨other, value⟩ := entry
      rw [findValue?]
      split
      · next heq => simp [heq]
      · next hne => simp [ih, Ne.symm hne]

/-- A name that occurs once stands for what it occurs with. -/
theorem findValue?_of_mem {name : String} {value : α} {entries : List (String × α)}
    (hnodup : (entries.map Prod.fst).Nodup) (h : (name, value) ∈ entries) :
    findValue? name entries = some value := by
  induction entries with
  | nil => simp at h
  | cons entry entries ih =>
      obtain ⟨other, old⟩ := entry
      rw [List.map_cons, List.nodup_cons] at hnodup
      rcases List.mem_cons.mp h with heq | h
      · obtain ⟨rfl, rfl⟩ := Prod.mk.inj heq
        exact if_pos rfl
      · rw [findValue?, if_neg, ih hnodup.2 h]
        rintro rfl
        exact hnodup.1 (List.mem_map.mpr ⟨_, h, rfl⟩)

theorem mem_of_findValue? {name : String} {value : α} {entries : List (String × α)}
    (h : findValue? name entries = some value) : (name, value) ∈ entries := by
  induction entries with
  | nil => exact nomatch h
  | cons entry entries ih =>
      obtain ⟨other, old⟩ := entry
      rw [findValue?] at h
      split at h
      · next heq =>
          obtain rfl := Option.some.inj h
          exact heq ▸ List.mem_cons_self
      · exact List.mem_cons_of_mem _ (ih h)

theorem setEntry_of_not_mem {name : String} (value : α) {entries : List (String × α)}
    (h : name ∉ entries.map Prod.fst) :
    setEntry name value entries = entries ++ [(name, value)] := by
  induction entries with
  | nil => rfl
  | cons entry entries ih =>
      obtain ⟨other, old⟩ := entry
      rw [List.map_cons, List.mem_cons, not_or] at h
      rw [setEntry, if_neg (Ne.symm h.1), ih h.2]
      rfl

theorem foldl_setEntry_of_nodup {merged entries : List (String × α)}
    (h : ((merged ++ entries).map Prod.fst).Nodup) :
    entries.foldl (fun merged (name, value) => setEntry name value merged) merged =
      merged ++ entries := by
  induction entries generalizing merged with
  | nil => simp
  | cons entry entries ih =>
      obtain ⟨name, value⟩ := entry
      have hnot : name ∉ merged.map Prod.fst := by
        intro hmem
        rw [List.map_append, List.nodup_append] at h
        exact h.2.2 name hmem name (by simp) rfl
      have happend : merged ++ (name, value) :: entries =
          (merged ++ [(name, value)]) ++ entries := by
        simp
      rw [happend] at h
      rw [List.foldl_cons]
      simp only [setEntry_of_not_mem value hnot]
      rw [ih h, ← happend]

theorem mergeEntries_of_nodup {entries : List (String × α)} (h : (entries.map Prod.fst).Nodup) :
    mergeEntries entries = entries :=
  foldl_setEntry_of_nodup (by simpa using h)

theorem findValue?_setEntry (name other : String) (value : α) (entries : List (String × α)) :
    findValue? other (setEntry name value entries) =
      if name = other then some value else findValue? other entries := by
  induction entries with
  | nil => simp [setEntry, findValue?]
  | cons entry entries ih =>
      obtain ⟨first, old⟩ := entry
      rw [setEntry]
      split
      · next heq =>
          subst heq
          simp only [findValue?]
          split <;> rfl
      · next hne =>
          rw [findValue?, findValue?, ih]
          split
          · next heq =>
              subst heq
              rw [if_neg (Ne.symm hne)]
          · rfl

theorem length_setEntry_of_mem {name : String} (value : α) {entries : List (String × α)}
    (h : name ∈ entries.map Prod.fst) : (setEntry name value entries).length = entries.length := by
  induction entries with
  | nil => exact nomatch h
  | cons entry entries ih =>
      obtain ⟨first, old⟩ := entry
      rw [setEntry]
      split
      · rfl
      · next hne =>
          have hrest : name ∈ entries.map Prod.fst :=
            (List.mem_cons.mp h).resolve_left fun heq => hne heq.symm
          rw [List.length_cons, List.length_cons, ih hrest]

theorem setEntry_eq_self {name : String} {value : α} {entries : List (String × α)}
    (h : findValue? name entries = some value) : setEntry name value entries = entries := by
  induction entries with
  | nil => exact nomatch h
  | cons entry entries ih =>
      obtain ⟨first, old⟩ := entry
      rw [findValue?] at h
      rw [setEntry]
      split
      · next heq =>
          rw [if_pos heq, Option.some.injEq] at h
          rw [h]
      · next hne =>
          rw [if_neg hne] at h
          rw [ih h]

theorem mem_of_mem_setEntry {name : String} {value : α} {entries : List (String × α)}
    {entry : String × α} (h : entry ∈ setEntry name value entries) :
    entry = (name, value) ∨ entry ∈ entries := by
  induction entries with
  | nil => exact .inl (List.mem_singleton.mp h)
  | cons first entries ih =>
      obtain ⟨other, old⟩ := first
      rw [setEntry] at h
      split at h
      · next heq => exact (List.mem_cons.mp h).imp (heq ▸ ·) (List.mem_cons_of_mem _)
      · rcases List.mem_cons.mp h with rfl | h
        · exact .inr List.mem_cons_self
        · exact (ih h).imp_right (List.mem_cons_of_mem _)

theorem mem_of_mem_mergeEntries {entries : List (String × α)} {entry : String × α}
    (h : entry ∈ mergeEntries entries) : entry ∈ entries := by
  have hfold : ∀ (entries merged : List (String × α)),
      entry ∈ entries.foldl (fun merged (name, value) => setEntry name value merged) merged →
        entry ∈ merged ∨ entry ∈ entries := by
    intro entries
    induction entries with
    | nil => exact fun merged h => .inl h
    | cons first entries ih =>
        intro merged h
        rcases ih _ h with h | h
        · rcases mem_of_mem_setEntry h with rfl | h
          · exact .inr List.mem_cons_self
          · exact .inl h
        · exact .inr (List.mem_cons_of_mem _ h)
  exact (hfold entries [] h).resolve_left List.not_mem_nil

theorem Table.ext_entries {first second : Table α} (h : first.entries = second.entries) :
    first = second := by
  cases first
  cases second
  congr

theorem Table.ofEntries_entries (table : Table α) : ofEntries table.entries = table :=
  Table.ext_entries (mergeEntries_of_nodup table.nodup)

namespace Table

@[simp]
theorem get?_insert (table : Table α) (name other : String) (value : α) :
    (table.insert name value).get? other = if name = other then some value else table.get? other :=
  findValue?_setEntry name other value table.entries

/-- A name keeps the value that it came in with. -/
theorem get?_insertNew (table : Table α) (name other : String) (value : α) :
    (table.insertNew name value).get? other =
      (table.get? other).or (if name = other then some value else none) := by
  rw [insertNew]
  split
  · next hthere =>
      split
      · next heq =>
          subst heq
          obtain ⟨old, hold⟩ := Option.isSome_iff_exists.mp hthere
          simp [hold]
      · exact (Option.or_none).symm
  · next habsent =>
      rw [get?_insert]
      split
      · next heq =>
          subst heq
          rw [Option.not_isSome_iff_eq_none.mp habsent]
          rfl
      · exact (Option.or_none).symm

theorem insert_eq_self_iff {table : Table α} {name : String} {value : α} :
    table.insert name value = table ↔ table.get? name = some value := by
  refine ⟨fun h => ?_, fun h => ext_entries (setEntry_eq_self h)⟩
  rw [← h, get?_insert, if_pos rfl]

theorem sameEntries_self {same : α → α → Bool} (hself : ∀ a, same a a) (table : Table α) :
    sameEntries same table table := by
  refine Bool.and_eq_true_iff.mpr ⟨beq_self_eq_true _, List.all_eq_true.mpr fun entry hentry => ?_⟩
  have hfound : table.get? entry.1 = some entry.2 := findValue?_of_mem table.nodup hentry
  simpa [hfound] using hself entry.2

theorem sameEntries_insert_iff {same : α → α → Bool} (hself : ∀ a, same a a) {table : Table α}
    {name : String} {value : α} :
    sameEntries same (table.insert name value) table ↔ ∃ old ∈ table.get? name, same value old := by
  have hinserted : (table.insert name value).get? name = some value := by
    rw [get?_insert, if_pos rfl]
  constructor
  · intro h
    obtain ⟨-, hall⟩ := Bool.and_eq_true_iff.mp h
    have hany := List.all_eq_true.mp hall _ (mem_of_findValue? hinserted)
    simpa only [Option.any_eq_true, Option.mem_def] using hany
  · rintro ⟨old, hold, hsame⟩
    have hname : name ∈ table.entries.map Prod.fst :=
      List.mem_map.mpr ⟨_, mem_of_findValue? hold, rfl⟩
    refine Bool.and_eq_true_iff.mpr ⟨?_, List.all_eq_true.mpr fun ⟨other, found⟩ hentry => ?_⟩
    · exact beq_iff_eq.mpr (length_setEntry_of_mem value hname)
    · have hfound : (table.insert name value).get? other = some found :=
        findValue?_of_mem (table.insert name value).nodup hentry
      rw [get?_insert] at hfound
      split at hfound
      · next heq =>
          obtain rfl := Option.some.inj hfound
          simpa [← heq, Option.mem_def.mp hold] using hsame
      · simpa [hfound] using hself found

end Table

/-! ### Lists side by side -/

theorem map_eq_self_iff {f : α → α} {items : List α} :
    items.map f = items ↔ ∀ a ∈ items, f a = a :=
  calc
    items.map f = items ↔ items.map f = items.map fun a => a := by rw [List.map_id']
    _ ↔ ∀ a ∈ items, f a = a := List.map_inj_left

theorem map_eq_map_iff_forall₂ {f : α → γ} {g : β → γ} {items : List α} {others : List β} :
    items.map f = others.map g ↔ List.Forall₂ (fun a b => f a = g b) items others := by
  rw [← List.forall₂_eq_eq_eq, List.forall₂_map_left_iff, List.forall₂_map_right_iff]

/-- Equal tables whose names come in the same order hold equal values side by side. -/
theorem Table.forall₂_of_sameEntries {same : α → α → Bool} {first second : Table α}
    (h : sameEntries same first second)
    (hnames : first.entries.map Prod.fst = second.entries.map Prod.fst) :
    List.Forall₂ (fun entry other => entry.1 = other.1 ∧ same entry.2 other.2) first.entries
      second.entries := by
  obtain ⟨-, hall⟩ := Bool.and_eq_true_iff.mp h
  obtain ⟨hlength, hnames⟩ := List.forall₂_iff_get.mp (map_eq_map_iff_forall₂.mp hnames)
  refine List.forall₂_iff_get.mpr ⟨hlength, fun i hi hi' => ⟨hnames i hi hi', ?_⟩⟩
  have hfound : second.get? (first.entries.get ⟨i, hi⟩).1 =
      some (second.entries.get ⟨i, hi'⟩).2 := by
    rw [hnames i hi hi']
    exact findValue?_of_mem second.nodup (List.get_mem _ _)
  have hsame := List.all_eq_true.mp hall _ (List.get_mem first.entries ⟨i, hi⟩)
  simpa only [hfound, Option.any_some] using hsame

end BrowserFlow
