import BrowserFlow.Json.Reader
import BrowserFlow.Proofs.Table
import Mathlib.Data.List.Nodup

/-!
# Values read by readers

A reader gets the draft of a value to read. Lists and tables are read entry by entry. A record is
read field by field, in whatever way each field was written: a field that is there stands for what
its reader makes of it, and one that is not for what its absence means.
-/

namespace BrowserFlow.Json

namespace Reader

theorem items_draftItems {reader : Reader} {items : List α} {write read : α → Value}
    (h : ∀ a ∈ items, reader (Draft.ofValue (write a)) = .ok (read a)) :
    Reader.items reader (draftItems (items.map write)) = .ok (items.map read) := by
  induction items with
  | nil => rfl
  | cons a items ih =>
      rw [List.map_cons, draftItems, Reader.items, h a List.mem_cons_self,
        ih fun b hb => h b (List.mem_cons_of_mem _ hb)]
      rfl

theorem list_ofValue {reader : Reader} {items : List α} {write read : α → Value}
    (h : ∀ a ∈ items, reader (Draft.ofValue (write a)) = .ok (read a)) :
    list reader (Draft.ofValue (.array (items.map write))) = .ok (.array (items.map read)) := by
  rw [Draft.ofValue, list, items_draftItems h]
  rfl

theorem entries_draftMembers {reader : Reader} {fields : List (String × Value)}
    (h : ∀ field ∈ fields, reader (Draft.ofValue field.2) = .ok field.2) :
    entries reader (draftMembers fields) = .ok fields := by
  induction fields with
  | nil => rfl
  | cons field fields ih =>
      obtain ⟨name, value⟩ := field
      have hvalue : reader (Draft.ofValue value) = .ok value := h _ List.mem_cons_self
      rw [draftMembers, entries, hvalue,
        ih fun field hfield => h field (List.mem_cons_of_mem _ hfield)]
      rfl

/-- A table whose values are read as they stand is read as it stands. -/
theorem table_ofValue {reader : Reader} {fields : List (String × Value)}
    (hnodup : (fields.map Prod.fst).Nodup)
    (h : ∀ field ∈ fields, reader (Draft.ofValue field.2) = .ok field.2) :
    table reader (Draft.ofValue (.object fields)) = .ok (.object fields) := by
  rw [Draft.ofValue, table, entries_draftMembers h]
  simp only [bind, Except.bind, passIf, liftFault, mergeEntries_of_nodup hnodup]
  rfl

/-! ### Records -/

/-- A field together with what is written of it and what is read. -/
structure FieldEntry where
  field : Field
  written : Option Value
  read : Value

namespace FieldEntry

def name (entry : FieldEntry) : String := entry.field.name

def Holds (entry : FieldEntry) : Prop :=
  match entry.written with
  | some value => entry.field.reader (Draft.ofValue value) = .ok entry.read
  | none =>
    (entry.field.absence = .null ∧ entry.read = .null) ∨ entry.field.absence = .default entry.read

def members (entries : List FieldEntry) : List (String × Value) :=
  entries.flatMap fun entry => (entry.written.map fun value => (entry.name, value)).toList

/-- What is read of the fields that are there. -/
def found (entries : List FieldEntry) : List (String × Value) :=
  entries.flatMap fun entry => (entry.written.map fun _ => (entry.name, entry.read)).toList

variable {entries : List FieldEntry}

theorem mem_names_of_mem_found {name : String} (h : name ∈ (found entries).map Prod.fst) :
    name ∈ entries.map FieldEntry.name := by
  obtain ⟨⟨other, value⟩, hmem, rfl⟩ := List.mem_map.mp h
  obtain ⟨entry, hentry, hmem⟩ := List.mem_flatMap.mp hmem
  rw [Option.mem_toList, Option.map_eq_some_iff] at hmem
  obtain ⟨-, -, heq⟩ := hmem
  obtain ⟨rfl, -⟩ := Prod.mk.inj heq
  exact List.mem_map_of_mem hentry

theorem nodup_found (h : (entries.map FieldEntry.name).Nodup) :
    ((found entries).map Prod.fst).Nodup := by
  induction entries with
  | nil => exact .nil
  | cons entry entries ih =>
      rw [List.map_cons, List.nodup_cons] at h
      have hrest := ih h.2
      rw [found, List.flatMap_cons, List.map_append]
      cases entry.written with
      | none => exact hrest
      | some value =>
          exact List.nodup_cons.mpr ⟨fun hmem => h.1 (mem_names_of_mem_found hmem), hrest⟩

theorem find?_field (h : (entries.map FieldEntry.name).Nodup) {entry : FieldEntry}
    (hentry : entry ∈ entries) :
    (entries.map FieldEntry.field).find? (·.name == entry.name) = some entry.field := by
  induction entries with
  | nil => simp at hentry
  | cons first entries ih =>
      rw [List.map_cons, List.nodup_cons] at h
      rcases List.mem_cons.mp hentry with rfl | hentry
      · simp [name]
      · rw [List.map_cons, List.find?_cons_of_neg, ih h.2 hentry]
        intro heq
        have hname : first.name = entry.name := by simpa [name] using heq
        exact h.1 (hname ▸ List.mem_map_of_mem hentry)

theorem memberFields_cons {fields : List Field} {field : Field}
    {earlier rest : List (String × Value)} {value read : Value}
    (hfound : fields.find? (·.name == field.name) = some field)
    (hfirst : findValue? field.name earlier = none)
    (hread : field.reader (Draft.ofValue value) = .ok read) :
    memberFields fields earlier (draftMembers ((field.name, value) :: rest)) =
      memberFields fields ((field.name, read) :: earlier) (draftMembers rest) := by
  simp only [draftMembers, memberFields, Draft.key, liftFault, bind, Except.bind, hfound, hfirst,
    hread, Option.isSome_none, Bool.false_eq_true, if_false]

/-- Reading the members adds what is found of each field to what was found before. -/
theorem memberFields_members {fields : List Field} {earlier : List (String × Value)}
    (hnodup : (entries.map FieldEntry.name).Nodup)
    (hfields : ∀ entry ∈ entries, fields.find? (·.name == entry.name) = some entry.field)
    (hfree : ∀ entry ∈ entries, findValue? entry.name earlier = none)
    (hread : ∀ entry ∈ entries, entry.Holds) :
    memberFields fields earlier (draftMembers (members entries)) =
      .ok ((found entries).reverse ++ earlier) := by
  induction entries generalizing earlier with
  | nil => rfl
  | cons entry entries ih =>
      rw [List.map_cons, List.nodup_cons] at hnodup
      have hholds : entry.Holds := hread entry List.mem_cons_self
      have hfieldsRest : ∀ later ∈ entries,
          fields.find? (·.name == later.name) = some later.field :=
        fun later hlater => hfields later (List.mem_cons_of_mem _ hlater)
      have hreadRest : ∀ later ∈ entries, later.Holds :=
        fun later hlater => hread later (List.mem_cons_of_mem _ hlater)
      rw [members, found, List.flatMap_cons, List.flatMap_cons]
      rw [Holds] at hholds
      cases hwritten : entry.written with
      | none =>
          exact ih hnodup.2 hfieldsRest
            (fun later hlater => hfree later (List.mem_cons_of_mem _ hlater)) hreadRest
      | some value =>
          rw [hwritten] at hholds
          have hlater : ∀ later ∈ entries,
              findValue? later.name ((entry.name, entry.read) :: earlier) = none := by
            intro later hlater
            rw [findValue?, if_neg, hfree later (List.mem_cons_of_mem _ hlater)]
            intro heq
            exact hnodup.1 (heq ▸ List.mem_map_of_mem hlater)
          have hrest := ih hnodup.2 hfieldsRest hlater hreadRest
          have hfound : fields.find? (·.name == entry.name) = some entry.field :=
            hfields entry List.mem_cons_self
          have hfirst : findValue? entry.name earlier = none := hfree entry List.mem_cons_self
          calc
            memberFields fields earlier
                  (draftMembers ((entry.name, value) :: members entries)) =
                memberFields fields ((entry.name, entry.read) :: earlier)
                  (draftMembers (members entries)) := memberFields_cons hfound hfirst hholds
            _ = .ok ((found entries).reverse ++ (entry.name, entry.read) :: earlier) := hrest
            _ = .ok (((entry.name, entry.read) :: found entries).reverse ++ earlier) := by
              rw [List.reverse_cons, List.append_assoc, List.singleton_append]

theorem completeField_of_mem (hnodup : (entries.map FieldEntry.name).Nodup) {entry : FieldEntry}
    (hentry : entry ∈ entries) (hholds : entry.Holds) :
    completeField (found entries).reverse entry.field = .ok (entry.name, entry.read) := by
  have hnodupFound : (((found entries).reverse).map Prod.fst).Nodup := by
    rw [List.map_reverse, List.nodup_reverse]
    exact nodup_found hnodup
  rw [Holds] at hholds
  cases hwritten : entry.written with
  | some value =>
      have hmem : (entry.name, entry.read) ∈ (found entries).reverse := by
        rw [List.mem_reverse]
        exact List.mem_flatMap.mpr ⟨entry, hentry, by simp [hwritten]⟩
      have hfound : findValue? entry.field.name (found entries).reverse = some entry.read :=
        findValue?_of_mem hnodupFound hmem
      simp only [completeField, hfound]
      rfl
  | none =>
      have hfound : findValue? entry.field.name (found entries).reverse = none := by
        rw [findValue?_eq_none_iff, List.map_reverse, List.mem_reverse]
        intro hname
        obtain ⟨⟨name, value⟩, hmem, heq⟩ := List.mem_map.mp hname
        obtain ⟨other, hother, hmem⟩ := List.mem_flatMap.mp hmem
        rw [Option.mem_toList, Option.map_eq_some_iff] at hmem
        obtain ⟨written, hsome, hpair⟩ := hmem
        obtain ⟨rfl, -⟩ := Prod.mk.inj hpair
        obtain rfl := List.inj_on_of_nodup_map hnodup hother hentry heq
        rw [hwritten] at hsome
        exact nomatch hsome
      rw [hwritten] at hholds
      rcases hholds with ⟨habsence, hread⟩ | habsence
      · simp only [completeField, hfound, habsence, hread]
        rfl
      · simp only [completeField, hfound, habsence]
        rfl

end FieldEntry

theorem mapM_ok {f : α → Except ε β} {g : α → β} {items : List α}
    (h : ∀ a ∈ items, f a = .ok (g a)) : items.mapM f = .ok (items.map g) := by
  induction items with
  | nil => rfl
  | cons a items ih =>
      rw [List.mapM_cons, h a List.mem_cons_self, ih fun b hb => h b (List.mem_cons_of_mem _ hb)]
      rfl

/-- A record whose fields are written as they may be is read with every field in place. -/
theorem record_ofValue (source : Source) (type : String) {entries : List FieldEntry}
    (hnodup : (entries.map FieldEntry.name).Nodup) (hread : ∀ entry ∈ entries, entry.Holds) :
    record source type (entries.map FieldEntry.field)
        (Draft.ofValue (.object (FieldEntry.members entries))) =
      .ok (.object (entries.map fun entry => (entry.name, entry.read))) := by
  have hfields : ∀ entry ∈ entries,
      (entries.map FieldEntry.field).find? (·.name == entry.name) = some entry.field :=
    fun _ hentry => FieldEntry.find?_field hnodup hentry
  have hmembers : memberFields (entries.map FieldEntry.field) []
      (draftMembers (FieldEntry.members entries)) =
        .ok ((FieldEntry.found entries).reverse ++ []) :=
    FieldEntry.memberFields_members hnodup hfields (fun _ _ => rfl) hread
  rw [List.append_nil] at hmembers
  have hcomplete : (entries.map FieldEntry.field).mapM
      (completeField (FieldEntry.found entries).reverse) =
        .ok (entries.map fun entry => (entry.name, entry.read)) := by
    rw [List.mapM_map]
    apply mapM_ok
    intro entry hentry
    exact FieldEntry.completeField_of_mem hnodup hentry (hread entry hentry)
  rw [Draft.ofValue, record, hmembers]
  simp only [bind, Except.bind, passIf, liftFault, hcomplete]
  rfl

end Reader

/-- What is written of something that may be missing gives it back. -/
theorem Value.get?_getD_null {a : Option α} {write : α → Value} {decode : Value → α}
    (hnull : ∀ x, (write x).isNull = false) (hdecode : ∀ x ∈ a, decode (write x) = x) :
    ((a.map write).getD .null).get? decode = a := by
  cases a with
  | none => rfl
  | some x => simp [Value.get?, hnull, hdecode x rfl]

end BrowserFlow.Json
