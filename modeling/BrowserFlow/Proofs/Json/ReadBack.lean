import BrowserFlow.Proofs.Json.Pretty
import BrowserFlow.Proofs.Json.Records

/-!
# Values that come back

A value comes back from its pretty text when three things hold: its numbers are exact, it settles to
itself, and its reader takes it as it stands. Each holds of a container when it holds of what is in
it, so they are carried through the shapes of readers together. How deep containers may be nested is
counted from the inside: a container stands one level above what it holds.
-/

namespace BrowserFlow.Json

/-- The draft of the value settles to the value itself when `depth` containers may be nested. -/
def Value.Settles (depth : Nat) (v : Value) : Prop := (Draft.ofValue v).settle depth = .ok v

namespace Value

variable {depth : Nat}

theorem settleItems_draftItems {items : List Value} (h : ∀ item ∈ items, item.Settles depth) :
    settleItems depth (draftItems items) = .ok items := by
  induction items with
  | nil => rfl
  | cons item items ih =>
      have hitem : (Draft.ofValue item).settle depth = .ok item := h item List.mem_cons_self
      rw [draftItems, settleItems, hitem,
        ih fun other hother => h other (List.mem_cons_of_mem _ hother)]
      rfl

theorem settles_array {items : List Value} (h : ∀ item ∈ items, item.Settles depth) :
    (array items).Settles (depth + 1) := by
  rw [Settles, Draft.ofValue, Draft.settle, settleItems_draftItems h]
  rfl

theorem settleMembers_draftMembers {fields : List (String × Value)}
    (h : ∀ field ∈ fields, field.2.Settles depth) :
    settleMembers depth (draftMembers fields) = .ok fields := by
  induction fields with
  | nil => rfl
  | cons field fields ih =>
      obtain ⟨name, value⟩ := field
      have hvalue : (Draft.ofValue value).settle depth = .ok value := h _ List.mem_cons_self
      rw [draftMembers, settleMembers, hvalue,
        ih fun other hother => h other (List.mem_cons_of_mem _ hother)]
      rfl

theorem settles_object {fields : List (String × Value)} (hnodup : (fields.map Prod.fst).Nodup)
    (h : ∀ field ∈ fields, field.2.Settles depth) : (object fields).Settles (depth + 1) := by
  rw [Settles, Draft.ofValue, Draft.settle, settleMembers_draftMembers h]
  simp only [bind, Except.bind, passIf, mergeEntries_of_nodup hnodup]
  rfl

end Value

namespace Reader

/-- The value, written and settled, is read as it stands. -/
structure ReadsBack (reader : Reader) (depth : Nat) (v : Value) : Prop where
  isExact : v.IsExact
  settles : v.Settles depth
  reads : reader (Draft.ofValue v) = .ok v

variable {depth : Nat} {reader : Reader}

theorem readsBack_string (s : String) : string.ReadsBack depth (.string s) := ⟨trivial, rfl, rfl⟩

theorem readsBack_natural {type : String} {n : Nat} (h : n < 2 ^ 64) :
    (natural type).ReadsBack depth (.nat n) where
  isExact := by
    constructor <;> omega
  settles := rfl
  reads := by simp [Value.nat, Draft.ofValue, natural]

theorem readsBack_variant {source : Source} {variants : List String} {name : String}
    (h : name ∈ variants) : ReadsBack (variant source variants) depth (.string name) where
  isExact := trivial
  settles := rfl
  reads := by
    cases source <;> simp [Draft.ofValue, variant, variantNamed, h]

theorem ReadsBack.optional {v : Value} (h : reader.ReadsBack depth v) :
    reader.optional.ReadsBack depth v := by
  refine ⟨h.isExact, h.settles, ?_⟩
  cases v with
  | null => rfl
  | _ => exact h.reads

theorem readsBack_null : reader.optional.ReadsBack depth .null := ⟨trivial, rfl, rfl⟩

theorem readsBack_optional_string (text : Option String) :
    string.optional.ReadsBack depth (.optional text) := by
  cases text with
  | none => exact readsBack_null
  | some s => exact (readsBack_string s).optional

/-- What is not there is written as null. -/
theorem readsBack_getD_null {a : Option α} {write : α → Value}
    (h : ∀ x ∈ a, reader.ReadsBack depth (write x)) :
    reader.optional.ReadsBack depth ((a.map write).getD .null) := by
  cases a with
  | none => exact readsBack_null
  | some x => exact (h x rfl).optional

theorem readsBack_list {items : List α} {write : α → Value}
    (h : ∀ a ∈ items, reader.ReadsBack depth (write a)) :
    (list reader).ReadsBack (depth + 1) (.array (items.map write)) where
  isExact := exactItems_iff.mpr fun v hv => by
    obtain ⟨a, ha, rfl⟩ := List.mem_map.mp hv
    exact (h a ha).isExact
  settles := Value.settles_array fun v hv => by
    obtain ⟨a, ha, rfl⟩ := List.mem_map.mp hv
    exact (h a ha).settles
  reads := list_ofValue fun a ha => (h a ha).reads

theorem readsBack_strings (texts : List String) :
    (list string).ReadsBack (depth + 1) (.strings texts) :=
  readsBack_list fun s _ => readsBack_string s

theorem readsBack_table {fields : List (String × Value)} (hnodup : (fields.map Prod.fst).Nodup)
    (h : ∀ field ∈ fields, reader.ReadsBack depth field.2) :
    (table reader).ReadsBack (depth + 1) (.object fields) where
  isExact := exactFields_iff.mpr fun field hfield => (h field hfield).isExact
  settles := Value.settles_object hnodup fun field hfield => (h field hfield).settles
  reads := table_ofValue hnodup fun field hfield => (h field hfield).reads

/-- A field that is written, and read as it was written. -/
def FieldEntry.ofWritten (written : Field × Value) : FieldEntry :=
  ⟨written.1, some written.2, written.2⟩

theorem FieldEntry.members_ofWritten (written : List (Field × Value)) :
    members (written.map ofWritten) = written.map fun w => (w.1.name, w.2) := by
  rw [members, List.flatMap_map, List.map_eq_flatMap]
  rfl

/-- A record of which every field is written. -/
theorem readsBack_record (source : Source) (type : String) {written : List (Field × Value)}
    (hnodup : (written.map fun w => w.1.name).Nodup)
    (h : ∀ w ∈ written, w.1.reader.ReadsBack depth w.2) :
    (record source type (written.map Prod.fst)).ReadsBack (depth + 1)
      (.object (written.map fun w => (w.1.name, w.2))) where
  isExact := exactFields_iff.mpr fun field hfield => by
    obtain ⟨w, hw, rfl⟩ := List.mem_map.mp hfield
    exact (h w hw).isExact
  settles := by
    refine Value.settles_object ?_ fun field hfield => ?_
    · rwa [List.map_map]
    · obtain ⟨w, hw, rfl⟩ := List.mem_map.mp hfield
      exact (h w hw).settles
  reads := by
    have hread : record source type ((written.map FieldEntry.ofWritten).map FieldEntry.field)
        (Draft.ofValue (.object (FieldEntry.members (written.map FieldEntry.ofWritten)))) =
          .ok (.object ((written.map FieldEntry.ofWritten).map fun entry =>
            (entry.name, entry.read))) := by
      refine record_ofValue source type ?_ fun entry hentry => ?_
      · rwa [List.map_map]
      · obtain ⟨w, hw, rfl⟩ := List.mem_map.mp hentry
        exact (h w hw).reads
    rw [FieldEntry.members_ofWritten, List.map_map, List.map_map] at hread
    exact hread

end Reader

theorem Document.settle_read_pretty {v : Value} (hexact : v.IsExact)
    (hsettles : v.Settles maxDepth) : (read v.pretty.toList).settle = .ok v := by
  have hroot : (Draft.ofValue v).settle maxDepth = .ok v := hsettles
  rw [read_pretty hexact, settle, hroot]
  rfl

end BrowserFlow.Json
