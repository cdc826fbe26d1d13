import BrowserFlow.Flow.Inputs
import BrowserFlow.Proofs.Flow.Reload
import BrowserFlow.Proofs.Json.Range
import BrowserFlow.Proofs.Json.ReadBack

/-!
# Overrides read back

The texts of overrides and the text of a template are read as overrides: the same tables with the
same names in the same order, in which each number is the one that its text stands for. So they come
back as they are when their numbers are 64-bit integers. A real number can drift to a neighbour.
-/

namespace BrowserFlow

open Json (Document Draft Fault Reader Value)
open Json.Reader (FieldEntry)

namespace Json

/-- The text of the entry is read as the other entry. -/
def EntryReadAs (entry other : String × Value) : Prop :=
  other.1 = entry.1 ∧ entry.2.draft = Draft.ofValue other.2

theorem rereadMembers_of_forall₂ {fields others : List (String × Value)}
    (h : List.Forall₂ EntryReadAs fields others) :
    rereadMembers fields = draftMembers others := by
  induction h with
  | nil => rfl
  | @cons field other _ _ hfirst _ ih =>
      obtain ⟨name, value⟩ := field
      obtain ⟨otherName, otherValue⟩ := other
      obtain ⟨hname, hdraft⟩ := hfirst
      obtain rfl : otherName = name := hname
      rw [rereadMembers, draftMembers, ih, hdraft]

/-- An object settles only when every value in it does. -/
theorem exists_settle_of_object {fields : List (String × Value)} {depth : Nat} {value : Value}
    (h : (Value.object fields).draft.settle (depth + 1) = .ok value) :
    ∀ field ∈ fields, ∃ settled, field.2.draft.settle depth = .ok settled := by
  obtain ⟨settled, hsettled, -⟩ := exists_of_bind_eq_ok h
  clear h
  induction fields generalizing settled with
  | nil => exact nofun
  | cons field fields ih =>
      obtain ⟨_, -, hsettled⟩ := exists_of_bind_eq_ok hsettled
      obtain ⟨first, hfirst, hsettled⟩ := exists_of_bind_eq_ok hsettled
      obtain ⟨rest, hrest, -⟩ := exists_of_bind_eq_ok hsettled
      exact List.forall_mem_cons.mpr ⟨⟨first, hfirst⟩, ih rest hrest⟩

end Json

/-! ### Values read again -/

/-- What the text of a value stands for. -/
def Scalar.reread : Scalar → Except Fault Scalar
  | .number n => n.reread.map .number
  | .bool b => .ok (.bool b)
  | .text s => .ok (.text s)

/-- The same names in the same order, with the values read again. -/
def Params.RereadAs (params read : Params) : Prop :=
  List.Forall₂ (fun entry other => other.1 = entry.1 ∧ entry.2.reread = .ok other.2)
    params.entries read.entries

def InputTables.RereadAs (tables read : InputTables) : Prop :=
  ∀ kind, Params.RereadAs (tables.table kind) (read.table kind)

def Overrides.RereadAs (overrides read : Overrides) : Prop :=
  overrides.tables.RereadAs read.tables ∧ Params.RereadAs overrides.fields read.fields

def Params.IsExact (params : Params) : Prop := ∀ entry ∈ params.entries, entry.2.IsExact

def InputTables.IsExact (tables : InputTables) : Prop :=
  ∀ kind, Params.IsExact (tables.table kind)

def Overrides.IsExact (overrides : Overrides) : Prop :=
  overrides.tables.IsExact ∧ Params.IsExact overrides.fields

theorem Scalar.reread_of_isExact {scalar : Scalar} (h : scalar.IsExact) :
    scalar.reread = .ok scalar := by
  cases scalar with
  | number n => exact congrArg (Except.map Scalar.number) (Json.Number.reread_of_isExact h)
  | bool b => rfl
  | text s => rfl

theorem Params.rereadAs_of_isExact {params : Params} (h : params.IsExact) :
    params.RereadAs params :=
  List.forall₂_same.mpr fun entry hentry => ⟨rfl, Scalar.reread_of_isExact (h entry hentry)⟩

theorem Scalar.draft_toJson {scalar read : Scalar} (h : scalar.reread = .ok read) :
    scalar.toJson.draft = Draft.ofValue read.toJson := by
  cases scalar with
  | number n =>
      cases hn : n.reread with
      | error f =>
          rw [reread, hn] at h
          exact nomatch h
      | ok m =>
          rw [reread, hn] at h
          obtain rfl : number m = read := Except.ok.inj h
          exact congrArg Draft.number hn
  | bool b =>
      obtain rfl := Except.ok.inj h
      rfl
  | text s =>
      obtain rfl := Except.ok.inj h
      rfl

/-- Only a value whose text stands for one can be settled. -/
theorem Scalar.exists_reread_of_settle {scalar : Scalar} {depth : Nat} {value : Value}
    (h : scalar.toJson.draft.settle depth = .ok value) : ∃ read, scalar.reread = .ok read := by
  cases scalar with
  | number n =>
      cases hn : n.reread with
      | error f =>
          have hsettle : (n.reread.map Value.number) = .ok value := h
          rw [hn] at hsettle
          exact nomatch hsettle
      | ok m => exact ⟨number m, by rw [reread, hn]; rfl⟩
  | bool b => exact ⟨_, rfl⟩
  | text s => exact ⟨_, rfl⟩

theorem Params.draft_toJson {params read : Params} (h : params.RereadAs read) :
    params.toJson.draft = Draft.ofValue read.toJson := by
  refine congrArg (Draft.object · none) (Json.rereadMembers_of_forall₂ ?_)
  rw [List.forall₂_map_left_iff, List.forall₂_map_right_iff]
  exact List.Forall₂.imp (fun _ _ hentry => ⟨hentry.1, Scalar.draft_toJson hentry.2⟩) h

/-- What is read of each value makes a table with the same names. -/
theorem Params.exists_rereadAs {params : Params}
    (h : ∀ entry ∈ params.entries, ∃ read, entry.2.reread = .ok read) :
    ∃ read : Params, params.RereadAs read := by
  have hentries : ∀ entries : List (String × Scalar),
      (∀ entry ∈ entries, ∃ read, entry.2.reread = .ok read) →
        ∃ others : List (String × Scalar),
          List.Forall₂ (fun entry other => other.1 = entry.1 ∧ entry.2.reread = .ok other.2)
            entries others ∧ others.map Prod.fst = entries.map Prod.fst := by
    intro entries h
    induction entries with
    | nil => exact ⟨[], .nil, rfl⟩
    | cons entry entries ih =>
        obtain ⟨read, hread⟩ := h entry List.mem_cons_self
        obtain ⟨others, hothers, hnames⟩ := ih fun other hother =>
          h other (List.mem_cons_of_mem _ hother)
        refine ⟨(entry.1, read) :: others, .cons ⟨rfl, hread⟩ hothers, ?_⟩
        rw [List.map_cons, List.map_cons, hnames]
  obtain ⟨others, hothers, hnames⟩ := hentries params.entries h
  exact ⟨⟨others, hnames ▸ params.nodup⟩, hothers⟩

theorem Params.settles_toJson (depth : Nat) (params : Params) :
    params.toJson.Settles (depth + 1) := by
  refine Value.settles_object ?_ fun field hfield => ?_
  · rw [List.map_map]
    exact params.nodup
  · obtain ⟨⟨name, scalar⟩, -, rfl⟩ := List.mem_map.mp hfield
    cases scalar <;> rfl

theorem Params.exists_rereadAs_of_settle {params : Params} {depth : Nat} {value : Value}
    (h : params.toJson.draft.settle (depth + 1) = .ok value) :
    ∃ read : Params, params.RereadAs read := by
  refine exists_rereadAs fun entry hentry => ?_
  obtain ⟨settled, hsettled⟩ := Json.exists_settle_of_object h _ (List.mem_map_of_mem hentry)
  exact Scalar.exists_reread_of_settle hsettled

/-! ### Texts of overrides -/

namespace Overrides

/-- The tables by name, with the values for keys of any kind where they are written. -/
def parts (tables : InputTables) (fields : Option Params) : List (String × Params) :=
  (KeyKind.all.map fun kind => (InputTables.tableName kind, tables.table kind)) ++
    (fields.map fun params => ("fields", params)).toList

def written (tables : InputTables) (fields : Option Params) : Value :=
  .object ((parts tables fields).map fun part => (part.1, part.2.toJson))

theorem toJson_eq_written (overrides : Overrides) :
    overrides.toJson = written overrides.tables (some overrides.fields) := rfl

theorem tablesJson_eq_written (tables : InputTables) :
    tables.toJson = written tables Option.none := rfl

theorem nodup_parts (tables : InputTables) (fields : Option Params) :
    ((parts tables fields).map Prod.fst).Nodup := by
  have hnodup : fieldNames.Nodup := by decide
  cases fields with
  | none => exact hnodup.sublist (List.sublist_append_left _ _)
  | some fields => exact hnodup

theorem settles_written (tables : InputTables) (fields : Option Params) :
    (written tables fields).Settles Json.maxDepth := by
  refine Value.settles_object ?_ fun field hfield => ?_
  · rw [List.map_map]
    exact nodup_parts tables fields
  · obtain ⟨part, -, rfl⟩ := List.mem_map.mp hfield
    exact part.2.settles_toJson _

/-- Both tables are written and read, and so are the values for keys of any kind if they are. -/
def entries (tables : InputTables) (fields : Option Params) : List FieldEntry :=
  (KeyKind.all.map fun kind =>
    ⟨Reader.defaulted (InputTables.tableName kind) (.object []) tableReader,
      some (Params.toJson (tables.table kind)), Params.toJson (tables.table kind)⟩) ++
    [⟨Reader.defaulted "fields" (.object []) tableReader, fields.map Params.toJson,
      Params.toJson (fields.getD .empty)⟩]

theorem members_entries (tables : InputTables) (fields : Option Params) :
    Value.object (FieldEntry.members (entries tables fields)) = written tables fields := by
  cases fields <;> rfl

/-- The values for keys of any kind are empty where they are not written. -/
theorem reader_written (tables : InputTables) (fields : Option Params) :
    reader (Draft.ofValue (written tables fields)) =
      .ok (toJson ⟨tables, fields.getD .empty⟩) := by
  have hnodup : ((entries tables fields).map FieldEntry.name).Nodup := by
    have hnames : (entries tables fields).map FieldEntry.name = fieldNames := rfl
    rw [hnames]
    decide
  have hholds : ∀ entry ∈ entries tables fields, entry.Holds := by
    intro entry hentry
    rcases List.mem_append.mp hentry with hentry | hentry
    · obtain ⟨kind, -, rfl⟩ := List.mem_map.mp hentry
      exact Params.reader_toJson _ (tables.table kind)
    · obtain rfl := List.mem_singleton.mp hentry
      cases fields with
      | none => exact .inr rfl
      | some fields => exact Params.reader_toJson _ fields
  rw [← members_entries]
  exact Reader.record_ofValue .text "struct InputOverrides" hnodup hholds

theorem ofJson_toJson (overrides : Overrides) : ofJson overrides.toJson = overrides := by
  obtain ⟨⟨byTestId, byName, byId, byLabel, byPlaceholder⟩, fields⟩ := overrides
  have hread : ofJson (toJson ⟨⟨byTestId, byName, byId, byLabel, byPlaceholder⟩, fields⟩) =
      ⟨⟨Params.ofJson (Params.toJson byTestId), Params.ofJson (Params.toJson byName),
        Params.ofJson (Params.toJson byId), Params.ofJson (Params.toJson byLabel),
        Params.ofJson (Params.toJson byPlaceholder)⟩, Params.ofJson (Params.toJson fields)⟩ := rfl
  simp only [hread, Params.ofJson_toJson]

section Reading

variable {text : String} {tables : InputTables} {fields : Option Params} {read : Overrides}

theorem ofText?_of_draft
    (h : Document.read text.toList = ⟨Draft.ofValue (written tables fields), false⟩) :
    ofText? text = some ⟨tables, fields.getD .empty⟩ := by
  have hsettle : (Document.read text.toList).settle = .ok (written tables fields) := by
    have hroot : (Draft.ofValue (written tables fields)).settle Json.maxDepth =
      .ok (written tables fields) := settles_written tables fields
    rw [h, Document.settle, hroot]
    rfl
  have hrun : reader.run text = .ok (toJson ⟨tables, fields.getD .empty⟩) := by
    rw [Reader.run, h, Document.readWith, reader_written]
    rfl
  have hobject : (Document.read text.toList).root =
      .object (Json.draftMembers
        ((parts tables fields).map fun part => (part.1, part.2.toJson))) Option.none := by
    rw [h]
    rfl
  rw [ofText?]
  simp only [hobject, hsettle, hrun]
  exact congrArg some (ofJson_toJson _)

theorem rereadAs_empty_iff {params : Params} :
    Params.RereadAs .empty params ↔ params = .empty := by
  constructor
  · intro h
    exact Table.ext_entries (List.forall₂_nil_left_iff.mp h)
  · rintro rfl
    exact .nil

/-- What is not written is not read either. -/
theorem getD_map_fields (h : RereadAs ⟨tables, fields.getD .empty⟩ read) :
    (fields.map fun _ => read.fields).getD .empty = read.fields := by
  cases fields with
  | none => exact (rereadAs_empty_iff.mp h.2).symm
  | some fields => rfl

theorem draft_written (h : RereadAs ⟨tables, fields.getD .empty⟩ read) :
    (written tables fields).draft =
      Draft.ofValue (written read.tables (fields.map fun _ => read.fields)) := by
  refine congrArg (Draft.object · Option.none) (Json.rereadMembers_of_forall₂ ?_)
  rw [List.forall₂_map_left_iff, List.forall₂_map_right_iff]
  refine List.rel_append ?_ ?_
  · rw [List.forall₂_map_left_iff, List.forall₂_map_right_iff]
    exact List.forall₂_same.mpr fun kind _ => ⟨rfl, Params.draft_toJson (h.1 kind)⟩
  · cases fields with
    | none => exact .nil
    | some fields => exact .cons ⟨rfl, Params.draft_toJson h.2⟩ .nil

theorem exists_rereadAs_of_settle {value : Value}
    (h : (written tables fields).draft.settle Json.maxDepth = .ok value) :
    ∃ read, RereadAs ⟨tables, fields.getD .empty⟩ read := by
  have hpart : ∀ part ∈ parts tables fields, ∃ read, Params.RereadAs part.2 read := by
    intro part hpart
    obtain ⟨settled, hsettled⟩ := Json.exists_settle_of_object h _ (List.mem_map_of_mem hpart)
    exact Params.exists_rereadAs_of_settle hsettled
  have hkind : ∀ kind, ∃ read, Params.RereadAs (tables.table kind) read := by
    intro kind
    have hmem : kind ∈ KeyKind.all := by cases kind <;> decide
    exact hpart _ (List.mem_append_left _ (List.mem_map_of_mem hmem))
  have hfields : ∃ read, Params.RereadAs (fields.getD .empty) read := by
    cases fields with
    | none => exact ⟨.empty, .nil⟩
    | some fields => exact hpart ("fields", fields) (List.mem_append_right _ List.mem_cons_self)
  choose readTable hreadTable using hkind
  obtain ⟨readFields, hreadFields⟩ := hfields
  refine ⟨⟨⟨readTable .testId, readTable .name, readTable .id, readTable .label,
    readTable .placeholder⟩, readFields⟩, fun kind => ?_, hreadFields⟩
  cases kind <;> exact hreadTable _

/-- Overrides are read from the draft of what is written exactly as its numbers are. -/
theorem ofText?_eq_some_iff (tables : InputTables) (fields : Option Params)
    (h : Document.read text.toList = ⟨(written tables fields).draft, false⟩) :
    ofText? text = some read ↔ RereadAs ⟨tables, fields.getD .empty⟩ read := by
  have hread : ∀ {read}, RereadAs ⟨tables, fields.getD .empty⟩ read → ofText? text = some read := by
    intro read hreread
    rw [ofText?_of_draft (h.trans (by rw [draft_written hreread])), getD_map_fields hreread]
  refine ⟨fun hsome => ?_, hread⟩
  obtain ⟨value, hvalue⟩ : ∃ value, (Document.read text.toList).settle = .ok value := by
    rw [ofText?] at hsome
    split at hsome
    · next value _ hvalue => exact ⟨_, hvalue⟩
    · exact nomatch hsome
  rw [h] at hvalue
  obtain ⟨settled, hsettled, -⟩ := exists_of_bind_eq_ok hvalue
  obtain ⟨other, hother⟩ := exists_rereadAs_of_settle hsettled
  obtain rfl : other = read := Option.some.inj ((hread hother).symm.trans hsome)
  exact hother

end Reading

/-! ### Compact and pretty texts -/

theorem ofText?_compact_iff {overrides read : Overrides} :
    ofText? overrides.toJson.compact = some read ↔ overrides.RereadAs read := by
  rw [toJson_eq_written]
  exact ofText?_eq_some_iff _ _ (Document.read_compact_eq_draft _)

theorem ofText?_pretty_iff {overrides read : Overrides} :
    ofText? overrides.toJson.pretty = some read ↔ overrides.RereadAs read := by
  rw [toJson_eq_written]
  exact ofText?_eq_some_iff _ _ (Document.read_pretty_eq_draft _)

/-- A template has no values for keys of any kind. -/
theorem ofText?_template_iff {tables : InputTables} {read : Overrides} :
    ofText? tables.text = some read ↔ tables.RereadAs read.tables ∧ read.fields = .empty := by
  rw [← rereadAs_empty_iff, InputTables.text, tablesJson_eq_written]
  exact ofText?_eq_some_iff _ _ (Document.read_pretty_eq_draft _)

theorem rereadAs_of_isExact {overrides : Overrides} (h : overrides.IsExact) :
    overrides.RereadAs overrides :=
  ⟨fun kind => Params.rereadAs_of_isExact (h.1 kind), Params.rereadAs_of_isExact h.2⟩

/-- Overrides and templates come back from their texts with each number as its text stands for it,
and so unchanged when their numbers are 64-bit integers. -/
theorem texts_read_back :
    (∀ overrides read : Overrides,
      (ofText? overrides.toJson.compact = some read ↔ overrides.RereadAs read) ∧
        (ofText? overrides.toJson.pretty = some read ↔ overrides.RereadAs read)) ∧
    (∀ (tables : InputTables) (read : Overrides),
      ofText? tables.text = some read ↔ tables.RereadAs read.tables ∧ read.fields = .empty) ∧
    (∀ overrides : Overrides, overrides.IsExact →
      ofText? overrides.toJson.compact = some overrides ∧
        ofText? overrides.toJson.pretty = some overrides) ∧
    ∀ tables : InputTables, tables.IsExact → ofText? tables.text = some ⟨tables, .empty⟩ := by
  refine ⟨fun _ _ => ⟨ofText?_compact_iff, ofText?_pretty_iff⟩, fun _ _ => ofText?_template_iff,
    fun overrides h => ?_, fun tables h => ?_⟩
  · have hself := rereadAs_of_isExact h
    exact ⟨ofText?_compact_iff.mpr hself, ofText?_pretty_iff.mpr hself⟩
  · exact ofText?_template_iff.mpr ⟨fun kind => Params.rereadAs_of_isExact (h kind), rfl⟩

/-- A real number whose shortest text is read as its neighbour. -/
def driftingTables : InputTables :=
  { InputTables.empty with byName := .single "share" (.number (.real ⟨4593578211845588541⟩)) }

theorem ofText?_driftingTables :
    ofText? driftingTables.text ≠ some ⟨driftingTables, .empty⟩ := by
  decide +kernel

end Overrides

end BrowserFlow
