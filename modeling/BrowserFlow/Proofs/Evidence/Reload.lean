import BrowserFlow.Evidence.Codec
import BrowserFlow.Proofs.Json.Range
import BrowserFlow.Proofs.Json.ReadBack

/-!
# Recordings read back

Every field of an event is written, absent ones as null, and so an event that is written is read as
it was. Only the bounds of an element are kept from this: they are real numbers, of which the text
need not give back the last digit. A time stamp that was read from a text fits in 64 bits, and so it
can be read again.
-/

namespace BrowserFlow

open Json (Draft Reader Source Value)
open Json.Reader (Field ReadsBack)

/-! ### Attributes -/

namespace Attributes

theorem insertEntry_of_forall_lt {name : String} (value : String) {entries : List (String × String)}
    (h : ∀ entry ∈ entries, entry.1 < name) :
    insertEntry name value entries = entries ++ [(name, value)] := by
  induction entries with
  | nil => rfl
  | cons entry entries ih =>
      obtain ⟨other, old⟩ := entry
      have hlt : other < name := h _ List.mem_cons_self
      have hne : name ≠ other := fun heq => String.lt_irrefl _ (heq ▸ hlt)
      have hnot : ¬name < other := fun hgt => String.lt_irrefl _ (String.lt_trans hlt hgt)
      rw [insertEntry, if_neg hnot, if_neg hne,
        ih fun entry hentry => h entry (List.mem_cons_of_mem _ hentry)]
      rfl

theorem entries_foldl_insert {entries : List (String × String)} {attributes : Attributes}
    (h : (attributes.entries ++ entries).Pairwise (·.1 < ·.1)) :
    (entries.foldl (fun attributes (name, value) => attributes.insert name value)
      attributes).entries = attributes.entries ++ entries := by
  induction entries generalizing attributes with
  | nil => simp
  | cons entry entries ih =>
      obtain ⟨name, value⟩ := entry
      have hless : ∀ other ∈ attributes.entries, other.1 < name := fun other hother =>
        (List.pairwise_append.mp h).2.2 other hother (name, value) List.mem_cons_self
      have hinsert : (attributes.insert name value).entries =
          attributes.entries ++ [(name, value)] := insertEntry_of_forall_lt value hless
      rw [List.foldl_cons, ih, hinsert, List.append_assoc]
      · rfl
      · rwa [hinsert, List.append_assoc]

theorem ext_entries : ∀ {attributes others : Attributes},
    attributes.entries = others.entries → attributes = others
  | ⟨_, _⟩, ⟨_, _⟩, rfl => rfl

theorem ofEntries_entries (attributes : Attributes) :
    ofEntries attributes.entries = attributes :=
  ext_entries (entries_foldl_insert attributes.sorted)

theorem readsBack (depth : Nat) (attributes : Attributes) :
    (Reader.table Reader.string).ReadsBack (depth + 1) attributes.toJson := by
  refine Reader.readsBack_table ?_ fun field hfield => ?_
  · rw [List.map_map]
    refine List.pairwise_map.mpr (attributes.sorted.imp fun {entry later} hlt heq => ?_)
    have hname : entry.1 = later.1 := heq
    exact String.lt_irrefl _ (hname ▸ hlt)
  · obtain ⟨entry, -, rfl⟩ := List.mem_map.mp hfield
    exact Reader.readsBack_string entry.2

theorem ofJson_toJson (attributes : Attributes) : ofJson attributes.toJson = attributes := by
  have hentries : (attributes.toJson.getFields.map fun field => (field.1, field.2.getString)) =
      attributes.entries := by
    simp [toJson, Value.getFields, Value.getString, Function.comp_def]
  calc
    ofJson attributes.toJson = ofEntries attributes.entries := congrArg ofEntries hentries
    _ = attributes := ofEntries_entries attributes

end Attributes

/-! ### Parts of an event -/

theorem getString?_optional (text : Option String) : (Value.optional text).getString? = text := by
  cases text <;> rfl

theorem getStrings_strings (texts : List String) : (Value.strings texts).getStrings = texts := by
  simp [Value.strings, Value.getStrings, Value.getItems, Value.getString, Function.comp_def]

namespace Parent

/-- The fields with what is written of each. -/
def written (p : Parent) : List (Field × Value) :=
  [(Reader.required "tagName" Reader.string, .string p.tagName),
    (Reader.nullable "id" Reader.string, .optional p.id),
    (Reader.nullable "name" Reader.string, .optional p.name),
    (Reader.defaulted "classList" (.array []) (Reader.list Reader.string), .strings p.classes),
    (Reader.nullable "role" Reader.string, .optional p.role),
    (Reader.nullable "textSnippet" Reader.string, .optional p.textSnippet)]

theorem readsBack (source : Source) (depth : Nat) (p : Parent) :
    (reader source).ReadsBack (depth + 2) p.toJson := by
  have hnodup : (p.written.map fun w => w.1.name).Nodup := by
    have hnames : (p.written.map fun w => w.1.name) =
        ["tagName", "id", "name", "classList", "role", "textSnippet"] := rfl
    rw [hnames]
    decide
  refine Reader.readsBack_record source "struct ParentSnapshot" hnodup fun w hw => ?_
  simp only [written, List.mem_cons, List.not_mem_nil, or_false] at hw
  rcases hw with rfl | rfl | rfl | rfl | rfl | rfl
  · exact Reader.readsBack_string p.tagName
  · exact Reader.readsBack_optional_string p.id
  · exact Reader.readsBack_optional_string p.name
  · exact Reader.readsBack_strings p.classes
  · exact Reader.readsBack_optional_string p.role
  · exact Reader.readsBack_optional_string p.textSnippet

theorem ofJson_toJson (p : Parent) : ofJson p.toJson = p :=
  Parent.mk.injEq .. |>.mpr
    ⟨rfl, getString?_optional p.id, getString?_optional p.name, getStrings_strings p.classes,
      getString?_optional p.role, getString?_optional p.textSnippet⟩

end Parent

namespace Context

def written (source : Source) (c : Context) : List (Field × Value) :=
  [(Reader.defaulted "parentChain" (.array []) (Reader.list (Parent.reader source)),
      .array (c.parents.map Parent.toJson)),
    (Reader.defaulted "nearbyLabels" (.array []) (Reader.list Reader.string),
      .strings c.nearbyLabels)]

theorem readsBack (source : Source) (depth : Nat) (c : Context) :
    (reader source).ReadsBack (depth + 4) c.toJson := by
  have hnodup : ((c.written source).map fun w => w.1.name).Nodup := by
    have hnames : ((c.written source).map fun w => w.1.name) = ["parentChain", "nearbyLabels"] :=
      rfl
    rw [hnames]
    decide
  refine Reader.readsBack_record source "struct ContextSnapshot" hnodup fun w hw => ?_
  simp only [written, List.mem_cons, List.not_mem_nil, or_false] at hw
  rcases hw with rfl | rfl
  · exact Reader.readsBack_list fun p _ => p.readsBack source depth
  · exact Reader.readsBack_strings c.nearbyLabels

theorem ofJson_toJson (c : Context) : ofJson c.toJson = c := by
  have hparents : (c.parents.map Parent.toJson).map Parent.ofJson = c.parents := by
    simp [Function.comp_def, Parent.ofJson_toJson]
  exact Context.mk.injEq .. |>.mpr ⟨hparents, getStrings_strings c.nearbyLabels⟩

end Context

namespace Target

def written (source : Source) (t : Target) : List (Field × Value) :=
  [(Reader.nullable "tagName" Reader.string, .optional t.tagName),
    (Reader.nullable "inputType" Reader.string, .optional t.inputType),
    (Reader.nullable "id" Reader.string, .optional t.id),
    (Reader.nullable "name" Reader.string, .optional t.name),
    (Reader.defaulted "classList" (.array []) (Reader.list Reader.string), .strings t.classes),
    (Reader.defaulted "dataAttributes" (.object []) (Reader.table Reader.string),
      t.dataAttributes.toJson),
    (Reader.nullable "ariaLabel" Reader.string, .optional t.ariaLabel),
    (Reader.nullable "ariaLabelledby" Reader.string, .optional t.ariaLabelledBy),
    (Reader.nullable "role" Reader.string, .optional t.role),
    (Reader.nullable "placeholder" Reader.string, .optional t.placeholder),
    (Reader.nullable "title" Reader.string, .optional t.title),
    (Reader.nullable "innerText" Reader.string, .optional t.innerText),
    (Reader.nullable "value" Reader.string, .optional t.value),
    (Reader.nullable "boundingClientRect" (Rect.reader source),
      (t.bounds.map Rect.toJson).getD .null),
    (Reader.nullable "cssPath" Reader.string, .optional t.cssPath),
    (Reader.nullable "xpath" Reader.string, .optional t.xpath)]

theorem readsBack (source : Source) (depth : Nat) {t : Target} (hbounds : t.bounds = none) :
    (reader source).ReadsBack (depth + 2) t.toJson := by
  have hnodup : ((t.written source).map fun w => w.1.name).Nodup := by
    have hnames : ((t.written source).map fun w => w.1.name) =
        ["tagName", "inputType", "id", "name", "classList", "dataAttributes", "ariaLabel",
          "ariaLabelledby", "role", "placeholder", "title", "innerText", "value",
          "boundingClientRect", "cssPath", "xpath"] := rfl
    rw [hnames]
    decide
  have hnull : (t.bounds.map Rect.toJson).getD .null = .null := by
    rw [hbounds]
    rfl
  refine Reader.readsBack_record source "struct TargetFingerprint" hnodup fun w hw => ?_
  simp only [written, hnull, List.mem_cons, List.not_mem_nil, or_false] at hw
  rcases hw with rfl | rfl | rfl | rfl | rfl | rfl | rfl | rfl | rfl | rfl | rfl | rfl | rfl |
    rfl | rfl | rfl
  · exact Reader.readsBack_optional_string t.tagName
  · exact Reader.readsBack_optional_string t.inputType
  · exact Reader.readsBack_optional_string t.id
  · exact Reader.readsBack_optional_string t.name
  · exact Reader.readsBack_strings t.classes
  · exact t.dataAttributes.readsBack depth
  · exact Reader.readsBack_optional_string t.ariaLabel
  · exact Reader.readsBack_optional_string t.ariaLabelledBy
  · exact Reader.readsBack_optional_string t.role
  · exact Reader.readsBack_optional_string t.placeholder
  · exact Reader.readsBack_optional_string t.title
  · exact Reader.readsBack_optional_string t.innerText
  · exact Reader.readsBack_optional_string t.value
  · exact Reader.readsBack_null
  · exact Reader.readsBack_optional_string t.cssPath
  · exact Reader.readsBack_optional_string t.xpath

theorem ofJson_toJson {t : Target} (hbounds : t.bounds = none) : ofJson t.toJson = t := by
  have hrect : (((t.bounds.map Rect.toJson).getD .null).get? Rect.ofJson) = t.bounds := by
    rw [hbounds]
    rfl
  exact Target.mk.injEq .. |>.mpr
    ⟨getString?_optional t.tagName, getString?_optional t.inputType, getString?_optional t.id,
      getString?_optional t.name, getStrings_strings t.classes,
      t.dataAttributes.ofJson_toJson, getString?_optional t.ariaLabel,
      getString?_optional t.ariaLabelledBy, getString?_optional t.role,
      getString?_optional t.placeholder, getString?_optional t.title,
      getString?_optional t.innerText, getString?_optional t.value, hrect,
      getString?_optional t.cssPath, getString?_optional t.xpath⟩

end Target

theorem EventType.ofTag?_tag (type : EventType) : ofTag? type.tag = some type := by
  cases type <;> rfl

theorem EventType.tag_mem (type : EventType) : type.tag ∈ all.map tag := by
  cases type <;> simp [all]

/-! ### Events -/

namespace Event

/-- The element that was interacted with has no bounds. -/
def Unbounded (e : Event) : Prop := ∀ target ∈ e.target, target.bounds = none

/-- The time stamp fits in 64 bits. -/
def Stamped (e : Event) : Prop := e.timestamp < 2 ^ 64

def written (source : Source) (e : Event) : List (Field × Value) :=
  [(Reader.required "eventType" (EventType.reader source), .string e.type.tag),
    (Reader.required "timestamp" (Reader.natural "u64"), .nat e.timestamp),
    (Reader.omittable "url" Reader.string, .optional e.url),
    (Reader.defaulted "framePath" (.array []) (Reader.list Reader.string), .strings e.framePath),
    (Reader.nullable "target" (Target.reader source), (e.target.map Target.toJson).getD .null),
    (Reader.defaulted "context" Context.none.toJson (Context.reader source), e.context.toJson)]

theorem readsBack (source : Source) (depth : Nat) {e : Event} (hstamped : e.Stamped)
    (hunbounded : e.Unbounded) : (reader source).ReadsBack (depth + 5) e.toJson := by
  have hnodup : ((e.written source).map fun w => w.1.name).Nodup := by
    have hnames : ((e.written source).map fun w => w.1.name) =
        ["eventType", "timestamp", "url", "framePath", "target", "context"] := rfl
    rw [hnames]
    decide
  refine Reader.readsBack_record source "struct EvidenceEvent" hnodup fun w hw => ?_
  simp only [written, List.mem_cons, List.not_mem_nil, or_false] at hw
  rcases hw with rfl | rfl | rfl | rfl | rfl | rfl
  · exact Reader.readsBack_variant e.type.tag_mem
  · exact Reader.readsBack_natural hstamped
  · exact Reader.readsBack_optional_string e.url
  · exact Reader.readsBack_strings e.framePath
  · exact Reader.readsBack_getD_null fun target htarget =>
      target.readsBack source _ (hunbounded target htarget)
  · exact e.context.readsBack source depth

theorem ofJson_toJson {e : Event} (hunbounded : e.Unbounded) : ofJson e.toJson = e := by
  have htype : EventType.ofJson (.string e.type.tag) = e.type := by
    rw [EventType.ofJson, Value.getString, EventType.ofTag?_tag, Option.getD_some]
  have htarget : ((e.target.map Target.toJson).getD .null).get? Target.ofJson = e.target :=
    Value.get?_getD_null (fun _ => rfl) fun target htarget =>
      Target.ofJson_toJson (hunbounded target htarget)
  exact Event.mk.injEq .. |>.mpr
    ⟨htype, Int.toNat_natCast _, getString?_optional e.url, getStrings_strings e.framePath,
      htarget, e.context.ofJson_toJson⟩

/-- Events without bounds are read back from the text in which they are stored. -/
theorem listOfText_listText {events : List Event} (hstamped : ∀ e ∈ events, e.Stamped)
    (hunbounded : ∀ e ∈ events, e.Unbounded) : listOfText (listText events) = .ok events := by
  have hback : (Reader.list (reader .value)).ReadsBack Json.maxDepth (listToJson events) :=
    Reader.readsBack_list fun e he => readsBack .value _ (hstamped e he) (hunbounded e he)
  have hsettle : (Json.Document.read (listText events).toList).settle = .ok (listToJson events) :=
    Json.Document.settle_read_pretty hback.isExact hback.settles
  have hevents : (events.map toJson).map ofJson = events := by
    rw [List.map_map]
    exact map_eq_self_iff.mpr fun e he => ofJson_toJson (hunbounded e he)
  have hreads : Reader.list (reader .value) (Draft.ofValue (.array (events.map toJson))) =
      .ok (.array (events.map toJson)) := hback.reads
  rw [listOfText, hsettle, listToJson]
  simp only [hreads]
  exact congrArg Except.ok hevents

/-! ### Time stamps that were read -/

theorem stamped_of_reader {v w : Value} (hfits : v.Fits)
    (h : reader .value (Draft.ofValue v) = .ok w) : (ofJson w).Stamped := by
  obtain ⟨part, hpart, hread⟩ :=
    Reader.readFrom_of_record (by decide) h (List.mem_cons_of_mem _ List.mem_cons_self) rfl
  obtain ⟨stamp, hstamp, rfl⟩ := hfits.exists_of_mem_parts hpart
  exact Reader.getNat_lt_of_natural hstamp hread

/-- A time stamp that was read fits in 64 bits, wherever in the text the event stood. -/
theorem stamped_of_listOfText {text : String} {events : List Event}
    (h : listOfText text = .ok events) : ∀ e ∈ events, e.Stamped := by
  rw [listOfText] at h
  split at h
  · exact nomatch h
  · next items hsettle =>
      split at h
      · next v hlist =>
          obtain rfl := Except.ok.inj h
          intro e he
          obtain ⟨item, hitem, rfl⟩ := List.mem_map.mp he
          obtain ⟨part, hpart, hread⟩ := Reader.exists_of_list hlist item hitem
          obtain ⟨v, hv, rfl⟩ := (Json.Document.fits_of_settle hsettle).exists_of_mem_parts hpart
          exact stamped_of_reader hv hread
      · exact nomatch h
  · exact nomatch h

/-- Events that were read from some text, and have no bounds, are read back from their own. -/
theorem listOfText_listText_of_read {text : String} {events : List Event}
    (h : listOfText text = .ok events) (hunbounded : ∀ e ∈ events, e.Unbounded) :
    listOfText (listText events) = .ok events :=
  listOfText_listText (stamped_of_listOfText h) hunbounded

end Event

end BrowserFlow
