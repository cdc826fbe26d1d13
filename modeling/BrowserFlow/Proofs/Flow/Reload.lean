import BrowserFlow.Flow.Codec
import BrowserFlow.Proofs.Json.Pretty
import BrowserFlow.Proofs.Json.Records

/-!
# Flows read back

The text of a flow can be read, and what is read has the same name and the same steps in the same
order, with the same ids, conditions and parameters. What may change is each locator, which is read
from its expression, and a foreign step type whose tag is that of a known one.
-/

namespace BrowserFlow

open Json (Draft Reader Source Value)
open Json.Reader (FieldEntry)

def Locator.reloaded (l : Locator) : Locator := .ofExpression l.expression

def Bundle.reloaded (b : Bundle) : Bundle := ⟨b.primary.reloaded, b.fallbacks.map Locator.reloaded⟩

theorem Bundle.candidates_reloaded (b : Bundle) :
    b.reloaded.candidates = b.candidates.map Locator.reloaded := rfl

def Step.reloaded (step : Step) : Step :=
  { step with
    type := .ofTag step.type.tag
    selectors := step.selectors.reloaded }

def Flow.reloaded (flow : Flow) : Flow := { flow with steps := flow.steps.map Step.reloaded }

def Scalar.IsExact : Scalar → Prop
  | .number n => n.IsExact
  | .bool _ | .text _ => True

def Step.IsExact (step : Step) : Prop :=
  ∀ params ∈ step.params, ∀ entry ∈ params.entries, entry.2.IsExact

def Flow.IsExact (flow : Flow) : Prop := ∀ step ∈ flow.steps, step.IsExact

/-! ### Parameters -/

theorem Scalar.toJson_isExact {scalar : Scalar} (h : scalar.IsExact) : scalar.toJson.IsExact := by
  cases scalar with
  | number n => exact h
  | _ => trivial

theorem Scalar.reader_toJson (depth : Nat) (scalar : Scalar) :
    Scalar.reader depth (Draft.ofValue scalar.toJson) = .ok scalar.toJson := by
  cases scalar <;> rfl

theorem Scalar.ofJson_toJson (scalar : Scalar) : ofJson scalar.toJson = scalar := by
  cases scalar <;> rfl

theorem Params.reader_toJson (depth : Nat) (params : Params) :
    Params.reader depth (Draft.ofValue params.toJson) = .ok params.toJson := by
  refine Reader.table_ofValue ?_ fun field hfield => ?_
  · rw [List.map_map]
    exact params.nodup
  · obtain ⟨⟨name, scalar⟩, -, rfl⟩ := List.mem_map.mp hfield
    exact Scalar.reader_toJson depth scalar

theorem Params.ofJson_toJson (params : Params) : ofJson params.toJson = params := by
  have hentries : (params.toJson.getFields.map fun field => (field.1, Scalar.ofJson field.2)) =
      params.entries := by
    simp [Params.toJson, Value.getFields, Function.comp_def, Scalar.ofJson_toJson]
  calc
    ofJson params.toJson = Table.ofEntries params.entries := congrArg Table.ofEntries hentries
    _ = params := Table.ofEntries_entries params

/-! ### Parts of a step -/

theorem StepType.ofTag_tag {type : StepType} (h : type.isKnown) : ofTag type.tag = type := by
  cases type with
  | other t => exact nomatch h
  | _ => rfl

/-- An entry for a field that is written only when it is there. -/
def optionalEntry (name : String) (reader : Reader) (a : Option α) (write read : α → Value) :
    FieldEntry :=
  ⟨Reader.omittable name reader, a.map write, (a.map read).getD .null⟩

theorem members_required (name : String) (reader : Reader) (written read : Value)
    (entries : List FieldEntry) :
    FieldEntry.members (⟨Reader.required name reader, some written, read⟩ :: entries) =
      (name, written) :: FieldEntry.members entries := rfl

theorem members_optionalEntry (name : String) (reader : Reader) (a : Option α)
    (write read : α → Value) (entries : List FieldEntry) :
    FieldEntry.members (optionalEntry name reader a write read :: entries) =
      presentField name (a.map write) ++ FieldEntry.members entries := rfl

theorem members_singleton (name : String) (reader : Reader) (a : Option α)
    (write read : α → Value) :
    FieldEntry.members [optionalEntry name reader a write read] =
      presentField name (a.map write) := List.append_nil _

theorem optionalEntry_holds {name : String} {reader : Reader} {a : Option α}
    {write read : α → Value}
    (h : ∀ x, reader.optional (Draft.ofValue (write x)) = .ok (read x)) :
    (optionalEntry name reader a write read).Holds := by
  cases a with
  | none => exact .inr rfl
  | some x => exact h x

theorem optionalEntry_string_holds (name : String) (text : Option String) :
    (optionalEntry name Reader.string text .string .string).Holds :=
  optionalEntry_holds fun _ => rfl

def Bundle.entries (b : Bundle) : List FieldEntry :=
  [⟨Reader.required "primary" Reader.string, some (.string b.primary.expression),
      .string b.primary.expression⟩,
    ⟨Reader.defaulted "fallbacks" (.array []) (Reader.list Reader.string),
      some (.array (b.fallbacks.map fun l => .string l.expression)),
      .array (b.fallbacks.map fun l => .string l.expression)⟩]

theorem Bundle.reader_toJson (source : Source) (b : Bundle) :
    Bundle.reader source (Draft.ofValue b.toJson) = .ok b.toJson := by
  have hnodup : (b.entries.map FieldEntry.name).Nodup := by
    have hnames : b.entries.map FieldEntry.name = ["primary", "fallbacks"] := rfl
    rw [hnames]
    decide
  have hfallbacks : Reader.list Reader.string (Draft.ofValue (.array
      (b.fallbacks.map fun l => .string l.expression))) =
        .ok (.array (b.fallbacks.map fun l => .string l.expression)) :=
    Reader.list_ofValue fun _ _ => rfl
  have hholds : ∀ entry ∈ b.entries, entry.Holds := by
    intro entry hentry
    simp only [entries, List.mem_cons, List.not_mem_nil, or_false] at hentry
    rcases hentry with rfl | rfl
    · rfl
    · exact hfallbacks
  exact Reader.record_ofValue source "struct SelectorBundle" hnodup hholds

theorem Bundle.ofJson_toJson (b : Bundle) : ofJson b.toJson = b.reloaded := by
  simp [ofJson, toJson, reloaded, Locator.reloaded, Value.field, findValue?, Value.getString,
    Value.getStrings, Value.getItems]

def Precondition.entries (p : Precondition) : List FieldEntry :=
  [optionalEntry "urlMatches" Reader.string p.urlMatches .string .string]

/-- A precondition with every field in place. -/
def Precondition.settled (p : Precondition) : Value :=
  .object (p.entries.map fun entry => (entry.name, entry.read))

theorem Precondition.reader_toJson (source : Source) (p : Precondition) :
    Precondition.reader source (Draft.ofValue p.toJson) = .ok p.settled := by
  have hmembers : p.toJson = .object (FieldEntry.members p.entries) := by
    rw [toJson, entries, members_singleton]
  have hnodup : (p.entries.map FieldEntry.name).Nodup := List.nodup_singleton _
  have hholds : ∀ entry ∈ p.entries, entry.Holds := by
    intro entry hentry
    obtain rfl := List.mem_singleton.mp hentry
    exact optionalEntry_string_holds "urlMatches" p.urlMatches
  rw [hmembers]
  exact Reader.record_ofValue source "struct StepPrecondition" hnodup hholds

theorem Precondition.ofJson_settled (p : Precondition) : ofJson p.settled = p := by
  obtain ⟨_ | url⟩ := p <;> rfl

def Effect.entries (e : Effect) : List FieldEntry :=
  [optionalEntry "urlMatches" Reader.string e.urlMatches .string .string,
    optionalEntry "elementVisible" Reader.string e.elementVisible .string .string]

def Effect.settled (e : Effect) : Value :=
  .object (e.entries.map fun entry => (entry.name, entry.read))

theorem Effect.reader_toJson (source : Source) (e : Effect) :
    Effect.reader source (Draft.ofValue e.toJson) = .ok e.settled := by
  have hmembers : e.toJson = .object (FieldEntry.members e.entries) := by
    rw [toJson, entries, members_optionalEntry, members_singleton]
  have hnodup : (e.entries.map FieldEntry.name).Nodup := by
    have hnames : e.entries.map FieldEntry.name = ["urlMatches", "elementVisible"] := rfl
    rw [hnames]
    decide
  have hholds : ∀ entry ∈ e.entries, entry.Holds := by
    intro entry hentry
    simp only [entries, List.mem_cons, List.not_mem_nil, or_false] at hentry
    rcases hentry with rfl | rfl
    · exact optionalEntry_string_holds "urlMatches" e.urlMatches
    · exact optionalEntry_string_holds "elementVisible" e.elementVisible
  rw [hmembers]
  exact Reader.record_ofValue source "struct StepEffect" hnodup hholds

theorem Effect.ofJson_settled (e : Effect) : ofJson e.settled = e := by
  obtain ⟨_ | url, _ | element⟩ := e <;> rfl

/-! ### Steps and flows -/

def Step.entries (source : Source) (step : Step) : List FieldEntry :=
  [⟨Reader.required "id" Reader.string, some (.string step.id), .string step.id⟩,
    ⟨Reader.required "type" Reader.string, some (.string step.type.tag), .string step.type.tag⟩,
    ⟨Reader.required "selectors" (Bundle.reader source), some step.selectors.toJson,
      step.selectors.toJson⟩,
    optionalEntry "preconditions" (Precondition.reader source) step.precondition
      Precondition.toJson Precondition.settled,
    optionalEntry "effects" (Effect.reader source) step.effect Effect.toJson Effect.settled,
    optionalEntry "params" (Params.reader (Json.maxDepth - paramDepth)) step.params Params.toJson
      Params.toJson]

def Step.settled (source : Source) (step : Step) : Value :=
  .object ((step.entries source).map fun entry => (entry.name, entry.read))

theorem Step.reader_toJson (source : Source) (step : Step) :
    Step.reader source (Draft.ofValue step.toJson) = .ok (step.settled source) := by
  have hmembers : step.toJson = .object (FieldEntry.members (step.entries source)) := by
    rw [toJson, conditionFields, List.append_assoc, entries, members_required, members_required,
      members_required, members_optionalEntry, members_optionalEntry, members_singleton]
    rfl
  have hnodup : ((step.entries source).map FieldEntry.name).Nodup := by
    have hnames : (step.entries source).map FieldEntry.name =
        ["id", "type", "selectors", "preconditions", "effects", "params"] := rfl
    rw [hnames]
    decide
  have hholds : ∀ entry ∈ step.entries source, entry.Holds := by
    intro entry hentry
    simp only [entries, List.mem_cons, List.not_mem_nil, or_false] at hentry
    rcases hentry with rfl | rfl | rfl | rfl | rfl | rfl
    · rfl
    · rfl
    · exact Bundle.reader_toJson source step.selectors
    · exact optionalEntry_holds fun p => Precondition.reader_toJson source p
    · exact optionalEntry_holds fun e => Effect.reader_toJson source e
    · exact optionalEntry_holds fun params => Params.reader_toJson _ params
  rw [hmembers]
  exact Reader.record_ofValue source "struct Step" hnodup hholds

theorem Step.ofJson_settled (source : Source) (step : Step) :
    ofJson (step.settled source) = step.reloaded := by
  have hprecondition : ((step.precondition.map Precondition.settled).getD .null).get?
      Precondition.ofJson = step.precondition :=
    Value.get?_getD_null (fun _ => rfl) fun p _ => p.ofJson_settled
  have heffect : ((step.effect.map Effect.settled).getD .null).get? Effect.ofJson = step.effect :=
    Value.get?_getD_null (fun _ => rfl) fun e _ => e.ofJson_settled
  have hparams : ((step.params.map Params.toJson).getD .null).get? Params.ofJson = step.params :=
    Value.get?_getD_null (fun _ => rfl) fun params _ => params.ofJson_toJson
  have hselectors := Bundle.ofJson_toJson step.selectors
  rw [reloaded, ← hselectors]
  exact Step.mk.injEq .. |>.mpr ⟨rfl, rfl, rfl, hprecondition, heffect, hparams⟩

def Flow.entries (source : Source) (flow : Flow) : List FieldEntry :=
  [⟨Reader.required "name" Reader.string, some (.string flow.name), .string flow.name⟩,
    ⟨Reader.required "steps" (Reader.list (Step.reader source)),
      some (.array (flow.steps.map Step.toJson)), .array (flow.steps.map (Step.settled source))⟩]

def Flow.settled (source : Source) (flow : Flow) : Value :=
  .object ((flow.entries source).map fun entry => (entry.name, entry.read))

theorem Flow.reader_toJson (source : Source) (flow : Flow) :
    Flow.reader source (Draft.ofValue flow.toJson) = .ok (flow.settled source) := by
  have hnodup : ((flow.entries source).map FieldEntry.name).Nodup := by
    have hnames : (flow.entries source).map FieldEntry.name = ["name", "steps"] := rfl
    rw [hnames]
    decide
  have hholds : ∀ entry ∈ flow.entries source, entry.Holds := by
    intro entry hentry
    simp only [entries, List.mem_cons, List.not_mem_nil, or_false] at hentry
    rcases hentry with rfl | rfl
    · rfl
    · exact Reader.list_ofValue fun step _ => Step.reader_toJson source step
  exact Reader.record_ofValue source "struct Flow" hnodup hholds

theorem Flow.ofJson_settled (source : Source) (flow : Flow) :
    ofJson (flow.settled source) = flow.reloaded := by
  have hsteps : (flow.steps.map (Step.settled source)).map Step.ofJson =
      flow.steps.map Step.reloaded := by
    simp [Function.comp_def, Step.ofJson_settled]
  rw [reloaded, ← hsteps]
  rfl

/-! ### Exact numbers -/

theorem presentField_isExact {name : String} {a : Option α} {write : α → Value}
    (h : ∀ x ∈ a, (write x).IsExact) :
    ∀ field ∈ presentField name (a.map write), field.2.IsExact := by
  intro field hfield
  rw [presentField, Option.mem_toList, Option.map_map, Option.map_eq_some_iff] at hfield
  obtain ⟨x, hx, rfl⟩ := hfield
  exact h x hx

theorem Params.toJson_isExact {params : Params} (h : ∀ entry ∈ params.entries, entry.2.IsExact) :
    params.toJson.IsExact := by
  apply Json.exactFields_iff.mpr
  intro field hfield
  obtain ⟨entry, hentry, rfl⟩ := List.mem_map.mp hfield
  exact Scalar.toJson_isExact (h entry hentry)

theorem Bundle.toJson_isExact (b : Bundle) : b.toJson.IsExact := by
  refine ⟨trivial, Json.exactItems_iff.mpr fun v hv => ?_, trivial⟩
  obtain ⟨l, -, rfl⟩ := List.mem_map.mp hv
  trivial

theorem Precondition.toJson_isExact (p : Precondition) : p.toJson.IsExact := by
  apply Json.exactFields_iff.mpr
  apply presentField_isExact
  intro text _
  trivial

theorem Effect.toJson_isExact (e : Effect) : e.toJson.IsExact := by
  have htext : ∀ name (text : Option String), ∀ field ∈ presentField name (text.map Value.string),
      field.2.IsExact := by
    intro name text
    apply presentField_isExact
    intro s _
    trivial
  apply Json.exactFields_iff.mpr
  intro field hfield
  rcases List.mem_append.mp hfield with hfield | hfield
  · exact htext "urlMatches" e.urlMatches field hfield
  · exact htext "elementVisible" e.elementVisible field hfield

theorem Step.conditionFields_isExact {step : Step} (h : step.IsExact) :
    ∀ field ∈ step.conditionFields, field.2.IsExact := by
  intro field hfield
  rcases List.mem_append.mp hfield with hfield | hfield
  · rcases List.mem_append.mp hfield with hfield | hfield
    · exact presentField_isExact (fun p _ => p.toJson_isExact) field hfield
    · exact presentField_isExact (fun e _ => e.toJson_isExact) field hfield
  · exact presentField_isExact (fun params hparams => Params.toJson_isExact (h params hparams))
      field hfield

theorem Step.toJson_isExact {step : Step} (h : step.IsExact) : step.toJson.IsExact := by
  apply Json.exactFields_iff.mpr
  intro field hfield
  rcases List.mem_append.mp hfield with hfield | hfield
  · simp only [List.mem_cons, List.not_mem_nil, or_false] at hfield
    rcases hfield with rfl | rfl | rfl
    · trivial
    · trivial
    · exact step.selectors.toJson_isExact
  · exact conditionFields_isExact h field hfield

theorem Flow.toJson_isExact {flow : Flow} (h : flow.IsExact) : flow.toJson.IsExact := by
  refine ⟨trivial, Json.exactItems_iff.mpr fun v hv => ?_, trivial⟩
  obtain ⟨step, hstep, rfl⟩ := List.mem_map.mp hv
  exact Step.toJson_isExact (h step hstep)

/-- The text of a flow can be read; only locators and foreign types may change. -/
theorem Flow.ofText_text {flow : Flow} (h : flow.IsExact) :
    ofText flow.text = .ok flow.reloaded := by
  have hread : Json.Document.read flow.text.toList = ⟨Draft.ofValue flow.toJson, false⟩ :=
    Json.Document.read_pretty (toJson_isExact h)
  rw [ofText, Reader.run, hread, Json.Document.readWith]
  simp only [bind, Except.bind, reader_toJson]
  exact congrArg Except.ok (ofJson_settled .text flow)

end BrowserFlow
