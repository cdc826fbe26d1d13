import BrowserFlow.Proofs.Flow.Agreement
import BrowserFlow.Proofs.Json.Delimited
import BrowserFlow.Proofs.Table

/-!
# Texts of equal flows

Equality of flows leaves two things about parameters open: the order of their names, and the sign of
zeros. The text holds both. So equal flows have one text, and then one digest, exactly when they
agree in these.
-/

namespace BrowserFlow

namespace Json.Double

theorem eq_of_isZero {x y : Double} (hx : x.isZero) (hy : y.isZero)
    (hsign : x.isNegative = y.isNegative) : x = y := by
  obtain ⟨x⟩ := x
  obtain ⟨y⟩ := y
  simp only [isZero, magnitudeBits, beq_iff_eq] at hx hy
  have hnegative : ∀ z : UInt64, (z >>> 63 == 1) = decide (z.toNat / 2 ^ 63 = 1) := by
    intro z
    rw [Bool.eq_iff_iff, beq_iff_eq, decide_eq_true_iff, ← UInt64.toNat_inj,
      UInt64.toNat_shiftRight, Nat.shiftRight_eq_div_pow]
    rfl
  simp only [isNegative, hnegative, decide_eq_decide] at hsign
  have hbits : x.toNat = y.toNat := by
    have hxlt := x.toNat_lt
    have hylt := y.toNat_lt
    omega
  rw [UInt64.toNat_inj.mp hbits]

theorem isNegative_eq_of_text_eq {x y : Double} (hx : x.isZero) (hy : y.isZero)
    (h : x.text = y.text) : x.isNegative = y.isNegative := by
  simp only [text, hx, hy, if_true] at h
  cases hsign : x.isNegative <;> cases hsign' : y.isNegative <;> simp_all

end Json.Double

namespace Scalar

def isNegativeZero : Scalar → Bool
  | number (.real x) => x.isZero && x.isNegative
  | _ => false

/-- Equal parameter values are the same one, or two zeros. -/
theorem eq_or_zeros_of_same {v w : Scalar} (h : v.same w) :
    v = w ∨ ∃ x y : Json.Double, v = number (.real x) ∧ w = number (.real y) ∧
      x.isZero ∧ y.isZero := by
  cases v with
  | bool a =>
      cases w with
      | bool b => exact .inl (congrArg bool (eq_of_beq h))
      | _ => exact nomatch h
  | text s =>
      cases w with
      | text t => exact .inl (congrArg text (eq_of_beq h))
      | _ => exact nomatch h
  | number m =>
      cases w with
      | number n =>
          cases m with
          | integer m =>
              cases n with
              | integer n => exact .inl (congrArg (number ∘ Json.Number.integer) (eq_of_beq h))
              | real y => exact nomatch h
          | real x =>
              cases n with
              | integer n => exact nomatch h
              | real y =>
                  rcases Bool.or_eq_true_iff.mp h with h | h
                  · exact .inl (congrArg (number ∘ Json.Number.real) (eq_of_beq h))
                  · obtain ⟨hx, hy⟩ := Bool.and_eq_true_iff.mp h
                    exact .inr ⟨x, y, rfl, rfl, hx, hy⟩
      | _ => exact nomatch h

theorem eq_of_same {v w : Scalar} (h : v.same w) (hzero : v.isNegativeZero = w.isNegativeZero) :
    v = w := by
  rcases eq_or_zeros_of_same h with h | ⟨x, y, rfl, rfl, hx, hy⟩
  · exact h
  · have hsign : x.isNegative = y.isNegative := by
      simpa [isNegativeZero, hx, hy] using hzero
    rw [Json.Double.eq_of_isZero hx hy hsign]

example : (number (.real ⟨0⟩)).same (number (.real ⟨0x8000000000000000⟩)) = true ∧
    (number (.real ⟨0⟩)).display = "0.0" ∧
      (number (.real ⟨0x8000000000000000⟩)).display = "-0.0" := by decide

theorem isNegativeZero_eq_of_writtenAlike {v w : Scalar} (h : v.same w)
    (halike : v.toJson.WrittenAlike w.toJson) : v.isNegativeZero = w.isNegativeZero := by
  rcases eq_or_zeros_of_same h with rfl | ⟨x, y, rfl, rfl, hx, hy⟩
  · rfl
  · have htext : x.text = y.text := Json.Value.writtenAlike_number_iff.mp halike
    simp [isNegativeZero, hx, hy, Json.Double.isNegative_eq_of_text_eq hx hy htext]

end Scalar

namespace Params

/-- What equality leaves open: the names in their order, and which values are negative zeros. -/
def layout (params : Params) : List (String × Bool) :=
  params.entries.map fun entry => (entry.1, entry.2.isNegativeZero)

theorem names_layout (params : Params) :
    params.layout.map Prod.fst = params.entries.map Prod.fst := by
  simp [layout, Function.comp_def]

section Same

variable {first second : Params} (h : Table.sameEntries Scalar.same first second)

include h

theorem eq_of_same (hlayout : first.layout = second.layout) : first = second := by
  have hnames : first.entries.map Prod.fst = second.entries.map Prod.fst := by
    rw [← names_layout, hlayout, names_layout]
  have hentries : List.Forall₂ (· = ·) first.entries second.entries := by
    refine List.Forall₂.mp (fun entry other hsame hzero => ?_)
      (Table.forall₂_of_sameEntries h hnames) (map_eq_map_iff_forall₂.mp hlayout)
    exact Prod.ext hsame.1 (Scalar.eq_of_same hsame.2 (Prod.mk.inj hzero).2)
  rw [List.forall₂_eq_eq_eq] at hentries
  exact Table.ext_entries hentries

theorem layout_eq_of_writtenAlike (halike : first.toJson.WrittenAlike second.toJson) :
    first.layout = second.layout := by
  obtain ⟨hnames, hvalues⟩ := Json.Value.writtenAlike_object_iff.mp halike
  rw [List.map_map, List.map_map] at hnames hvalues
  rw [List.forall₂_map_left_iff, List.forall₂_map_right_iff] at hvalues
  refine map_eq_map_iff_forall₂.mpr (List.Forall₂.mp (fun entry other hsame halike => ?_)
    (Table.forall₂_of_sameEntries h hnames) hvalues)
  exact Prod.ext hsame.1 (Scalar.isNegativeZero_eq_of_writtenAlike hsame.2 halike)

end Same

end Params

theorem sameOption_cases {same : α → α → Bool} {a b : Option α} (h : sameOption same a b) :
    (a = none ∧ b = none) ∨ ∃ x y, a = some x ∧ b = some y ∧ same x y := by
  cases a with
  | none =>
      cases b with
      | none => exact .inl ⟨rfl, rfl⟩
      | some y => exact nomatch h
  | some x =>
      cases b with
      | none => exact nomatch h
      | some y => exact .inr ⟨x, y, rfl, rfl, h⟩

namespace Step

def layout (step : Step) : List (String × Bool) := (step.params.map Params.layout).getD []

/-- The written fields that come before the parameters. -/
def fieldsBeforeParams (step : Step) : List (String × Json.Value) :=
  [("id", .string step.id), ("type", .string step.type.tag),
      ("selectors", step.selectors.toJson)] ++
    (presentField "preconditions" (step.precondition.map Precondition.toJson) ++
      presentField "effects" (step.effect.map Effect.toJson))

theorem toJson_eq (step : Step) :
    step.toJson = .object (step.fieldsBeforeParams ++
      presentField "params" (step.params.map Params.toJson)) := by
  rw [toJson, conditionFields, fieldsBeforeParams, ← List.append_assoc]

section Same

variable {first second : Step} (h : first.same second)

include h

/-- Equal steps differ at most in their parameters. -/
theorem eq_with_params_of_same :
    second = { first with params := second.params } ∧
      sameOption (Table.sameEntries Scalar.same) first.params second.params := by
  obtain ⟨id, type, selectors, precondition, effect, params⟩ := first
  obtain ⟨id', type', selectors', precondition', effect', params'⟩ := second
  simp only [same, Bool.and_eq_true_iff, beq_iff_eq] at h
  obtain ⟨⟨⟨⟨⟨rfl, rfl⟩, rfl⟩, rfl⟩, rfl⟩, hparams⟩ := h
  exact ⟨rfl, hparams⟩

theorem eq_of_same (hlayout : first.layout = second.layout) : first = second := by
  obtain ⟨hsecond, hparams⟩ := eq_with_params_of_same h
  have hsame : first.params = second.params := by
    rcases sameOption_cases hparams with ⟨hfirst, hsecond⟩ | ⟨p, p', hfirst, hsecond, hp⟩
    · rw [hfirst, hsecond]
    · rw [layout, layout, hfirst, hsecond] at hlayout
      rw [hfirst, hsecond, Params.eq_of_same hp hlayout]
  rw [hsecond, ← hsame]

theorem layout_eq_of_writtenAlike (halike : first.toJson.WrittenAlike second.toJson) :
    first.layout = second.layout := by
  obtain ⟨hsecond, hparams⟩ := eq_with_params_of_same h
  have hfields : second.fieldsBeforeParams = first.fieldsBeforeParams := by
    rw [hsecond]
    rfl
  rw [layout, layout]
  rcases sameOption_cases hparams with ⟨hfirst, hsecond⟩ | ⟨p, p', hfirst, hsecond, hp⟩
  · rw [hfirst, hsecond]
  · rw [toJson_eq, toJson_eq, hfields, hfirst, hsecond] at halike
    obtain ⟨-, hvalues⟩ := Json.Value.writtenAlike_object_iff.mp halike
    -- The fields before are the same, so what is left to compare is the parameters.
    have hlast := List.forall₂_drop (first.fieldsBeforeParams.map Prod.snd).length hvalues
    rw [List.map_append, List.map_append, List.drop_left, List.drop_left] at hlast
    obtain _ | ⟨hwritten, -⟩ := hlast
    rw [hfirst, hsecond]
    exact Params.layout_eq_of_writtenAlike hp hwritten

end Same

end Step

/-! ### Flows -/

theorem forall₂_of_sameList {same : α → α → Bool} {items others : List α}
    (h : sameList same items others) : List.Forall₂ (fun a b => same a b) items others := by
  induction items generalizing others with
  | nil =>
      cases others with
      | nil => exact .nil
      | cons b others => exact nomatch h
  | cons a items ih =>
      cases others with
      | nil => exact nomatch h
      | cons b others =>
          obtain ⟨hab, hrest⟩ := Bool.and_eq_true_iff.mp h
          exact .cons hab (ih hrest)

namespace Flow

section Same

variable {first second : Flow} (h : first.same second)

include h

theorem forall₂_of_same :
    first.name = second.name ∧ List.Forall₂ (fun step other => Step.same step other) first.steps
      second.steps := by
  obtain ⟨hname, hsteps⟩ := Bool.and_eq_true_iff.mp h
  exact ⟨eq_of_beq hname, forall₂_of_sameList hsteps⟩

theorem eq_of_same (hlayout : first.steps.map Step.layout = second.steps.map Step.layout) :
    first = second := by
  obtain ⟨hname, hsteps⟩ := forall₂_of_same h
  have heq : List.Forall₂ (· = ·) first.steps second.steps :=
    List.Forall₂.mp (fun step other => Step.eq_of_same) hsteps (map_eq_map_iff_forall₂.mp hlayout)
  rw [List.forall₂_eq_eq_eq] at heq
  exact Flow.mk.injEq .. |>.mpr ⟨hname, heq⟩

theorem layout_eq_of_text_eq (htext : first.text = second.text) :
    first.steps.map Step.layout = second.steps.map Step.layout := by
  obtain ⟨-, hsteps⟩ := forall₂_of_same h
  obtain ⟨-, hvalues⟩ :=
    Json.Value.writtenAlike_object_iff.mp (Json.Value.writtenAlike_of_pretty_eq htext)
  obtain _ | ⟨-, _ | ⟨hlist, -⟩⟩ := hvalues
  have halike := Json.Value.writtenAlike_array_iff.mp hlist
  rw [List.forall₂_map_left_iff, List.forall₂_map_right_iff] at halike
  exact map_eq_map_iff_forall₂.mpr
    (List.Forall₂.mp (fun step other => Step.layout_eq_of_writtenAlike) hsteps halike)

/-- Equal flows have one text exactly when parameters come in the same order, with zeros of the
same signs; then they have one digest. -/
theorem text_eq_iff_of_same :
    (first.text = second.text ↔ first.steps.map Step.layout = second.steps.map Step.layout) ∧
      (first.steps.map Step.layout = second.steps.map Step.layout →
        first.digest = second.digest) := by
  refine ⟨⟨layout_eq_of_text_eq h, fun hlayout => ?_⟩, fun hlayout => ?_⟩
  · rw [eq_of_same h hlayout]
  · rw [eq_of_same h hlayout]

end Same

def countFirst : Params :=
  (Table.single "count" (.number (.integer 3))).insert "checked" (.bool true)

def checkedFirst : Params :=
  (Table.single "checked" (.bool true)).insert "count" (.number (.integer 3))

def clickWith (params : Params) : Flow :=
  { name := "example.com"
    steps :=
      [{ id := "step-1"
         type := .click
         selectors := .page
         precondition := none
         effect := none
         params := some params }] }

/-- The same parameters in two orders: the flows are equal, their texts are not. -/
theorem text_of_clickWith :
    (clickWith countFirst).same (clickWith checkedFirst) ∧
      (clickWith countFirst).text ≠ (clickWith checkedFirst).text := by
  have hsame : (clickWith countFirst).same (clickWith checkedFirst) := by decide
  refine ⟨hsame, fun htext => ?_⟩
  have hlayout := (text_eq_iff_of_same hsame).1.mp htext
  exact absurd hlayout (by decide)

/-! ### Flows of recordings -/

theorem exists_single_of_mem_params {event : Event} {params : Params} (h : params ∈ event.params?) :
    ∃ name text, params = Table.single name (.text text) := by
  rw [Event.params?, Option.mem_def] at h
  cases htype : event.type <;> rw [htype] at h <;> cases h <;> exact ⟨_, _, rfl⟩

theorem name_eq_of_same_single {same : α → α → Bool} {name name' : String} {value value' : α}
    (h : Table.sameEntries same (Table.single name value) (Table.single name' value')) :
    name = name' := by
  by_contra hne
  have hmissing : (Table.single name' value').get? name = none := if_neg (Ne.symm hne)
  obtain ⟨-, hall⟩ := Bool.and_eq_true_iff.mp h
  have hfound := List.all_eq_true.mp hall (name, value) List.mem_cons_self
  simp [hmissing] at hfound

/-- Events carry at most one parameter, so there is nothing that could be in another order. -/
theorem layout_eq_of_same_toStep {event event' : Event} {number number' : Nat}
    {type type' : StepType} (h : (event.toStep number type).same (event'.toStep number' type')) :
    (event.toStep number type).layout = (event'.toStep number' type').layout := by
  obtain ⟨-, hparams⟩ := Step.eq_with_params_of_same h
  rw [Step.layout, Step.layout]
  rcases sameOption_cases hparams with ⟨hfirst, hsecond⟩ | ⟨p, p', hfirst, hsecond, hp⟩
  · rw [hfirst, hsecond]
  · obtain ⟨name, text, rfl⟩ := exists_single_of_mem_params hfirst
    obtain ⟨name', text', rfl⟩ := exists_single_of_mem_params hsecond
    rw [hfirst, hsecond, name_eq_of_same_single hp]
    rfl

theorem digest_eq_of_build {config config' : SegmentConfig} {events events' : List Event}
    {first second : Flow} (hfirst : build config events = .ok first)
    (hsecond : build config' events' = .ok second) (h : first.same second) :
    first.digest = second.digest := by
  obtain ⟨-, hsteps⟩ := forall₂_of_same h
  obtain ⟨hlength, hsame⟩ := List.forall₂_iff_get.mp hsteps
  have hlayout : List.Forall₂ (fun step other => Step.layout step = Step.layout other) first.steps
      second.steps := by
    refine List.forall₂_iff_get.mpr ⟨hlength, fun i hi hi' => ?_⟩
    have hstep := hsame i hi hi'
    obtain ⟨event, -, number, past, heq⟩ :=
      exists_event_of_build hfirst (List.get_mem first.steps ⟨i, hi⟩)
    obtain ⟨event', -, number', past', heq'⟩ :=
      exists_event_of_build hsecond (List.get_mem second.steps ⟨i, hi'⟩)
    rw [heq, heq'] at hstep ⊢
    exact layout_eq_of_same_toStep hstep
  rw [eq_of_same h (map_eq_map_iff_forall₂.mpr hlayout)]

end Flow

end BrowserFlow
