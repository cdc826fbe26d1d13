import BrowserFlow.Proofs.Flow.Overriding

/-!
# The untouched template

The template of a flow holds for each key the value that the key was first mentioned with. Used as
overrides as it is, it gives a field the value of the first of its keys in the order of the lookup.
So it leaves the flow alone exactly when every field already has that value, and no field without a
value shares a key with one that has some.
-/

namespace BrowserFlow

/-! ### What a template holds -/

namespace Step

/-- The step puts a value into the template. -/
def contributes (step : Step) : Bool := step.type.isTextEntry && (step.param? "value").isSome

theorem contributes_iff {step : Step} :
    step.contributes ↔ step.type.isTextEntry ∧ ∃ value, step.param? "value" = some value := by
  rw [contributes, Bool.and_eq_true, Option.isSome_iff_exists]

end Step

/-- The first step that puts a value into the template and mentions the key. -/
def firstMention? (steps : List Step) (key : Key) : Option Step :=
  steps.find? fun step => step.contributes && decide (key ∈ step.keys)

theorem firstMention?_cons (step : Step) (steps : List Step) (key : Key) :
    firstMention? (step :: steps) key =
      if step.contributes && decide (key ∈ step.keys) then some step
      else firstMention? steps key := by
  rw [firstMention?, List.find?_cons]
  split
  · next h => rw [if_pos h]
  · next h =>
      rw [if_neg (by simpa using h)]
      rfl

theorem firstMention?_eq_some {steps : List Step} {key : Key} {first : Step}
    (h : firstMention? steps key = some first) :
    first.contributes ∧ key ∈ first.keys := by
  have hfound := List.find?_some h
  rwa [Bool.and_eq_true, decide_eq_true_iff] at hfound

theorem firstMention?_eq_none_iff {steps : List Step} {key : Key} :
    firstMention? steps key = none ↔ ∀ step ∈ steps, step.contributes → key ∉ step.keys := by
  simp only [firstMention?, List.find?_eq_none, Bool.and_eq_true, decide_eq_true_iff, not_and]

namespace InputTables

/-- The value that the tables hold for a key. -/
def value? (tables : InputTables) (key : Key) : Option Scalar :=
  (tables.table key.kind).get? key.value

theorem value?_empty (key : Key) : empty.value? key = none := by
  rw [value?]
  cases key.kind <;> rfl

theorem table_modify (tables : InputTables) (kind other : KeyKind)
    (change : Table Scalar → Table Scalar) :
    (tables.modify kind change).table other =
      if kind = other then change (tables.table other) else tables.table other := by
  cases kind <;> cases other <;> rfl

theorem value?_mention (tables : InputTables) (value : Scalar) (key other : Key) :
    (tables.mention value key).value? other =
      (tables.value? other).or (if key = other then some value else none) := by
  obtain ⟨kind, text⟩ := key
  obtain ⟨otherKind, otherText⟩ := other
  rw [mention, value?, table_modify, value?]
  by_cases hkind : kind = otherKind
  · simp only [hkind, if_true, Table.get?_insertNew, Key.mk.injEq, true_and]
  · simp [hkind]

theorem value?_foldl_mention (tables : InputTables) (value : Scalar) (keys : List Key)
    (other : Key) :
    (keys.foldl (·.mention value) tables).value? other =
      (tables.value? other).or (if other ∈ keys then some value else none) := by
  induction keys generalizing tables with
  | nil => simp
  | cons key keys ih =>
      rw [List.foldl_cons, ih, value?_mention]
      by_cases heq : key = other
      · cases tables.value? other <;> simp [heq]
      · simp [heq, Ne.symm heq]

theorem value?_mentionStep (tables : InputTables) (step : Step) (key : Key) :
    (tables.mentionStep step).value? key =
      (tables.value? key).or
        (if step.contributes && decide (key ∈ step.keys) then step.param? "value" else none) := by
  rw [mentionStep, Step.contributes]
  by_cases htext : step.type.isTextEntry
  · cases hvalue : step.param? "value" with
    | none => simp [htext]
    | some value => simp [htext, value?_foldl_mention]
  · simp [htext]

theorem value?_foldl_mentionStep (tables : InputTables) (steps : List Step) (key : Key) :
    (steps.foldl mentionStep tables).value? key =
      (tables.value? key).or ((firstMention? steps key).bind (·.param? "value")) := by
  induction steps generalizing tables with
  | nil => simp [firstMention?]
  | cons step steps ih =>
      rw [List.foldl_cons, ih, value?_mentionStep, firstMention?_cons]
      split
      · next hmention =>
          obtain ⟨-, value, hvalue⟩ :=
            Step.contributes_iff.mp (Bool.and_eq_true_iff.mp hmention).1
          cases tables.value? key <;> simp [hvalue]
      · rw [Option.or_none]

/-- Each key has the value that it was first mentioned with. -/
theorem value?_ofSteps (steps : List Step) (key : Key) :
    (ofSteps steps).value? key = (firstMention? steps key).bind (·.param? "value") := by
  rw [ofSteps, value?_foldl_mentionStep, value?_empty, Option.none_or]

end InputTables

/-! ### What overriding does to a step -/

theorem Scalar.same_self (value : Scalar) : value.same value := by
  cases value with
  | number n => cases n <;> simp [same, Json.Number.sameValue, Json.Double.sameValue]
  | _ => simp [same]

theorem sameOption_self {same : α → α → Bool} (hself : ∀ a, same a a) (a : Option α) :
    sameOption same a a := by
  cases a with
  | none => rfl
  | some a => exact hself a

theorem Step.same_iff_of_params (step : Step) (params : Option Params) :
    ({ step with params := params } : Step).same step ↔
      sameOption (Table.sameEntries Scalar.same) params step.params := by
  simp [same]

theorem Step.same_self (step : Step) : step.same step :=
  (same_iff_of_params step step.params).mpr
    (sameOption_self (Table.sameEntries_self Scalar.same_self) step.params)

theorem sameList_map_left_iff {same : α → α → Bool} {change : α → α} {items : List α} :
    sameList same (items.map change) items ↔ ∀ a ∈ items, same (change a) a := by
  induction items with
  | nil => simp [sameList]
  | cons a items ih => simp [sameList, ih]

namespace Overrides

theorem mem_lookupOrder {key : Key} {keys : List Key} : key ∈ lookupOrder keys ↔ key ∈ keys := by
  have hkind : key.kind ∈ KeyKind.all := by cases key.kind <;> decide
  simp [lookupOrder, hkind]

theorem lookupOrder_eq_nil_iff {keys : List Key} : lookupOrder keys = [] ↔ keys = [] := by
  simp only [List.eq_nil_iff_forall_not_mem, mem_lookupOrder]

section ApplyStep

variable {overrides : Overrides} {step : Step} (htext : step.type.isTextEntry)

include htext

theorem applyStep_of_isTextEntry {given : Scalar} (h : overrides.lookup step.keys = some given) :
    overrides.applyStep step =
      { step with params := some ((step.params.getD .empty).insert "value" given) } := by
  rw [applyStep, if_pos htext, h]

theorem applyStep_eq_self_iff :
    overrides.applyStep step = step ↔
      ∀ given ∈ overrides.lookup step.keys, ∃ value ∈ step.param? "value", given = value := by
  cases hlookup : overrides.lookup step.keys with
  | none => simp [applyStep, htext, hlookup]
  | some given =>
      have hparams : overrides.applyStep step = step ↔
          some ((step.params.getD .empty).insert "value" given) = step.params := by
        rw [applyStep_of_isTextEntry htext hlookup]
        exact ⟨congrArg Step.params, fun h => by rw [h]⟩
      rw [hparams]
      cases hfields : step.params with
      | none => simp [Step.param?, hfields]
      | some params => simp [Step.param?, hfields, Table.insert_eq_self_iff]

theorem applyStep_same_iff :
    (overrides.applyStep step).same step ↔
      ∀ given ∈ overrides.lookup step.keys, ∃ value ∈ step.param? "value", given.same value := by
  cases hlookup : overrides.lookup step.keys with
  | none => simp [applyStep, htext, hlookup, step.same_self]
  | some given =>
      rw [applyStep_of_isTextEntry htext hlookup, Step.same_iff_of_params]
      cases hfields : step.params with
      | none => simp [Step.param?, hfields, sameOption]
      | some params =>
          simpa [Step.param?, hfields, sameOption] using
            Table.sameEntries_insert_iff Scalar.same_self

end ApplyStep

/-! ### The template as overrides -/

/-- The overrides that the template of these steps amounts to when nothing in it is edited. -/
def ofTemplate (steps : List Step) : Overrides := ⟨.ofSteps steps, .empty⟩

theorem lookup_ofTemplate (steps : List Step) (keys : List Key) :
    (ofTemplate steps).lookup keys =
      (lookupOrder keys).findSome? (InputTables.ofSteps steps).value? := by
  have hfields : ((lookupOrder keys).findSome? fun key =>
      (ofTemplate steps).fields.get? key.value) = Option.none :=
    List.findSome?_eq_none_iff.mpr fun _ _ => rfl
  rw [lookup, hfields, Option.orElse_eq_orElse, Option.orElse_eq_or, Option.or_none]
  rfl

/-- For a step with a value the first key decides, since the step itself mentions it. -/
theorem lookup_ofTemplate_of_contributes {steps : List Step} {step : Step} {key : Key}
    (hmem : step ∈ steps) (hcontributes : step.contributes)
    (hkey : (lookupOrder step.keys).head? = some key) :
    ∃ first given, firstMention? steps key = some first ∧ first.param? "value" = some given ∧
      (ofTemplate steps).lookup step.keys = some given := by
  have hmentioned : key ∈ step.keys := mem_lookupOrder.mp (List.mem_of_mem_head? hkey)
  obtain ⟨first, hfirst⟩ := Option.ne_none_iff_exists'.mp fun hnone =>
    firstMention?_eq_none_iff.mp hnone step hmem hcontributes hmentioned
  obtain ⟨-, given, hgiven⟩ := Step.contributes_iff.mp (firstMention?_eq_some hfirst).1
  obtain ⟨rest, horder⟩ := List.head?_eq_some_iff.mp hkey
  refine ⟨first, given, hfirst, hgiven, ?_⟩
  rw [lookup_ofTemplate, horder, List.findSome?_cons, InputTables.value?_ofSteps, hfirst,
    Option.bind_some, hgiven]

theorem lookup_ofTemplate_eq_none_iff {steps : List Step} {keys : List Key} :
    (ofTemplate steps).lookup keys = Option.none ↔
      ∀ key ∈ keys, ∀ step ∈ steps, step.contributes → key ∉ step.keys := by
  simp only [lookup_ofTemplate, List.findSome?_eq_none_iff, mem_lookupOrder]
  refine forall₂_congr fun key _ => ?_
  rw [InputTables.value?_ofSteps, ← firstMention?_eq_none_iff]
  cases hfirst : firstMention? steps key with
  | none => simp
  | some first =>
      obtain ⟨-, given, hgiven⟩ := Step.contributes_iff.mp (firstMention?_eq_some hfirst).1
      simp [hgiven]

end Overrides

/-- What makes the template of `steps` leave one of them alone, when values are compared by
`alike`. -/
structure Step.MatchesTemplate (alike : Scalar → Scalar → Prop) (steps : List Step) (step : Step) :
    Prop where
  /-- Its value is the one that its first key was mentioned with first. -/
  value : ∀ value, step.param? "value" = some value → step.keys = [] ∨
    ∃ key first given, (Overrides.lookupOrder step.keys).head? = some key ∧
      firstMention? steps key = some first ∧ first.param? "value" = some given ∧ alike given value
  /-- Without a value, it shares no key with a step that has one. -/
  unmentioned : step.param? "value" = none →
    ∀ key ∈ step.keys, ∀ other ∈ steps, other.contributes → key ∉ other.keys

section MatchesTemplate

variable {alike : Scalar → Scalar → Prop} {steps : List Step} {step : Step}

theorem Step.matchesTemplate_iff_of_no_value (hvalue : step.param? "value" = none) :
    step.MatchesTemplate alike steps ↔ (Overrides.ofTemplate steps).lookup step.keys = none := by
  rw [Overrides.lookup_ofTemplate_eq_none_iff]
  refine ⟨fun h => h.unmentioned hvalue, fun h => ⟨fun value hsome => ?_, fun _ => h⟩⟩
  rw [hvalue] at hsome
  exact nomatch hsome

theorem Step.matchesTemplate_iff_of_value {value : Scalar} (htext : step.type.isTextEntry)
    (hvalue : step.param? "value" = some value) (hmem : step ∈ steps) :
    step.MatchesTemplate alike steps ↔
      ∀ given ∈ (Overrides.ofTemplate steps).lookup step.keys, alike given value := by
  have hcontributes : step.contributes := Step.contributes_iff.mpr ⟨htext, value, hvalue⟩
  constructor
  · intro h given hgiven
    rcases h.value value hvalue with hkeys | ⟨key, first, found, hkey, hfirst, hfound, halike⟩
    · rw [hkeys, Overrides.lookup_ofTemplate_eq_none_iff.mpr (by simp)] at hgiven
      exact nomatch hgiven
    · obtain ⟨mentioned, other, hmentioned, hother, hlookup⟩ :=
        Overrides.lookup_ofTemplate_of_contributes hmem hcontributes hkey
      obtain rfl := Option.some.inj (hfirst.symm.trans hmentioned)
      obtain rfl := Option.some.inj (hfound.symm.trans hother)
      obtain rfl := Option.some.inj (hlookup.symm.trans hgiven)
      exact halike
  · intro h
    refine ⟨fun other hother => ?_, fun hnone => ?_⟩
    · obtain rfl := Option.some.inj (hvalue.symm.trans hother)
      cases hkey : (Overrides.lookupOrder step.keys).head? with
      | none => exact .inl (Overrides.lookupOrder_eq_nil_iff.mp (List.head?_eq_none_iff.mp hkey))
      | some key =>
          obtain ⟨first, given, hfirst, hgiven, hlookup⟩ :=
            Overrides.lookup_ofTemplate_of_contributes hmem hcontributes hkey
          exact .inr ⟨key, first, given, rfl, hfirst, hgiven, h given hlookup⟩
    · rw [hvalue] at hnone
      exact nomatch hnone

theorem Step.matchesTemplate_iff (htext : step.type.isTextEntry) (hmem : step ∈ steps) :
    step.MatchesTemplate alike steps ↔
      ∀ given ∈ (Overrides.ofTemplate steps).lookup step.keys,
        ∃ value ∈ step.param? "value", alike given value := by
  cases hvalue : step.param? "value" with
  | none => simp [matchesTemplate_iff_of_no_value hvalue, Option.eq_none_iff_forall_not_mem]
  | some value => simp [matchesTemplate_iff_of_value htext hvalue hmem]

end MatchesTemplate

/-- The template of a flow, used as it is, leaves the steps alone exactly when every step that
carries a value matches it. The steps are the same as they stand when the values are the same one,
and equal as steps when the values are equal. -/
theorem Overrides.template_changes_nothing_iff (steps : List Step) :
    ((ofTemplate steps).apply steps = steps ↔
        ∀ step ∈ steps, step.type.isTextEntry → step.MatchesTemplate (· = ·) steps) ∧
      (sameList Step.same ((ofTemplate steps).apply steps) steps ↔
        ∀ step ∈ steps, step.type.isTextEntry →
          step.MatchesTemplate (fun given value => given.same value) steps) := by
  constructor
  · rw [apply, map_eq_self_iff]
    refine forall₂_congr fun step hmem => ?_
    by_cases htext : step.type.isTextEntry
    · rw [applyStep_eq_self_iff htext, Step.matchesTemplate_iff htext hmem]
      simp [htext]
    · simp [applyStep_of_not_isTextEntry _ htext, htext]
  · rw [apply, sameList_map_left_iff]
    refine forall₂_congr fun step hmem => ?_
    by_cases htext : step.type.isTextEntry
    · rw [applyStep_same_iff htext, Step.matchesTemplate_iff htext hmem]
      simp [htext]
    · simp [applyStep_of_not_isTextEntry _ htext, htext, step.same_self]

/-- A step that carries this value, whether text is entered in it or not. -/
def enteringStep (type : StepType) (selectors : Bundle) (value : String) : Step :=
  { (default : Step) with
    type := type
    selectors := selectors
    params := some (Table.single "value" (.text value)) }

/-- The same field is filled in twice. -/
def citySteps : List Step :=
  ["Rome", "Oslo"].map (enteringStep .input ⟨.label "City", []⟩)

/-- The first step alone is left as it is. Together with it the second one takes the value of the
first. -/
theorem template_of_citySteps :
    (Overrides.ofTemplate (citySteps.take 1)).apply (citySteps.take 1) = citySteps.take 1 ∧
      (∀ step ∈ citySteps.take 1, step.type.isTextEntry →
        step.MatchesTemplate (· = ·) (citySteps.take 1)) ∧
      ((Overrides.ofTemplate citySteps).apply citySteps).map (·.param? "value") =
        [some (.text "Rome"), some (.text "Rome")] ∧
      ¬∀ step ∈ citySteps, step.type.isTextEntry → step.MatchesTemplate (· = ·) citySteps := by
  have hone : (Overrides.ofTemplate (citySteps.take 1)).apply (citySteps.take 1) =
      citySteps.take 1 := by
    decide +kernel
  have htwo : (Overrides.ofTemplate citySteps).apply citySteps ≠ citySteps := by decide +kernel
  exact ⟨hone, (Overrides.template_changes_nothing_iff _).1.mp hone, by decide +kernel,
    mt (Overrides.template_changes_nothing_iff citySteps).1.mpr htwo⟩

end BrowserFlow
