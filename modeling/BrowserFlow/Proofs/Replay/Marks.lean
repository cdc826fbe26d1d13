import BrowserFlow.Proofs.Flow.Digest
import BrowserFlow.Proofs.Replay.Plan

/-!
# Which planned steps are marked as overridden

A planned step is marked when its value is not that of the first step of the flow with its id. Where
no two steps have the same id, this is the step that it was made of, so the mark says whether the
overrides replaced its own value. A step whose id occurs earlier is marked rightly only if the
comparison with the earlier step happens to come out the same.
-/

namespace BrowserFlow

/-! ### Equal values -/

theorem Scalar.same_symm {v w : Scalar} (h : v.same w) : w.same v := by
  rcases eq_or_zeros_of_same h with rfl | ⟨x, y, rfl, rfl, hx, hy⟩
  · exact h
  · simp [same, Json.Number.sameValue, Json.Double.sameValue, hx, hy]

theorem Scalar.same_trans {u v w : Scalar} (huv : u.same v) (hvw : v.same w) : u.same w := by
  rcases eq_or_zeros_of_same huv with rfl | ⟨x, y, rfl, rfl, hx, hy⟩
  · exact hvw
  · rcases eq_or_zeros_of_same hvw with rfl | ⟨_, z, -, rfl, -, hz⟩
    · exact huv
    · simp [same, Json.Number.sameValue, Json.Double.sameValue, hx, hz]

namespace Step

/-- Both steps carry the same value, or neither carries one. -/
def sameInput (first second : Step) : Bool :=
  sameOption Scalar.same (first.param? "value") (second.param? "value")

variable {first second third : Step}

theorem sameInput_symm (h : first.sameInput second) : second.sameInput first := by
  rcases sameOption_cases h with ⟨hfirst, hsecond⟩ | ⟨v, w, hfirst, hsecond, hvw⟩
  · simp [sameInput, sameOption, hfirst, hsecond]
  · simp [sameInput, sameOption, hfirst, hsecond, Scalar.same_symm hvw]

theorem sameInput_trans (h : first.sameInput second) (h' : second.sameInput third) :
    first.sameInput third := by
  rcases sameOption_cases h with ⟨hfirst, hsecond⟩ | ⟨u, v, hfirst, hsecond, huv⟩
  · rcases sameOption_cases h' with ⟨-, hthird⟩ | ⟨v, w, hvalue, -⟩
    · simp [sameInput, sameOption, hfirst, hthird]
    · exact nomatch hsecond.symm.trans hvalue
  · rcases sameOption_cases h' with ⟨hnone, -⟩ | ⟨v', w, hvalue, hthird, hvw⟩
    · exact nomatch hnone.symm.trans hsecond
    · obtain rfl := Option.some.inj (hsecond.symm.trans hvalue)
      simp [sameInput, sameOption, hfirst, hthird, Scalar.same_trans huv hvw]

end Step

/-! ### The first step of an id -/

theorem find?_id_of_nodup {steps : List Step} (h : (steps.map Step.id).Nodup) {step : Step}
    (hmem : step ∈ steps) : steps.find? (·.id = step.id) = some step := by
  induction steps with
  | nil => exact nomatch hmem
  | cons other rest ih =>
      rw [List.map_cons, List.nodup_cons] at h
      rcases List.mem_cons.mp hmem with rfl | hmem
      · exact List.find?_cons_of_pos (decide_eq_true rfl)
      · have hne : other.id ≠ step.id := fun heq =>
          h.1 (heq ▸ List.mem_map_of_mem hmem)
        rw [List.find?_cons_of_neg (by simpa using hne)]
        exact ih h.2 hmem

namespace PlannedStep

/-- The planned step is made of the step that a flow has at a position, with the overrides
merged in. -/
structure MadeOf (planned : PlannedStep) (flow : Flow) (overrides : Overrides)
    (config : ReplayConfig) (position : Nat) (step merged : Step) : Prop where
  recorded : flow.steps[position]? = some step
  overrode : (overrides.apply flow.steps)[position]? = some merged
  planned : planned = ofStep flow config merged

section MadeOf

variable {planned : PlannedStep} {flow : Flow} {overrides : Overrides} {config : ReplayConfig}
  {position : Nat} {step merged : Step}
  (h : planned.MadeOf flow overrides config position step merged)

include h

theorem MadeOf.merged_id : merged.id = step.id := by
  have hmerged : overrides.applyStep step = merged := by
    simpa [Overrides.apply, h.recorded] using h.overrode
  rw [← hmerged, Overrides.applyStep_id]

theorem MadeOf.exists_first : ∃ first, flow.steps.find? (·.id = step.id) = some first := by
  refine Option.isSome_iff_exists.mp (List.find?_isSome.mpr ⟨step, ?_, by simp⟩)
  exact List.mem_of_getElem? h.recorded

/-- The value is compared with that of the first step of the id. -/
theorem MadeOf.overridden_iff {first : Step}
    (hfirst : flow.steps.find? (·.id = step.id) = some first) :
    planned.overridden ↔ ¬first.sameInput merged := by
  have hmark : planned.overridden = isOverridden flow merged := by rw [h.planned, ofStep]
  rw [hmark, isOverridden, h.merged_id, hfirst]
  simp [Step.sameInput]

/-- When the mark is about the step itself, whatever the first step of its id is. -/
theorem MadeOf.marks_itself_iff {first : Step}
    (hfirst : flow.steps.find? (·.id = step.id) = some first) :
    (planned.overridden ↔ ¬step.sameInput merged) ↔
      if step.sameInput merged then first.sameInput step else ¬first.sameInput merged := by
  rw [h.overridden_iff hfirst]
  split
  · next hkept =>
      have hcompared : first.sameInput merged ↔ first.sameInput step :=
        ⟨fun hsame => Step.sameInput_trans hsame (Step.sameInput_symm hkept),
          fun hsame => Step.sameInput_trans hsame hkept⟩
      simp [hkept, hcompared]
  · next hreplaced => simp [hreplaced]

end MadeOf

/-- The mark says whether the overrides replaced the value of the step at the position. -/
def MarksItself (planned : PlannedStep) (flow : Flow) (overrides : Overrides)
    (config : ReplayConfig) (position : Nat) : Prop :=
  ∃ step merged, planned.MadeOf flow overrides config position step merged ∧
    (planned.overridden ↔ ¬step.sameInput merged)

end PlannedStep

namespace Plan

theorem forall₂_steps_build (flow : Flow) (overrides : Overrides) (config : ReplayConfig) :
    List.Forall₂
      (fun position planned =>
        ∃ step merged, PlannedStep.MadeOf planned flow overrides config position step merged)
      (replayedPositions flow.steps) (build flow overrides config).steps := by
  rw [steps_build, List.forall₂_map_right_iff]
  refine (forall₂_replayed flow.steps).imp fun position step hstep => ?_
  exact ⟨step, overrides.applyStep step, hstep, by simp [Overrides.apply, hstep], rfl⟩

/-- The mark of the planned step at every place compares its value with that of the first step of
the flow that has its id. So it says whether the overrides replaced the step's own value exactly
when that first step has this value too, or, for a value that was replaced, has not the new one. In
a flow without repeated ids it always does. -/
theorem overridden_marks_first_of_id (flow : Flow) (overrides : Overrides)
    (config : ReplayConfig) :
    List.Forall₂
        (fun position planned => ∃ step merged first,
          PlannedStep.MadeOf planned flow overrides config position step merged ∧
            flow.steps.find? (·.id = step.id) = some first ∧
            (planned.overridden ↔ ¬first.sameInput merged) ∧
            ((planned.overridden ↔ ¬step.sameInput merged) ↔
              if step.sameInput merged then first.sameInput step else ¬first.sameInput merged))
        (replayedPositions flow.steps) (build flow overrides config).steps ∧
      ((flow.steps.map Step.id).Nodup →
        List.Forall₂
          (fun position planned => PlannedStep.MarksItself planned flow overrides config position)
          (replayedPositions flow.steps) (build flow overrides config).steps) := by
  constructor
  · refine (forall₂_steps_build flow overrides config).imp ?_
    rintro position planned ⟨step, merged, hmade⟩
    obtain ⟨first, hfirst⟩ := hmade.exists_first
    exact ⟨step, merged, first, hmade, hfirst, hmade.overridden_iff hfirst,
      hmade.marks_itself_iff hfirst⟩
  · intro hids
    refine (forall₂_steps_build flow overrides config).imp ?_
    rintro position planned ⟨step, merged, hmade⟩
    have hfirst := find?_id_of_nodup hids (List.mem_of_getElem? hmade.recorded)
    exact ⟨step, merged, hmade, hmade.overridden_iff hfirst⟩

/-- Two fields that are filled, with the ids of the two steps. -/
def twoFields (first second : String) : Flow where
  name := "sign-in"
  steps := [(first, "User", "ada"), (second, "City", "Paris")].map fun (id, label, text) =>
    { (default : Step) with
      id := id
      type := .input
      selectors := ⟨.label label, []⟩
      params := some (.single "value" (.text text)) }

def cityOverrides : Overrides :=
  { Overrides.none with fields := .single "City" (.text "ada") }

/-- Under one id the second field is marked although nothing is overridden, and it is not marked
when it is given the text of the first. With an id of its own it is marked rightly. -/
theorem marks_of_twoFields :
    (Overrides.none.apply (twoFields "step-1" "step-1").steps =
        (twoFields "step-1" "step-1").steps ∧
      (build (twoFields "step-1" "step-1") .none .standard).steps.map PlannedStep.overridden =
        [false, true] ∧
      (build (twoFields "step-1" "step-1") cityOverrides .standard).steps.map
        PlannedStep.overridden = [false, false]) ∧
      ((twoFields "step-1" "step-2").steps.map Step.id).Nodup ∧
      (build (twoFields "step-1" "step-2") cityOverrides .standard).steps.map
        PlannedStep.overridden = [false, true] ∧
      List.Forall₂
        (fun position planned => PlannedStep.MarksItself planned (twoFields "step-1" "step-2")
          cityOverrides .standard position)
        [0, 1] (build (twoFields "step-1" "step-2") cityOverrides .standard).steps := by
  have hids : ((twoFields "step-1" "step-2").steps.map Step.id).Nodup := by decide
  have hpositions : replayedPositions (twoFields "step-1" "step-2").steps = [0, 1] := by
    decide +kernel
  have hmarks :=
    (overridden_marks_first_of_id (twoFields "step-1" "step-2") cityOverrides .standard).2 hids
  rw [hpositions] at hmarks
  refine ⟨⟨?_, ?_, ?_⟩, hids, ?_, hmarks⟩
  · decide +kernel
  · decide +kernel
  · decide +kernel
  · decide +kernel

end Plan

end BrowserFlow
