import BrowserFlow.Flow.Inputs
import BrowserFlow.Proofs.Table

/-!
# What overriding leaves alone

Overrides put a value into the parameters of a step that carries one. Everything else about the
step stays, so whatever looks only at ids, types, locators and conditions does not see overrides.
-/

namespace BrowserFlow

namespace Overrides

variable (overrides : Overrides) (step : Step)

theorem exists_params_applyStep :
    ∃ params, overrides.applyStep step = { step with params := params } := by
  rw [applyStep]
  split
  · split
    · exact ⟨_, rfl⟩
    · exact ⟨step.params, rfl⟩
  · exact ⟨step.params, rfl⟩

@[simp]
theorem applyStep_id : (overrides.applyStep step).id = step.id := by
  obtain ⟨params, h⟩ := exists_params_applyStep overrides step
  rw [h]

@[simp]
theorem applyStep_type : (overrides.applyStep step).type = step.type := by
  obtain ⟨params, h⟩ := exists_params_applyStep overrides step
  rw [h]

@[simp]
theorem applyStep_selectors : (overrides.applyStep step).selectors = step.selectors := by
  obtain ⟨params, h⟩ := exists_params_applyStep overrides step
  rw [h]

@[simp]
theorem applyStep_effect : (overrides.applyStep step).effect = step.effect := by
  obtain ⟨params, h⟩ := exists_params_applyStep overrides step
  rw [h]

@[simp]
theorem applyStep_preconditionUrl? :
    (overrides.applyStep step).preconditionUrl? = step.preconditionUrl? := by
  obtain ⟨params, h⟩ := exists_params_applyStep overrides step
  rw [h]
  rfl

variable {step}

theorem applyStep_of_not_isTextEntry (h : ¬step.type.isTextEntry) :
    overrides.applyStep step = step := by
  rw [applyStep, if_neg h]

@[simp]
theorem map_id_apply (steps : List Step) :
    (overrides.apply steps).map Step.id = steps.map Step.id := by
  rw [apply, List.map_map]
  exact List.map_congr_left fun step _ => applyStep_id overrides step

end Overrides

end BrowserFlow
