import BrowserFlow.Proofs.Flow.Agreement
import BrowserFlow.Proofs.Flow.Overriding
import BrowserFlow.Proofs.Replay.Filter
import Mathlib.Data.List.Nodup

/-!
# What a plan says of a flow

A plan is made of overridden steps. Overrides change nothing that decides which steps are replayed,
so the plan can be read off the steps as they were recorded: overrides give it texts, and nothing
else. When no two steps have the same id, every step of the flow is either planned or skipped.
-/

namespace BrowserFlow

/-- Two lists of ids put together in the order that the ids have in `order`. -/
def mergedInOrder (order first second : List String) : List String :=
  first.merge second fun id other => order.idxOf id ≤ order.idxOf other

theorem pairwise_idxOf_of_sublist {order ids : List String} (hnodup : order.Nodup)
    (h : ids.Sublist order) :
    ids.Pairwise fun id other => decide (order.idxOf id ≤ order.idxOf other) = true := by
  have horder : order.Pairwise fun id other =>
      decide (order.idxOf id ≤ order.idxOf other) = true := by
    rw [List.pairwise_iff_getElem]
    intro i j hi hj hij
    rw [hnodup.idxOf_getElem, hnodup.idxOf_getElem]
    exact decide_eq_true hij.le
  exact horder.sublist h

/-- Lists that share the ids of `order` out among them, each in its order, merge into it. -/
theorem mergedInOrder_eq {order first second : List String} (hnodup : order.Nodup)
    (hfirst : first.Sublist order) (hsecond : second.Sublist order)
    (hdisjoint : first.Disjoint second) (hall : ∀ id ∈ order, id ∈ first ∨ id ∈ second) :
    mergedInOrder order first second = order := by
  have hperm : (first ++ second).Perm order := by
    have hnodups := List.nodup_append'.mpr
      ⟨hnodup.sublist hfirst, hnodup.sublist hsecond, hdisjoint⟩
    refine (List.perm_ext_iff_of_nodup hnodups hnodup).mpr fun id => ?_
    rw [List.mem_append]
    exact ⟨fun h => h.elim (hfirst.subset ·) (hsecond.subset ·), hall id⟩
  have hmerged : (mergedInOrder order first second).Perm order :=
    (List.merge_perm_append _).trans hperm
  have hsorted : (mergedInOrder order first second).Pairwise fun id other =>
      decide (order.idxOf id ≤ order.idxOf other) = true := by
    refine List.pairwise_merge (fun id other third h h' => ?_) (fun id other => ?_) _ _
      (pairwise_idxOf_of_sublist hnodup hfirst) (pairwise_idxOf_of_sublist hnodup hsecond)
    · exact decide_eq_true ((of_decide_eq_true h).trans (of_decide_eq_true h'))
    · rw [Bool.or_eq_true, decide_eq_true_iff, decide_eq_true_iff]
      exact Nat.le_total _ _
  refine List.Perm.eq_of_pairwise (fun id other hid _ h h' => ?_) hsorted
    (pairwise_idxOf_of_sublist hnodup (List.Sublist.refl order)) hmerged
  have hplace := Nat.le_antisymm (of_decide_eq_true h) (of_decide_eq_true h')
  exact (List.idxOf_inj (hmerged.mem_iff.mp hid)).mp hplace

/-! ### Planned steps -/

theorem Action.needsElement_ofStep (step : Step) :
    (Action.ofStep step).needsElement = !decide (step.type = .navigate) := by
  rw [ofStep]
  cases step.type <;> rfl

theorem Action.exists_fillOrSelect {step : Step} (h : step.type.isTextEntry) :
    ∃ value, ofStep step = fillOrSelect value := by
  rw [ofStep]
  cases htype : step.type with
  | input | change => exact ⟨_, rfl⟩
  | _ => simp [htype, StepType.isTextEntry] at h

namespace PlannedStep

/-- Planned steps that differ at most in what is typed: in the text that is put into a field and in
the mark of a text that was overridden. -/
structure SameButTyped (first second : PlannedStep) : Prop where
  stepId : first.stepId = second.stepId
  type : first.type = second.type
  candidates : first.candidates = second.candidates
  urlBefore : first.urlBefore = second.urlBefore
  visibleAfter : first.visibleAfter = second.visibleAfter
  urlAfter : first.urlAfter = second.urlAfter
  action : first.action = second.action ∨ first.type.isTextEntry ∧
    ∃ text other, first.action = .fillOrSelect text ∧ second.action = .fillOrSelect other
  overridden : first.overridden = second.overridden ∨ first.type.isTextEntry

variable (flow : Flow) (config : ReplayConfig)

theorem candidates_ofStep (step : Step) :
    (ofStep flow config step).candidates =
      if step.type = .navigate then [] else step.selectors.candidates := by
  rw [ofStep, Action.needsElement_ofStep]
  by_cases h : step.type = .navigate
  · simp [h]
  · simp [h]

theorem sameButTyped_ofStep (first second : Overrides) (step : Step) :
    (ofStep flow config (first.applyStep step)).SameButTyped
      (ofStep flow config (second.applyStep step)) := by
  by_cases h : step.type.isTextEntry
  · have hfirst : (first.applyStep step).type.isTextEntry := by rwa [Overrides.applyStep_type]
    have hsecond : (second.applyStep step).type.isTextEntry := by rwa [Overrides.applyStep_type]
    obtain ⟨text, htext⟩ := Action.exists_fillOrSelect hfirst
    obtain ⟨other, hother⟩ := Action.exists_fillOrSelect hsecond
    exact
      { stepId := by simp [ofStep]
        type := by simp [ofStep]
        candidates := by simp [candidates_ofStep]
        urlBefore := by simp [ofStep]
        visibleAfter := by simp [ofStep]
        urlAfter := by simp [ofStep]
        action := .inr ⟨hfirst, text, other, htext, hother⟩
        overridden := .inr hfirst }
  · rw [Overrides.applyStep_of_not_isTextEntry first h,
      Overrides.applyStep_of_not_isTextEntry second h]
    exact ⟨rfl, rfl, rfl, rfl, rfl, rfl, .inl rfl, .inl rfl⟩

end PlannedStep

/-! ### Plans -/

namespace Plan

theorem replayed_apply (overrides : Overrides) (steps : List Step) :
    replayed (overrides.apply steps) = overrides.apply (replayed steps) :=
  replayed_map overrides.applyStep_type overrides.applyStep_selectors
    overrides.applyStep_preconditionUrl? steps

section Build

variable (flow : Flow) (overrides : Overrides) (config : ReplayConfig)

theorem steps_build :
    (build flow overrides config).steps = (replayed flow.steps).map fun step =>
      PlannedStep.ofStep flow config (overrides.applyStep step) := by
  rw [build, replayed_apply, Overrides.apply, List.map_map]
  rfl

theorem skipped_build :
    (build flow overrides config).skipped =
      (flow.steps.map Step.id).filter fun id =>
        !((replayed flow.steps).map Step.id).contains id := by
  rw [build, replayed_apply, Overrides.map_id_apply, Overrides.map_id_apply]

theorem startUrl_build :
    (build flow overrides config).startUrl =
      (replayed flow.steps).head?.bind Step.preconditionUrl? := by
  rw [build, replayed_apply, Overrides.apply, List.head?_map]
  cases (replayed flow.steps).head? <;> simp

end Build

/-- The ids of the planned steps. -/
def stepIds (plan : Plan) : List String := plan.steps.map PlannedStep.stepId

theorem stepIds_build (flow : Flow) (overrides : Overrides) (config : ReplayConfig) :
    (build flow overrides config).stepIds = (replayed flow.steps).map Step.id := by
  rw [stepIds, steps_build, List.map_map]
  exact List.map_congr_left fun step _ => overrides.applyStep_id step

/-- Plans that differ at most in what is typed. -/
structure SameButTyped (first second : Plan) : Prop where
  flowName : first.flowName = second.flowName
  startUrl : first.startUrl = second.startUrl
  preconditionMode : first.preconditionMode = second.preconditionMode
  steps : List.Forall₂ PlannedStep.SameButTyped first.steps second.steps
  skipped : first.skipped = second.skipped
  stepDelayMs : first.stepDelayMs = second.stepDelayMs
  locatorTimeoutMs : first.locatorTimeoutMs = second.locatorTimeoutMs

/-- Overrides cannot drop, reorder or redirect a step. This needs no ids to tell the steps apart: a
step that carries no value is the same under all overrides. -/
theorem overrides_change_only_typing (flow : Flow) (first second : Overrides)
    (config : ReplayConfig) :
    (build flow first config).SameButTyped (build flow second config) where
  flowName := rfl
  startUrl := by rw [startUrl_build, startUrl_build]
  preconditionMode := rfl
  steps := by
    rw [steps_build, steps_build, List.forall₂_map_left_iff, List.forall₂_map_right_iff]
    exact List.forall₂_same.mpr fun step _ =>
      PlannedStep.sameButTyped_ofStep flow config first second step
  skipped := by rw [skipped_build, skipped_build]
  stepDelayMs := rfl
  locatorTimeoutMs := rfl

/-! ### All steps are accounted for -/

/-- How a plan accounts for the steps of a flow: each is planned or skipped, in its order, and the
ones that are planned are those that the flow itself has to be replayed. -/
structure Accounts (plan : Plan) (flow : Flow) : Prop where
  disjoint : plan.stepIds.Disjoint plan.skipped
  planned_sublist : plan.stepIds.Sublist (flow.steps.map Step.id)
  skipped_sublist : plan.skipped.Sublist (flow.steps.map Step.id)
  merged : mergedInOrder (flow.steps.map Step.id) plan.stepIds plan.skipped =
    flow.steps.map Step.id
  planned : plan.stepIds = (replayed flow.steps).map Step.id
  startUrl : plan.startUrl = (replayed flow.steps).head?.bind Step.preconditionUrl?
  candidates : plan.steps.map PlannedStep.candidates = (replayed flow.steps).map fun step =>
    if step.type = .navigate then [] else step.selectors.candidates

theorem mem_skipped_build {flow : Flow} {overrides : Overrides} {config : ReplayConfig}
    {id : String} :
    id ∈ (build flow overrides config).skipped ↔
      id ∈ flow.steps.map Step.id ∧ id ∉ (build flow overrides config).stepIds := by
  rw [skipped_build, stepIds_build, List.mem_filter, Bool.not_eq_true', List.contains_eq_mem,
    decide_eq_false_iff_not]

theorem accounts_build {flow : Flow} (h : (flow.steps.map Step.id).Nodup) (overrides : Overrides)
    (config : ReplayConfig) : (build flow overrides config).Accounts flow := by
  have hplanned : (build flow overrides config).stepIds.Sublist (flow.steps.map Step.id) := by
    rw [stepIds_build]
    exact (replayed_sublist flow.steps).map Step.id
  have hskipped : (build flow overrides config).skipped.Sublist (flow.steps.map Step.id) := by
    rw [skipped_build]
    exact List.filter_sublist
  have hdisjoint : (build flow overrides config).stepIds.Disjoint
      (build flow overrides config).skipped :=
    fun id hplan hskip => (mem_skipped_build.mp hskip).2 hplan
  have hall : ∀ id ∈ flow.steps.map Step.id, id ∈ (build flow overrides config).stepIds ∨
      id ∈ (build flow overrides config).skipped := by
    intro id hid
    by_cases hplan : id ∈ (build flow overrides config).stepIds
    · exact .inl hplan
    · exact .inr (mem_skipped_build.mpr ⟨hid, hplan⟩)
  exact
    { disjoint := hdisjoint
      planned_sublist := hplanned
      skipped_sublist := hskipped
      merged := mergedInOrder_eq h hplanned hskipped hdisjoint hall
      planned := stepIds_build flow overrides config
      startUrl := startUrl_build flow overrides config
      candidates := by
        rw [steps_build, List.map_map]
        refine List.map_congr_left fun step _ => ?_
        simp [PlannedStep.candidates_ofStep] }

/-- Recordings give every step an id of its own, and then a plan loses, repeats and moves no step,
whatever is overridden. -/
theorem every_step_planned_or_skipped :
    (∀ {config : SegmentConfig} {events : List Event} {flow : Flow},
        Flow.build config events = .ok flow → (flow.steps.map Step.id).Nodup) ∧
      ∀ {flow : Flow}, (flow.steps.map Step.id).Nodup → ∀ overrides config,
        (build flow overrides config).Accounts flow :=
  ⟨fun h => Flow.nodup_ids_of_build h, accounts_build⟩

/-- A visit during which a field is focused, clicked, filled and submitted. -/
def emailVisit : List Event :=
  [.navigate, .focus, .click, .input, .submit].map fun type =>
    { (default : Event) with
      type := type
      target := some { (default : Target) with name := some "email", value := some "ada" } }

def emailFlow : Flow := ⟨Flow.defaultName, segment .standard emailVisit⟩

def emailOverrides : Overrides :=
  { Overrides.none with fields := .single "email" (.text "grace") }

/-- The focus is skipped, for the click that follows it; the text comes from the overrides. -/
theorem plan_of_emailFlow :
    Flow.build .standard emailVisit = .ok emailFlow ∧
      (build emailFlow emailOverrides .standard).Accounts emailFlow ∧
      (build emailFlow emailOverrides .standard).skipped = ["step-2"] ∧
      (build emailFlow emailOverrides .standard).steps.map PlannedStep.action =
        [.awaitEffects, .click, .fillOrSelect "grace", .clickThenEnter] := by
  have hbuild : Flow.build .standard emailVisit = .ok emailFlow := rfl
  have hids := every_step_planned_or_skipped.1 hbuild
  refine ⟨hbuild, every_step_planned_or_skipped.2 hids emailOverrides .standard, ?_, ?_⟩
  · decide +kernel
  · decide +kernel

end Plan

end BrowserFlow
