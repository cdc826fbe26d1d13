import BrowserFlow.Flow.Build
import BrowserFlow.Proofs.Locator.Survival
import BrowserFlow.Proofs.Replay.Script
import BrowserFlow.Proofs.Segment.Steps
import BrowserFlow.Replay.Plan

/-!
# What a stored flow still yields

A flow made of a recording can always be read back. The template, the scripts, the plans and the
keys of the flow that is read are those of the flow that was stored exactly when all its locators
survive: scripts hold every locator, so they give away each one that changed.
-/

namespace BrowserFlow

theorem Bundle.ext_candidates {first second : Bundle} (h : first.candidates = second.candidates) :
    first = second := by
  cases first
  cases second
  obtain ⟨rfl, rfl⟩ := List.cons.inj h
  rfl

namespace Flow

structure SameDerived (first second : Flow) : Prop where
  template : InputTables.ofSteps first.steps = InputTables.ofSteps second.steps
  script : ∀ config, first.script config = second.script config
  plan : ∀ overrides config,
    Plan.build first overrides config = Plan.build second overrides config
  keys : first.steps.map Step.keys = second.steps.map Step.keys

/-- Every locator of the flow comes back from its expression. -/
def Survives (flow : Flow) : Prop :=
  ∀ step ∈ flow.steps, ∀ l ∈ step.selectors.candidates, l.Survives

theorem candidates_reloaded_iff (b : Bundle) :
    b.reloaded.candidates = b.candidates ↔ ∀ l ∈ b.candidates, l.Survives := by
  rw [Bundle.candidates_reloaded, map_eq_self_iff]
  exact forall₂_congr fun l _ => Locator.ofExpression_expression_iff l

theorem reloaded_eq_self {flow : Flow} (hknown : ∀ step ∈ flow.steps, step.type.isKnown)
    (h : flow.Survives) : flow.reloaded = flow := by
  have hsteps : flow.steps.map Step.reloaded = flow.steps := by
    refine map_eq_self_iff.mpr fun step hstep => ?_
    have hselectors : step.selectors.reloaded = step.selectors :=
      Bundle.ext_candidates ((candidates_reloaded_iff step.selectors).mpr (h step hstep))
    rw [Step.reloaded, StepType.ofTag_tag (hknown step hstep), hselectors]
  rw [reloaded, hsteps]

theorem reloaded_isExact {flow : Flow} (h : flow.IsExact) : flow.reloaded.IsExact := by
  intro step hstep
  obtain ⟨stored, hstored, rfl⟩ := List.mem_map.mp hstep
  exact h stored hstored

/-- A script gives away every locator that changed. -/
theorem survives_of_script_eq {flow : Flow} (hexact : flow.IsExact) {config : ReplayConfig}
    (h : flow.reloaded.script config = flow.script config) : flow.Survives := by
  have hname : flow.reloaded.name = flow.name := rfl
  rw [script_eq_iff hname (reloaded_isExact hexact) hexact] at h
  have hsteps : (flow.steps.map Step.reloaded).map Step.scriptJson =
      flow.steps.map Step.scriptJson := Json.Value.array.inj h
  rw [List.map_map, List.map_inj_left] at hsteps
  intro step hstep
  have hcandidates : step.selectors.reloaded.candidates = step.selectors.candidates :=
    Step.candidates_eq_of_scriptJson (hsteps step hstep)
  exact (candidates_reloaded_iff step.selectors).mp hcandidates

theorem sameDerived_reloaded_iff {flow : Flow} (hexact : flow.IsExact)
    (hknown : ∀ step ∈ flow.steps, step.type.isKnown) :
    flow.reloaded.SameDerived flow ↔ flow.Survives := by
  constructor
  · intro h
    exact survives_of_script_eq hexact (h.script .standard)
  · intro h
    rw [reloaded_eq_self hknown h]
    exact ⟨rfl, fun _ => rfl, fun _ _ => rfl, rfl⟩

/-! ### Flows of recordings -/

section Build

variable {config : SegmentConfig} {events : List Event} {flow : Flow}
  (h : build config events = .ok flow)

include h

theorem steps_of_build : flow.steps = segment config events := by
  rw [build] at h
  cases hname : nameOf events with
  | error e =>
      rw [hname] at h
      exact nomatch h
  | ok name =>
      rw [hname] at h
      cases h
      rfl

theorem exists_event_of_build {step : Step} (hstep : step ∈ flow.steps) :
    ∃ event ∈ events, ∃ number past, step = event.toStep number (event.stepType config past) := by
  rw [steps_of_build h] at hstep
  exact exists_event_of_mem_segment hstep

theorem nodup_ids_of_build : (flow.steps.map Step.id).Nodup := by
  rw [steps_of_build h]
  exact nodup_ids_segment config events

theorem isKnown_of_build : ∀ step ∈ flow.steps, step.type.isKnown := by
  intro step hstep
  obtain ⟨event, -, number, past, rfl⟩ := exists_event_of_build h hstep
  exact isKnown_stepType config past event

theorem isExact_of_build : flow.IsExact := by
  intro step hstep params hparams entry hentry
  obtain ⟨event, -, number, past, rfl⟩ := exists_event_of_build h hstep
  obtain ⟨text, htext⟩ := exists_text_of_mem_params hparams entry hentry
  rw [htext]
  trivial

end Build

/-- A flow made of a recording can be read back from its text, with nothing changed but locators.
What is derived from it is what was derived before exactly when every locator survives. -/
theorem reload_agrees_iff {config : SegmentConfig} {events : List Event} {flow : Flow}
    (h : build config events = .ok flow) :
    ofText flow.text = .ok flow.reloaded ∧ (flow.reloaded.SameDerived flow ↔ flow.Survives) :=
  ⟨ofText_text (isExact_of_build h),
    sameDerived_reloaded_iff (isExact_of_build h) (isKnown_of_build h)⟩

/-- Text entered into a field whose name holds brackets, as names of nested fields do. -/
def nestedNameEvent : Event :=
  { type := .input
    timestamp := 0
    url := none
    framePath := []
    target := some { (default : Target) with
      name := some "user[email]"
      value := some "ada@example.org" }
    context := ⟨[], []⟩ }

def nestedNameFlow : Flow :=
  { name := defaultName
    steps :=
      [{ id := "step-1"
         type := .input
         selectors := ⟨.name "user[email]", []⟩
         precondition := none
         effect := none
         params := some (Table.single "value" (.text "ada@example.org")) }] }

/-- The name is written as a selector that is read as a path, so the key of the field is lost. -/
theorem nestedName_reload :
    build .standard [nestedNameEvent] = .ok nestedNameFlow ∧
      ofText nestedNameFlow.text = .ok nestedNameFlow.reloaded ∧
        ¬nestedNameFlow.reloaded.SameDerived nestedNameFlow := by
  have hbuild : build .standard [nestedNameEvent] = .ok nestedNameFlow := rfl
  obtain ⟨hread, hsame⟩ := reload_agrees_iff hbuild
  refine ⟨hbuild, hread, ?_⟩
  intro h
  have hname := (hsame.mp h _ List.mem_cons_self _ List.mem_cons_self).2.1 ']' (by decide)
  exact absurd hname (by decide)

end Flow

end BrowserFlow
