import BrowserFlow.Proofs.Segment.Refinement
import Mathlib.Data.List.Nodup

/-!
The steps of a recording: each is that of one of its events, of a known type, and every value in
its parameters is a text. No two of them have the same id.
-/

namespace BrowserFlow

theorem exists_event_of_mem_segment {config : SegmentConfig} {events : List Event} {step : Step}
    (h : step ∈ segment config events) :
    ∃ event ∈ events, ∃ number past, step = event.toStep number (event.stepType config past) := by
  rw [segment_eq_stepsOf] at h
  obtain ⟨⟨o, before⟩, hmem, rfl⟩ := List.mem_map.mp h
  have hsource : o ∈ stepSources events := List.fst_mem_of_mem_zipIdx hmem
  have hkept := (stepSources_perm events).mem_iff.mp hsource
  refine ⟨o.1, ?_, before + 1, events.take o.2, rfl⟩
  exact List.fst_mem_of_mem_zipIdx (List.mem_of_mem_filter hkept)

theorem isKnown_terminalType (window : InputWindow) {base : StepType} (h : base.isKnown) :
    (window.terminalType base).isKnown := by
  rw [InputWindow.terminalType]
  split_ifs
  · exact h
  · rfl
  · rfl

theorem isKnown_clickType (event : Event) : event.clickType.isKnown := by
  rw [Event.clickType]
  split_ifs <;> rfl

theorem isKnown_baseType (config : SegmentConfig) (event : Event) :
    (event.baseType config).isKnown := by
  rw [Event.baseType]
  cases event.type with
  | click =>
      simp only
      split_ifs
      · exact isKnown_clickType event
      · rfl
  | _ => rfl

theorem isKnown_stepType (config : SegmentConfig) (past : List Event) (event : Event) :
    (event.stepType config past).isKnown := by
  rw [Event.stepType]
  split_ifs
  · exact isKnown_terminalType _ (isKnown_baseType config event)
  · exact isKnown_baseType config event

theorem exists_text_of_mem_params {event : Event} {params : Params} (h : params ∈ event.params?) :
    ∀ entry ∈ params.entries, ∃ text, entry.2 = .text text := by
  rw [Event.params?, Option.mem_def] at h
  intro entry hentry
  cases htype : event.type <;> rw [htype] at h <;> simp only [Option.some.injEq, reduceCtorEq] at h
  all_goals
    subst h
    obtain rfl := List.mem_singleton.mp hentry
    exact ⟨_, rfl⟩

theorem nodup_ids_segment (config : SegmentConfig) (events : List Event) :
    ((segment config events).map Step.id).Nodup := by
  have hids : (segment config events).map Step.id =
      ((stepSources events).zipIdx.map Prod.snd).map fun before => stepId (before + 1) := by
    rw [segment_eq_stepsOf, stepsOf, List.map_map, List.map_map]
    rfl
  rw [hids, List.zipIdx_map_snd]
  refine List.Nodup.map ?_ List.nodup_range'
  intro first second h
  have htexts : (first + 1).repr = (second + 1).repr := (String.append_right_inj _).mp h
  have hdigits := congrArg String.toList htexts
  rw [Nat.toList_repr, Nat.toList_repr] at hdigits
  have hnumbers := congrArg (Nat.ofDigitChars 10 · 0) hdigits
  simp only [Nat.ofDigitChars_ten_toDigits] at hnumbers
  omega

end BrowserFlow
