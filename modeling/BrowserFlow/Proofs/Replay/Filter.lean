import BrowserFlow.Replay.Filter
import Mathlib.Data.List.Basic
import Mathlib.Data.List.Forall2

/-!
# Which steps are replayed

Whether a step is replayed depends on the types, the locators and the page URLs of the step and of
its neighbours. A change of steps that keeps these changes nothing about which of them are replayed.
-/

namespace BrowserFlow

theorem replayedFrom_sublist (previous : Option Step) (steps : List Step) :
    (replayedFrom previous steps).Sublist steps := by
  induction steps generalizing previous with
  | nil => exact .slnil
  | cons step rest ih =>
      rw [replayedFrom]
      split
      · exact (ih (some step)).cons_cons step
      · exact (ih (some step)).cons step

theorem replayed_sublist (steps : List Step) : (replayed steps).Sublist steps :=
  replayedFrom_sublist none steps

section Map

variable {change : Step → Step} (htype : ∀ step, (change step).type = step.type)
  (hselectors : ∀ step, (change step).selectors = step.selectors)
  (hurl : ∀ step, (change step).preconditionUrl? = step.preconditionUrl?)

include htype hselectors hurl

theorem isReplayed_map (previous : Option Step) (step : Step) (next : Option Step) :
    (change step).isReplayed (previous.map change) (next.map change) =
      step.isReplayed previous next := by
  cases previous <;> cases next <;>
    simp only [Step.isReplayed, Step.isIdleFocus, Step.isIdleSubmit, Option.map_none,
      Option.map_some, Option.any_none, Option.any_some, htype, hselectors, hurl]

theorem replayedFrom_map (previous : Option Step) (steps : List Step) :
    replayedFrom (previous.map change) (steps.map change) =
      (replayedFrom previous steps).map change := by
  induction steps generalizing previous with
  | nil => rfl
  | cons step rest ih =>
      have hrest := ih (some step)
      rw [Option.map_some] at hrest
      rw [List.map_cons, replayedFrom, replayedFrom, List.head?_map,
        isReplayed_map htype hselectors hurl, hrest]
      split
      · rfl
      · rfl

theorem replayed_map (steps : List Step) :
    replayed (steps.map change) = (replayed steps).map change :=
  replayedFrom_map htype hselectors hurl none steps

end Map

/-! ### Positions -/

/-- Whether the step at a position is replayed. -/
def isReplayedAt (steps : List Step) (position : Nat) : Bool :=
  steps[position]?.any fun step =>
    step.isReplayed (steps.take position).getLast? steps[position + 1]?

/-- The positions of the steps that are replayed, in order. -/
def replayedPositions (steps : List Step) : List Nat :=
  (List.range steps.length).filter (isReplayedAt steps)

theorem isReplayedAt_append (before : List Step) (step : Step) (rest : List Step) :
    isReplayedAt (before ++ step :: rest) before.length =
      step.isReplayed before.getLast? rest.head? := by
  have hnext : (before ++ step :: rest)[before.length + 1]? = rest.head? := by
    rw [List.getElem?_append_right (by omega), List.head?_eq_getElem?]
    simp
  rw [isReplayedAt, hnext, List.take_left']
  · simp
  · rfl

theorem forall₂_replayedFrom (before rest : List Step) :
    List.Forall₂ (fun position step => (before ++ rest)[position]? = some step)
      ((List.range' before.length rest.length).filter (isReplayedAt (before ++ rest)))
      (replayedFrom before.getLast? rest) := by
  induction rest generalizing before with
  | nil => exact .nil
  | cons step rest ih =>
      have hrest := ih (before ++ [step])
      rw [List.append_assoc, List.singleton_append, List.length_append, List.length_singleton,
        List.getLast?_append_of_ne_nil _ (List.cons_ne_nil step []), List.getLast?_singleton]
        at hrest
      have hhere : (before ++ step :: rest)[before.length]? = some step := by simp
      rw [List.length_cons, List.range'_succ, replayedFrom]
      by_cases h : step.isReplayed before.getLast? rest.head?
      · rw [if_pos h, List.filter_cons_of_pos ((isReplayedAt_append before step rest).trans h)]
        exact .cons hhere hrest
      · rw [if_neg h, List.filter_cons_of_neg (isReplayedAt_append before step rest ▸ h)]
        exact hrest

theorem forall₂_replayed (steps : List Step) :
    List.Forall₂ (fun position step => steps[position]? = some step) (replayedPositions steps)
      (replayed steps) := by
  rw [replayedPositions, List.range_eq_range']
  exact forall₂_replayedFrom [] steps

end BrowserFlow
