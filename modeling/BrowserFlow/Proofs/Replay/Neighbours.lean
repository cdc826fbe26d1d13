import BrowserFlow.Proofs.Replay.Filter
import Mathlib.Data.Finset.Card
import Mathlib.Data.Finset.Image

/-!
# Steps that are left out

A step is left out for the sake of a step beside it, which is replayed. So each step that is replayed
stands for at most three of the flow: itself and its two neighbours. A click is never left out and
does not look at its neighbours, so what comes before it and what comes after it can be told apart.
-/

namespace BrowserFlow

namespace Step

/-- The next step puts the focus where this one does. -/
def FocusedByNext (step : Step) (next : Option Step) : Prop :=
  ∃ other ∈ next,
    (other.type = .click ∨ other.type = .login) ∧ other.selectors = step.selectors

/-- The step before is a click that submits what this one does. -/
def SubmittedByPrevious (step : Step) (previous : Option Step) : Prop :=
  ∃ other ∈ previous, other.type = .click ∧
    (other.selectors = step.selectors ∨
      other.precondition.bind (·.urlMatches) = step.precondition.bind (·.urlMatches))

theorem isIdleFocus_iff (step : Step) (next : Option Step) :
    step.isIdleFocus next ↔ step.type = .focus ∧ step.FocusedByNext next := by
  simp [isIdleFocus, FocusedByNext, Option.any_eq_true]

theorem isIdleSubmit_iff (step : Step) (previous : Option Step) :
    step.isIdleSubmit previous ↔ step.type = .submit ∧ step.SubmittedByPrevious previous := by
  simp [isIdleSubmit, SubmittedByPrevious, Option.any_eq_true, preconditionUrl?]

theorem not_isReplayed_iff (previous : Option Step) (step : Step) (next : Option Step) :
    ¬step.isReplayed previous next ↔
      (step.type = .focus ∧ step.FocusedByNext next) ∨
        (step.type = .submit ∧ step.SubmittedByPrevious previous) := by
  rw [← isIdleFocus_iff, ← isIdleSubmit_iff, isReplayed]
  cases step.isIdleFocus next <;> cases step.isIdleSubmit previous <;> decide

theorem isReplayed_of_type {step : Step} (hfocus : step.type ≠ .focus)
    (hsubmit : step.type ≠ .submit) (previous next : Option Step) :
    step.isReplayed previous next := by
  by_contra h
  rcases (not_isReplayed_iff previous step next).mp h with ⟨htype, -⟩ | ⟨htype, -⟩
  · exact hfocus htype
  · exact hsubmit htype

end Step

/-! ### Around a click -/

theorem replayedFrom_append_click (previous : Option Step) (before rest : List Step) {click : Step}
    (h : click.type = .click) :
    replayedFrom previous (before ++ click :: rest) =
      replayedFrom previous (before ++ [click]) ++ replayedFrom (some click) rest := by
  have hclick : ∀ previous next, click.isReplayed previous next :=
    click.isReplayed_of_type (by simp [h]) (by simp [h])
  induction before generalizing previous with
  | nil => simp [replayedFrom, hclick]
  | cons step before ih =>
      have hhead : (before ++ click :: rest).head? = (before ++ [click]).head? := by
        cases before <;> rfl
      rw [List.cons_append, List.cons_append, replayedFrom, replayedFrom, hhead, ih (some step)]
      split
      · rfl
      · rfl

theorem replayed_append_click (before rest : List Step) {click : Step} (h : click.type = .click) :
    replayed (before ++ click :: rest) =
      replayed (before ++ [click]) ++ (replayed (click :: rest)).tail := by
  have hrest : replayed (click :: rest) = click :: replayedFrom (some click) rest := by
    have hclick : click.isReplayed none rest.head? :=
      click.isReplayed_of_type (by simp [h]) (by simp [h]) none rest.head?
    rw [replayed, replayedFrom, if_pos hclick]
  rw [hrest, List.tail_cons]
  exact replayedFrom_append_click none before rest h

/-! ### Positions -/

/-- The step before a position. -/
def stepBefore? (steps : List Step) : Nat → Option Step
  | 0 => none
  | position + 1 => steps[position]?

section Positions

variable {steps : List Step} {position : Nat} {step : Step} (h : steps[position]? = some step)

include h

theorem mem_replayedPositions_iff :
    position ∈ replayedPositions steps ↔
      step.isReplayed (stepBefore? steps position) steps[position + 1]? := by
  obtain ⟨hlength, -⟩ := List.getElem?_eq_some_iff.mp h
  have hbefore : (steps.take position).getLast? = stepBefore? steps position := by
    cases position with
    | zero => rfl
    | succ position =>
        rw [List.getLast?_take, if_neg (Nat.succ_ne_zero position), Nat.add_sub_cancel, stepBefore?,
          List.getElem?_eq_getElem (by omega)]
        rfl
  rw [replayedPositions, List.mem_filter, List.mem_range, isReplayedAt, h, hbefore,
    Option.any_some]
  exact and_iff_right hlength

theorem mem_replayedPositions_of_type (hfocus : step.type ≠ .focus) (hsubmit : step.type ≠ .submit) :
    position ∈ replayedPositions steps :=
  (mem_replayedPositions_iff h).mpr (Step.isReplayed_of_type hfocus hsubmit _ _)

theorem not_mem_replayedPositions_iff :
    position ∉ replayedPositions steps ↔
      (step.type = .focus ∧ step.FocusedByNext steps[position + 1]?) ∨
        (step.type = .submit ∧ step.SubmittedByPrevious (stepBefore? steps position)) := by
  rw [mem_replayedPositions_iff h, Step.not_isReplayed_iff]

/-- The step that makes another one idle is replayed, since it is a click or a login. -/
theorem exists_replayed_neighbour (hdropped : position ∉ replayedPositions steps) :
    ∃ neighbour ∈ replayedPositions steps, (neighbour + 1 = position ∨ neighbour = position + 1) ∧
      ∃ other, steps[neighbour]? = some other ∧ (other.type = .click ∨ other.type = .login) := by
  have hkept : ∀ {neighbour : Nat} {other : Step}, steps[neighbour]? = some other →
      other.type = .click ∨ other.type = .login → neighbour ∈ replayedPositions steps := by
    intro neighbour other hother htype
    apply mem_replayedPositions_of_type hother
    · rcases htype with htype | htype <;> simp [htype]
    · rcases htype with htype | htype <;> simp [htype]
  rcases (not_mem_replayedPositions_iff h).mp hdropped with
    ⟨-, other, hnext, htype, -⟩ | ⟨-, other, hprevious, htype, -⟩
  · exact ⟨position + 1, hkept hnext htype, .inr rfl, other, hnext, htype⟩
  · cases position with
    | zero => simp [stepBefore?] at hprevious
    | succ before =>
        exact ⟨before, hkept hprevious (.inl htype), .inl rfl, other, hprevious, .inl htype⟩

end Positions

/-! ### How many steps are left -/

theorem length_replayedPositions (steps : List Step) :
    (replayedPositions steps).length = (replayed steps).length :=
  (forall₂_replayed steps).length_eq

theorem length_le_three_mul_replayed (steps : List Step) :
    steps.length ≤ 3 * (replayed steps).length := by
  set kept := (replayedPositions steps).toFinset with hkept
  -- Every position is replayed, follows one that is, or comes before one that is.
  have hcover : Finset.range steps.length ⊆ kept ∪ (kept.image (· + 1) ∪ kept.image (· - 1)) := by
    intro position hposition
    have hstep := List.getElem?_eq_getElem (Finset.mem_range.mp hposition)
    simp only [Finset.mem_union, Finset.mem_image, hkept, List.mem_toFinset]
    by_cases hmem : position ∈ replayedPositions steps
    · exact .inl hmem
    · obtain ⟨neighbour, hneighbour, hbeside | hbeside, -⟩ := exists_replayed_neighbour hstep hmem
      · exact .inr (.inl ⟨neighbour, hneighbour, hbeside⟩)
      · exact .inr (.inr ⟨neighbour, hneighbour, by omega⟩)
  have hcard : kept.card ≤ (replayed steps).length := by
    rw [← length_replayedPositions]
    exact List.toFinset_card_le _
  calc
    steps.length = (Finset.range steps.length).card := (Finset.card_range _).symm
    _ ≤ (kept ∪ (kept.image (· + 1) ∪ kept.image (· - 1))).card := Finset.card_le_card hcover
    _ ≤ kept.card + (kept.image (· + 1) ∪ kept.image (· - 1)).card := Finset.card_union_le _ _
    _ ≤ kept.card + ((kept.image (· + 1)).card + (kept.image (· - 1)).card) :=
      Nat.add_le_add_left (Finset.card_union_le _ _) _
    _ ≤ kept.card + (kept.card + kept.card) :=
      Nat.add_le_add_left (Nat.add_le_add Finset.card_image_le Finset.card_image_le) _
    _ ≤ 3 * (replayed steps).length := by omega

/-- One of three may be all that is left. -/
example :
    (replayed [{ (default : Step) with type := .focus }, { (default : Step) with type := .click },
      { (default : Step) with type := .submit }]).map Step.type = [.click] := by
  decide

/-- What the replayed steps keep of the steps of a flow. A position that is not among the replayed
ones is that of a step that is left out. -/
structure KeepsEssentials (steps : List Step) : Prop where
  sublist : (replayed steps).Sublist steps
  /-- The replayed steps are those at the replayed positions, in order. -/
  inOrder : (replayedPositions steps).Pairwise (· < ·) ∧
    List.Forall₂ (fun position step => steps[position]? = some step) (replayedPositions steps)
      (replayed steps)
  other : ∀ position step, steps[position]? = some step →
    step.type ≠ .focus → step.type ≠ .submit → position ∈ replayedPositions steps
  focus : ∀ position step, steps[position]? = some step → step.type = .focus →
    (position ∉ replayedPositions steps ↔ step.FocusedByNext steps[position + 1]?)
  submit : ∀ position step, steps[position]? = some step → step.type = .submit →
    (position ∉ replayedPositions steps ↔ step.SubmittedByPrevious (stepBefore? steps position))
  neighbour : ∀ position < steps.length, position ∉ replayedPositions steps →
    ∃ neighbour ∈ replayedPositions steps, (neighbour + 1 = position ∨ neighbour = position + 1) ∧
      ∃ other, steps[neighbour]? = some other ∧ (other.type = .click ∨ other.type = .login)
  nonempty : steps ≠ [] → replayed steps ≠ []
  third : steps.length ≤ 3 * (replayed steps).length
  click : ∀ before click rest, steps = before ++ click :: rest → click.type = .click →
    replayed steps = replayed (before ++ [click]) ++ (replayed (click :: rest)).tail

/-- Only a focus that the next step repeats and a submission that the click before it is already are
left out. So of any three steps one is replayed, and what comes before a click and what comes after
it are judged apart. -/
theorem replayed_keepsEssentials (steps : List Step) : KeepsEssentials steps where
  sublist := replayed_sublist steps
  inOrder := ⟨List.pairwise_lt_range.filter _, forall₂_replayed steps⟩
  other _ _ := mem_replayedPositions_of_type
  focus position step h htype := by
    simp [not_mem_replayedPositions_iff h, htype]
  submit position step h htype := by
    simp [not_mem_replayedPositions_iff h, htype]
  neighbour position hposition :=
    exists_replayed_neighbour (List.getElem?_eq_getElem hposition)
  nonempty hne hnone := by
    have hthird := length_le_three_mul_replayed steps
    rw [hnone, List.length_nil, Nat.mul_zero] at hthird
    exact hne (List.eq_nil_of_length_eq_zero (Nat.le_zero.mp hthird))
  third := length_le_three_mul_replayed steps
  click before _ rest h htype := h ▸ replayed_append_click before rest htype

end BrowserFlow
