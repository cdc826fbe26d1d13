import BrowserFlow.Flow.Build
import BrowserFlow.Proofs.Flow.Reload

/-!
# Stored flows

Reading the text of a flow never fails, and says of every step what may have changed in it: a
foreign type may be known by its tag, and each locator is read from its expression. Conditions and
parameters that are there but empty stay apart from those that are missing.
-/

namespace BrowserFlow

namespace StepType

/-- How a type comes back: a foreign one as the known type of its tag, if there is one. -/
inductive ReadAs : StepType → StepType → Prop
  | known {type : StepType} (h : type.isKnown) : ReadAs type type
  | recognized {tag : String} {type : StepType} (h : type.isKnown) (htag : type.tag = tag) :
      ReadAs (.other tag) type
  | foreign {tag : String} (h : ∀ type : StepType, type.isKnown → type.tag ≠ tag) :
      ReadAs (.other tag) (.other tag)

theorem mem_known_iff {type : StepType} : type ∈ known ↔ type.isKnown := by
  cases type <;> simp [known, isKnown]

theorem ofTag_eq_other {tag : String} (h : ∀ type : StepType, type.isKnown → type.tag ≠ tag) :
    ofTag tag = .other tag := by
  have hnone : (known.find? fun type => type.tag = tag) = none :=
    List.find?_eq_none.mpr fun type htype => by simpa using h type (mem_known_iff.mp htype)
  rw [ofTag, hnone, Option.getD_none]

theorem readAs_iff {stored loaded : StepType} :
    stored.ReadAs loaded ↔ loaded = ofTag stored.tag := by
  constructor
  · intro h
    cases h with
    | known h => exact (ofTag_tag h).symm
    | recognized h htag =>
        subst htag
        exact (ofTag_tag h).symm
    | foreign h => exact (ofTag_eq_other h).symm
  · rintro rfl
    cases stored with
    | other tag =>
        by_cases hknown : ∃ type : StepType, type.isKnown ∧ type.tag = tag
        · obtain ⟨type, htype, rfl⟩ := hknown
          change (other type.tag).ReadAs (ofTag type.tag)
          rw [ofTag_tag htype]
          exact .recognized htype rfl
        · have hforeign : ∀ type : StepType, type.isKnown → type.tag ≠ tag :=
            fun type htype htag => hknown ⟨type, htype, htag⟩
          change (other tag).ReadAs (ofTag tag)
          rw [ofTag_eq_other hforeign]
          exact .foreign hforeign
    | _ => exact .known rfl

end StepType

/-- What reading does to a step: everything stays but foreign types that are known by their tag,
and locators, which are read from their expressions. -/
structure Step.ReadAs (stored loaded : Step) : Prop where
  id : loaded.id = stored.id
  type : stored.type.ReadAs loaded.type
  primary : loaded.selectors.primary = .ofExpression stored.selectors.primary.expression
  fallbacks : loaded.selectors.fallbacks =
    stored.selectors.fallbacks.map fun l => .ofExpression l.expression
  precondition : loaded.precondition = stored.precondition
  effect : loaded.effect = stored.effect
  params : loaded.params = stored.params

theorem Step.readAs_reloaded (step : Step) : step.ReadAs step.reloaded where
  id := rfl
  type := StepType.readAs_iff.mpr rfl
  primary := rfl
  fallbacks := rfl
  precondition := rfl
  effect := rfl
  params := rfl

namespace Flow

/-- A stored flow can be read, and its steps come back one by one in their order. -/
theorem read_text {flow : Flow} (h : flow.IsExact) :
    ∃ loaded, read flow.text = .ok loaded ∧ loaded.name = flow.name ∧
      List.Forall₂ Step.ReadAs flow.steps loaded.steps := by
  refine ⟨flow.reloaded, ?_, rfl, ?_⟩
  · rw [read, ofText_text h]
    rfl
  · rw [reloaded, List.forall₂_map_right_iff]
    exact List.forall₂_same.mpr fun step _ => step.readAs_reloaded

/-- A flow from elsewhere, with types of its own and conditions without content. -/
def foreignFlow : Flow :=
  { name := "example.com"
    steps :=
      [{ id := "first"
         type := .other "HOVER"
         selectors := ⟨.name "user[email]", [.text "Menu", .text "Menu"]⟩
         precondition := some ⟨none⟩
         effect := some ⟨none, none⟩
         params := some Table.empty },
       { id := ""
         type := .other "CLICK"
         selectors := ⟨.unrecognized "frameLocator(\"f\")", []⟩
         precondition := none
         effect := none
         params := some ((Table.single "count" (.number (.integer (-3)))).insert
           "checked" (.bool true)) }] }

theorem read_foreignFlow :
    foreignFlow.IsExact ∧ ∃ loaded, read foreignFlow.text = .ok loaded ∧
      loaded.steps.map Step.type = [.other "HOVER", .click] ∧
        loaded.steps.map Step.effect = [some ⟨none, none⟩, none] := by
  have hexact : foreignFlow.IsExact := by
    intro step hstep params hparams entry hentry
    simp only [foreignFlow, List.mem_cons, List.not_mem_nil, or_false] at hstep
    rcases hstep with rfl | rfl
    · cases hparams
      exact nomatch hentry
    · cases hparams
      have hentries : entry ∈ [("count", Scalar.number (.integer (-3))), ("checked", .bool true)] :=
        hentry
      simp only [List.mem_cons, List.not_mem_nil, or_false] at hentries
      rcases hentries with rfl | rfl
      · exact ⟨by decide, by decide⟩
      · trivial
  obtain ⟨⟨name, steps⟩, hread, -, hsteps⟩ := read_text hexact
  refine ⟨hexact, ⟨name, steps⟩, hread, ?_⟩
  obtain _ | ⟨hhover, _ | ⟨hclick, _ | _⟩⟩ := hsteps
  refine ⟨?_, ?_⟩
  · rw [List.map_cons, List.map_cons, StepType.readAs_iff.mp hhover.type,
      StepType.readAs_iff.mp hclick.type]
    rfl
  · rw [List.map_cons, List.map_cons, hhover.effect, hclick.effect]
    rfl

end Flow

end BrowserFlow
