import BrowserFlow.Proofs.Flow.Reload
import BrowserFlow.Proofs.Text.Replace
import BrowserFlow.Replay.Script

/-!
# What a script tells of its flow

The steps are filled in last. No other mark overlaps theirs, so it is still there when its turn
comes, and from the script one can tell the steps, with all their locators.
-/

namespace BrowserFlow

open Json (Value)

/-! ### Locators as scripts hold them -/

theorem Locator.toJson_injective : Function.Injective Locator.toJson := by
  intro l m h
  obtain ⟨hkind, hrest⟩ := List.cons.inj (Value.object.inj h)
  have hkind : l.kind = m.kind := by simpa using hkind
  cases l <;> cases m <;> simp [kind] at hkind <;> simp_all [value?]

theorem Locator.toJson_isExact (l : Locator) : l.toJson.IsExact := by
  cases l <;> simp [toJson, value?, Value.IsExact, Json.ExactFields]

theorem Step.scriptJson_isExact {step : Step} (h : step.IsExact) : step.scriptJson.IsExact := by
  have hlocators : (Value.array (step.selectors.candidates.map Locator.toJson)).IsExact := by
    apply Json.exactItems_iff.mpr
    intro v hv
    obtain ⟨l, -, rfl⟩ := List.mem_map.mp hv
    exact l.toJson_isExact
  apply Json.exactFields_iff.mpr
  intro field hfield
  rcases List.mem_append.mp hfield with hfield | hfield
  · simp only [List.mem_cons, List.not_mem_nil, or_false] at hfield
    rcases hfield with rfl | rfl | rfl | rfl
    · trivial
    · trivial
    · exact step.selectors.toJson_isExact
    · exact hlocators
  · exact conditionFields_isExact h field hfield

theorem Flow.scriptSteps_isExact {flow : Flow} (h : flow.IsExact) : flow.scriptSteps.IsExact := by
  apply Json.exactItems_iff.mpr
  intro v hv
  obtain ⟨step, hstep, rfl⟩ := List.mem_map.mp hv
  exact Step.scriptJson_isExact (h step hstep)

theorem Step.candidates_eq_of_scriptJson {first second : Step}
    (h : first.scriptJson = second.scriptJson) :
    first.selectors.candidates = second.selectors.candidates := by
  have hfields := Value.object.inj h
  simp only [List.cons_append, List.cons.injEq, Prod.mk.injEq, Value.array.injEq] at hfields
  obtain ⟨-, -, -, ⟨-, hlocators⟩, -⟩ := hfields
  exact Locator.toJson_injective.list_map hlocators

/-! ### Marks -/

namespace Script

def stepsMark : String := "\x7b\x7bSTEPS\x7d\x7d"

/-- The slots that are filled before the steps. -/
def slotsBefore (name : String) (config : ReplayConfig) : List Slot :=
  [⟨"\x7b\x7bFLOW_NAME\x7d\x7d", Json.quote name⟩,
    ⟨"\x7b\x7bSTEP_DELAY_MS\x7d\x7d", toString config.stepDelayMs⟩,
    ⟨"\x7b\x7bLOCATOR_TIMEOUT_MS\x7d\x7d", toString config.locatorTimeoutMs⟩,
    ⟨"\x7b\x7bPRECONDITION_MODE\x7d\x7d", Json.quote config.preconditionMode.tag⟩,
    ⟨"\x7b\x7bDATA_FILE\x7d\x7d", Json.quote ("./" ++ config.dataFile)⟩]

def marksBefore : List String :=
  ["\x7b\x7bFLOW_NAME\x7d\x7d", "\x7b\x7bSTEP_DELAY_MS\x7d\x7d",
    "\x7b\x7bLOCATOR_TIMEOUT_MS\x7d\x7d", "\x7b\x7bPRECONDITION_MODE\x7d\x7d",
    "\x7b\x7bDATA_FILE\x7d\x7d"]

theorem apart_marksBefore : ∀ mark ∈ marksBefore, Text.Apart mark.toList stepsMark.toList := by
  decide

theorem apart_stepsMark {name : String} {config : ReplayConfig} {slot : Slot}
    (h : slot ∈ slotsBefore name config) : Text.Apart slot.mark.toList stepsMark.toList := by
  have hmarks : (slotsBefore name config).map Slot.mark = marksBefore := rfl
  exact apart_marksBefore slot.mark (hmarks ▸ List.mem_map_of_mem h)

theorem stepsMark_infix_foldl {filled : List Slot} {text : List Char}
    (hapart : ∀ slot ∈ filled, Text.Apart slot.mark.toList stepsMark.toList)
    (h : stepsMark.toList <:+: text) : stepsMark.toList <:+: filled.foldl fill text := by
  induction filled generalizing text with
  | nil => exact h
  | cons slot filled ih =>
      refine ih (fun later hlater => hapart later (List.mem_cons_of_mem _ hlater)) ?_
      obtain ⟨before, after, rfl⟩ := h
      rw [List.append_assoc, fill,
        Text.replaceAll_append_other _ (hapart slot List.mem_cons_self)]
      exact ⟨_, _, List.append_assoc ..⟩

theorem infix_intercalate (separator : List Char) {piece : List Char} {pieces : List (List Char)}
    (h : piece ∈ pieces) : piece <:+: separator.intercalate pieces := by
  induction pieces with
  | nil => simp at h
  | cons first pieces ih =>
      cases pieces with
      | nil =>
          obtain rfl := List.mem_singleton.mp h
          rw [List.intercalate_singleton]
      | cons second pieces =>
          rw [List.intercalate_cons_cons]
          rcases List.mem_cons.mp h with rfl | h
          · rw [List.append_assoc]
            exact (List.prefix_append _ _).isInfix
          · exact (ih h).trans (List.suffix_append _ _).isInfix

theorem stepsMark_infix_template : stepsMark.toList <:+: template.toList := by
  have hline : "const steps: Step[] = \x7b\x7bSTEPS\x7d\x7d;" ∈ templateLines :=
    List.mem_of_getElem? (i := 47) rfl
  have hmark : stepsMark.toList <:+: "const steps: Step[] = \x7b\x7bSTEPS\x7d\x7d;".toList := by
    decide
  rw [template, String.toList_intercalate]
  exact hmark.trans (infix_intercalate _ (List.mem_map_of_mem hline))

theorem foldl_fill_concat (filled : List Slot) (mark value : String) (text : List Char) :
    (filled ++ [Slot.mk mark value]).foldl fill text =
      Text.replaceAll mark.toList value.toList (filled.foldl fill text) := by
  rw [List.foldl_append]
  rfl

/-- The text in which only the steps are missing. -/
def unfinished (name : String) (config : ReplayConfig) : List Char :=
  (slotsBefore name config).foldl fill template.toList

theorem stepsMark_infix_unfinished (name : String) (config : ReplayConfig) :
    stepsMark.toList <:+: unfinished name config :=
  stepsMark_infix_foldl (fun _ hslot => apart_stepsMark hslot) stepsMark_infix_template

end Script

theorem Flow.script_eq_fill (flow : Flow) (config : ReplayConfig) :
    flow.script config =
      String.ofList (Text.replaceAll Script.stepsMark.toList flow.scriptSteps.pretty.toList
        (Script.unfinished flow.name config)) := by
  have hslots : Script.slots flow config = Script.slotsBefore flow.name config ++
      [⟨Script.stepsMark, flow.scriptSteps.pretty⟩] := rfl
  rw [script, hslots, Script.foldl_fill_concat, ← Script.unfinished]

/-- Two flows of one name have the same script exactly when they have the same steps to show. -/
theorem Flow.script_eq_iff {first second : Flow} (hname : first.name = second.name)
    (hfirst : first.IsExact) (hsecond : second.IsExact) (config : ReplayConfig) :
    first.script config = second.script config ↔ first.scriptSteps = second.scriptSteps := by
  have hne : Script.stepsMark.toList ≠ [] := by decide
  have hmark := Script.stepsMark_infix_unfinished second.name config
  calc
    first.script config = second.script config ↔
        Text.replaceAll Script.stepsMark.toList first.scriptSteps.pretty.toList
            (Script.unfinished second.name config) =
          Text.replaceAll Script.stepsMark.toList second.scriptSteps.pretty.toList
            (Script.unfinished second.name config) := by
      rw [script_eq_fill, script_eq_fill, hname, String.ofList_inj]
    _ ↔ first.scriptSteps.pretty = second.scriptSteps.pretty := by
      rw [Text.replaceAll_inj hne hmark, String.toList_inj]
    _ ↔ first.scriptSteps = second.scriptSteps :=
      Json.pretty_inj (scriptSteps_isExact hfirst) (scriptSteps_isExact hsecond)

end BrowserFlow
