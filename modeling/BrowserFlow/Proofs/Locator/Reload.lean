import BrowserFlow.Proofs.Locator.Calls
import Mathlib.Logic.Function.Basic

/-!
# Reloading the expressions of element queries

A test id, label, placeholder or text is stored as one quoted text and always comes back as a
locator of its kind; it comes back unchanged when the text is plain. Role locators hold two quoted
texts, and the pattern that reads them allows no quote in the role.
-/

namespace BrowserFlow.Locator

theorem parse?_testId (v : String) :
    parse? (testId v).expression = some (testId (String.ofList (reread v.toList))) :=
  parse?_value (.head _) v.toList

theorem parse?_label (v : String) :
    parse? (label v).expression = some (label (String.ofList (reread v.toList))) :=
  parse?_value (.tail _ (.tail _ (.head _))) v.toList

theorem parse?_placeholder (v : String) :
    parse? (placeholder v).expression = some (placeholder (String.ofList (reread v.toList))) :=
  parse?_value (.tail _ (.tail _ (.tail _ (.head _)))) v.toList

theorem parse?_text (v : String) :
    parse? (Locator.text v).expression = some (Locator.text (String.ofList (reread v.toList))) :=
  parse?_value (.tail _ (.tail _ (.tail _ (.tail _ (.head _))))) v.toList

theorem ofList_reread_eq_iff (v : String) :
    String.ofList (reread v.toList) = v ↔ IsPlain v.toList := by
  rw [← reread_eq_self_iff, ← String.ofList_inj, String.ofList_toList]

/-! ### Roles -/

theorem IsPlain.of_no_quote {text : List Char} (hquote : ∀ c ∈ text, isQuote c = false)
    (hrare : ∀ c ∈ text, isRareControl c = false) : IsPlain text := by
  refine ⟨hrare, ?_⟩
  intro hinfix
  have hmem : '"' ∈ text := hinfix.subset (by simp)
  exact absurd (hquote _ hmem) (by decide)

theorem dropSlashes_of_no_quote {text : List Char} (hquote : ∀ c ∈ text, isQuote c = false) :
    dropSlashes text = text := by
  apply dropSlashes_eq_self
  intro hinfix
  have hmem : '"' ∈ text := hinfix.subset (by simp)
  exact absurd (hquote _ hmem) (by decide)

theorem softEscape_ne_nil (c : Char) : softEscape c ≠ [] := by
  by_cases hquote : c = '"'
  · subst hquote
    decide
  have hsoft : softEscape c = Json.escapeChar c := if_neg hquote
  rw [hsoft]
  rcases escapeChar_cases c with rfl | rfl | ⟨-, d, hc, -⟩ | ⟨-, d, letters, hc, -⟩ | ⟨-, hc, -⟩
  · exact absurd rfl hquote
  · decide
  · simp [hc]
  · simp [hc]
  · simp [hc]

theorem isQuote_mem_softEscape {c d : Char} (hc : isQuote c = false) (hd : d ∈ softEscape c) :
    isQuote d = false := by
  have hquote : c ≠ '"' := by
    rintro rfl
    exact absurd hc (by decide)
  have hsoft : softEscape c = Json.escapeChar c := if_neg hquote
  rw [hsoft] at hd
  rcases escapeChar_cases c with rfl | rfl | ⟨-, e, hescape, he, -⟩ |
    ⟨-, e, letters, hescape, hletters, -⟩ | ⟨-, hescape, -⟩
  · exact absurd rfl hquote
  · rcases List.mem_pair.mp hd with rfl | rfl <;> decide
  · rw [hescape] at hd
    rcases List.mem_pair.mp hd with rfl | rfl
    · decide
    · exact he.2.1
  · rw [hescape] at hd
    rcases List.mem_cons.mp hd with rfl | hd
    · decide
    · exact (hletters d hd).2.1
  · rw [hescape] at hd
    rwa [List.mem_singleton.mp hd]

theorem parse?_role_of_no_quote {r : String} (n : String) (hr : r.toList ≠ [])
    (hquote : ∀ c ∈ r.toList, isQuote c = false) :
    parse? (role r n).expression =
      some (role (String.ofList (reread r.toList)) (String.ofList (reread n.toList))) := by
  have hbody : normalizedBody r.toList = r.toList.flatMap softEscape := by
    rw [normalizedBody, dropSlashes_of_no_quote hquote]
  have hne : normalizedBody r.toList ≠ [] := by
    rw [hbody, ne_eq, List.flatMap_eq_nil_iff]
    intro hnil
    obtain ⟨c, hc⟩ := List.exists_mem_of_ne_nil _ hr
    exact softEscape_ne_nil c (hnil c hc)
  have hplain : ∀ c ∈ normalizedBody r.toList, isQuote c = false := by
    rw [hbody]
    intro d hd
    obtain ⟨c, hc, hd⟩ := List.mem_flatMap.mp hd
    exact isQuote_mem_softEscape (hquote c hc) hd
  rw [parse?_role, roleCall?,
    roleArguments?_roleBody hne hplain (feed_not_mem_normalizedBody n.toList)]
  simp [unescape_normalizedBody]

theorem parse?_role_eq_self_iff (r n : String) :
    parse? (role r n).expression = some (role r n) ↔
      (r.toList ≠ [] ∧ (∀ c ∈ r.toList, isQuote c = false) ∧
        ∀ c ∈ r.toList, isRareControl c = false) ∧ IsPlain n.toList := by
  constructor
  · intro h
    have hread := h
    rw [parse?_role] at hread
    obtain ⟨r', n', heq, hr, hquote⟩ := role_of_roleCall? hread
    obtain ⟨rfl, rfl⟩ : r = r' ∧ n = n' := by simpa using heq
    rw [parse?_role_of_no_quote n hr hquote] at h
    obtain ⟨hsame, hname⟩ : String.ofList (reread r.toList) = r ∧
        String.ofList (reread n.toList) = n := by simpa using h
    rw [ofList_reread_eq_iff] at hsame hname
    exact ⟨⟨hr, hquote, hsame.1⟩, hname⟩
  · rintro ⟨⟨hr, hquote, hrare⟩, hname⟩
    rw [parse?_role_of_no_quote n hr hquote,
      (ofList_reread_eq_iff r).mpr (.of_no_quote hquote hrare), (ofList_reread_eq_iff n).mpr hname]

/-! ### All element queries -/

/-- A locator of this kind comes back from its expression as one of its kind, and as itself exactly
when its value is plain. -/
def KeepsPlainValues (make : String → Locator) : Prop :=
  ∀ v : String, (∃ w, parse? (make v).expression = some (make w)) ∧
    (parse? (make v).expression = some (make v) ↔ IsPlain v.toList)

theorem keepsPlainValues_of_parse? {make : String → Locator} (hinj : Function.Injective make)
    (h : ∀ v, parse? (make v).expression = some (make (String.ofList (reread v.toList)))) :
    KeepsPlainValues make := by
  intro v
  refine ⟨⟨_, h v⟩, ?_⟩
  rw [h v, Option.some.injEq, hinj.eq_iff, ofList_reread_eq_iff]

/-- Element queries reload. The values that survive are those without rare control characters and
without a backslash directly before a double quote; a role must also be there and hold no quote. -/
theorem element_queries_reload :
    KeepsPlainValues testId ∧ KeepsPlainValues label ∧ KeepsPlainValues placeholder ∧
      KeepsPlainValues Locator.text ∧
      ∀ r n : String, parse? (role r n).expression = some (role r n) ↔
        (r.toList ≠ [] ∧ (∀ c ∈ r.toList, isQuote c = false) ∧
          ∀ c ∈ r.toList, isRareControl c = false) ∧ IsPlain n.toList := by
  refine ⟨?_, ?_, ?_, ?_, parse?_role_eq_self_iff⟩
  · exact keepsPlainValues_of_parse? (fun _ _ => testId.inj) parse?_testId
  · exact keepsPlainValues_of_parse? (fun _ _ => label.inj) parse?_label
  · exact keepsPlainValues_of_parse? (fun _ _ => placeholder.inj) parse?_placeholder
  · exact keepsPlainValues_of_parse? (fun _ _ => text.inj) parse?_text

end BrowserFlow.Locator
