import BrowserFlow.Proofs.Flow.Reload
import BrowserFlow.Proofs.Locator.Survival
import Mathlib.Logic.Function.Iterate

/-!
# Reloading settles

What is read from a quoted text is plain, so it is not changed by being stored and read again. Each
kind of locator is settled after one reload except paths: a path whose backslashes hid another kind
is read as that kind first and settles with it one reload later.
-/

namespace BrowserFlow.Locator

/-! ### Text that has been reread -/

theorem head?_of_head?_dropSlashes {text : List Char} (h : (dropSlashes text).head? = some '"') :
    (text.dropWhile (· = '\\')).head? = some '"' := by
  cases text with
  | nil => simp [dropSlashes] at h
  | cons c text =>
      rw [dropSlashes] at h
      split at h
      · next hdropped =>
          rw [List.dropWhile_cons_of_pos (by simp [hdropped.1])]
          exact hdropped.2
      · obtain rfl : c = '"' := by simpa using h
        rfl

theorem slash_quote_not_infix_dropSlashes (text : List Char) :
    ¬['\\', '"'] <:+: dropSlashes text := by
  induction text with
  | nil => simp [dropSlashes]
  | cons c text ih =>
      rw [dropSlashes]
      split
      · exact ih
      · next hkept =>
          rw [List.infix_cons_iff, not_or]
          refine ⟨?_, ih⟩
          rintro ⟨rest, hrest⟩
          obtain ⟨rfl, hquote⟩ : '\\' = c ∧ '"' :: rest = dropSlashes text := by simpa using hrest
          exact hkept ⟨rfl, head?_of_head?_dropSlashes (by rw [← hquote, List.head?_cons])⟩

theorem rereadChar_cases (c : Char) :
    rereadChar c = [c] ∨ ∃ d letters, rereadChar c = d :: letters ∧
      ∀ e ∈ d :: letters, IsLetter e := by
  rw [rereadChar]
  split
  · next hrare =>
      rcases escapeChar_cases c with rfl | rfl | ⟨hc, -⟩ | ⟨-, d, letters, hc, hletters, -⟩ |
        ⟨hc, -⟩
      · exact absurd hrare (by decide)
      · exact absurd hrare (by decide)
      · simp [hc] at hrare
      · exact .inr ⟨d, letters, by rw [hc, List.tail_cons], hletters⟩
      · simp [hc] at hrare
  · exact .inl rfl

theorem head?_of_head?_flatMap_rereadChar {text : List Char}
    (h : (text.flatMap rereadChar).head? = some '"') : text.head? = some '"' := by
  cases text with
  | nil => simp at h
  | cons c text =>
      rw [List.flatMap_cons] at h
      rcases rereadChar_cases c with hc | ⟨d, letters, hc, hletters⟩
      · simpa [hc] using h
      · have hquote : d = '"' := by simpa [hc] using h
        have hletter := hletters d List.mem_cons_self
        rw [hquote] at hletter
        exact absurd hletter (by decide)

theorem slash_quote_infix_of_flatMap_rereadChar {text : List Char}
    (h : ['\\', '"'] <:+: text.flatMap rereadChar) : ['\\', '"'] <:+: text := by
  induction text with
  | nil => simp at h
  | cons c text ih =>
      rw [List.flatMap_cons] at h
      rw [List.infix_cons_iff]
      rcases rereadChar_cases c with hc | ⟨d, letters, hc, hletters⟩
      · rw [hc, List.singleton_append, List.infix_cons_iff] at h
        rcases h with ⟨rest, hrest⟩ | h
        · obtain ⟨rfl, hquote⟩ : '\\' = c ∧ '"' :: rest = text.flatMap rereadChar := by
            simpa using hrest
          have hhead : text.head? = some '"' :=
            head?_of_head?_flatMap_rereadChar (by rw [← hquote, List.head?_cons])
          obtain ⟨more, rfl⟩ := List.head?_eq_some_iff.mp hhead
          exact .inl (List.prefix_append ['\\', '"'] more)
        · exact .inr (ih h)
      · have hslash : '\\' ∉ d :: letters := fun hmem => (hletters _ hmem).2.2 rfl
        rw [hc, slash_quote_infix_append_iff hslash] at h
        exact .inr (ih h)

theorem isPlain_reread (text : List Char) : IsPlain (reread text) :=
  ⟨fun _ hc => isRareControl_mem_reread hc,
    fun h => slash_quote_not_infix_dropSlashes text (slash_quote_infix_of_flatMap_rereadChar h)⟩

/-! ### What is read from a plain argument -/

theorem survives_of_ofArgument_eq_css {argument : List Char} (hplain : IsPlain argument)
    {path : String} (h : ofArgument argument = css path) : (css path).Survives := by
  obtain ⟨rfl, hkind⟩ := (ofArgument_eq_css_iff argument path).mp h
  exact ⟨hplain, hkind⟩

theorem survives_ofArgument_attributeSelector {name : List Char} {make : String → Locator}
    (h : (name, make) ∈ attributeKinds) {value : List Char}
    (hplain : IsPlain (attributeSelector name value)) :
    (ofArgument (attributeSelector name value)).Survives := by
  have hname : name ∈ attributeNames := (mem_attributeNames_of_kind h).1
  have hread := ofArgument_attributeSelector h value
  split_ifs at hread with hfeed
  · rw [hread]
    exact survives_of_ofArgument_eq_css hplain hread
  · have hvalue : SurvivesInSelector value :=
      ⟨hfeed, (isPlain_attributeSelector_iff hname value).mp hplain⟩
    rw [hread]
    simp only [attributeKinds, List.mem_cons, List.not_mem_nil, or_false, Prod.mk.injEq] at h
    rcases h with ⟨-, rfl⟩ | ⟨-, rfl⟩ | ⟨-, rfl⟩
    · simpa [Survives] using hvalue
    · simpa [Survives] using hvalue
    · by_cases hsimple : isSimpleId value = true
      · exact .inl (by simpa using ⟨hsimple, hvalue.2.1.1⟩)
      · exact .inr (by simpa using ⟨eq_false_of_ne_true hsimple, hvalue⟩)

theorem survives_ofArgument_name {value : List Char}
    (hplain : IsPlain (attributeSelector "name".toList value)) :
    (ofArgument (attributeSelector "name".toList value)).Survives := by
  have hread := ofArgument_name value
  split_ifs at hread with hvalue
  · obtain ⟨hne, hchars⟩ := isNameValue_iff.mp hvalue
    obtain ⟨⟨hrare, -⟩, hlast⟩ := (isPlain_attributeSelector_iff (by decide) value).mp hplain
    rw [hread, Survives, String.toList_ofList]
    exact ⟨hne, hchars, hrare, hlast⟩
  · rw [hread]
    exact survives_of_ofArgument_eq_css hplain hread

theorem survives_ofArgument_simpleId {value : List Char} (hplain : IsPlain ('#' :: value)) :
    (ofArgument ('#' :: value)).Survives := by
  have hread := ofArgument_simpleId value
  split_ifs at hread with hsimple
  · have hrare : ∀ c ∈ value, isRareControl c = false :=
      fun c hc => hplain.1 c (List.mem_cons_of_mem _ hc)
    rw [hread, Survives, String.toList_ofList]
    exact .inl ⟨hsimple, hrare⟩
  · rw [hread]
    exact survives_of_ofArgument_eq_css hplain hread

/-! ### One reload -/

/-- The locators that are read from expressions: a role is there and holds no quote. -/
def IsRead : Locator → Prop
  | role r _ => r.toList ≠ [] ∧ ∀ c ∈ r.toList, isQuote c = false
  | unrecognized _ => False
  | _ => True

theorem isRead_ofArgument (argument : List Char) : (ofArgument argument).IsRead := by
  rcases ofArgument_cases argument with ⟨path, hread⟩ | ⟨name, make, value, hkind, -, hread⟩ |
    ⟨value, -, hread⟩ | ⟨value, -, hread⟩ | hread
  · rw [hread]
    trivial
  · simp only [attributeKinds, List.mem_cons, List.not_mem_nil, or_false, Prod.mk.injEq] at hkind
    rcases hkind with ⟨-, rfl⟩ | ⟨-, rfl⟩ | ⟨-, rfl⟩ <;> rw [hread] <;> trivial
  · rw [hread]
    trivial
  · rw [hread]
    trivial
  · rw [hread]
    trivial

theorem isRead_of_parse? {expression : String} {l : Locator} (h : parse? expression = some l) :
    l.IsRead := by
  rcases parse?_cases h with rfl | ⟨v, rfl | rfl | rfl | rfl⟩ | ⟨r, n, rfl, hrole⟩ |
    ⟨argument, rfl⟩
  · trivial
  · trivial
  · trivial
  · trivial
  · trivial
  · exact hrole
  · exact isRead_ofArgument argument

theorem reloaded_eq_of_parse? {l read : Locator} (h : parse? l.expression = some read) :
    l.reloaded = read := by
  rw [reloaded, ofExpression, h, Option.getD_some]

theorem reloaded_of_argument {l : Locator} {argument : List Char}
    (h : l.expressionChars = call "locator".toList argument) :
    l.reloaded = ofArgument (reread argument) :=
  ofExpression_locator h

theorem survives_iff_reloaded_eq_self {l : Locator} : l.Survives ↔ l.reloaded = l :=
  (ofExpression_expression_iff l).symm

theorem Survives.reloaded {l : Locator} (h : l.Survives) : l.reloaded.Survives := by
  rwa [survives_iff_reloaded_eq_self.mp h]

-- Kept closed, or the goals below are run on texts that are not known.
attribute [local irreducible] reloaded

theorem survives_reloaded_attribute {name : List Char} {make : String → Locator}
    (h : (name, make) ∈ attributeKinds) {l : Locator} {value : List Char}
    (hl : l.expressionChars = call "locator".toList (attributeSelector name value)) :
    l.reloaded.Survives := by
  obtain ⟨left, hleft⟩ := exists_reread_attributeSelector (mem_attributeNames_of_kind h).1 value
  have hplain : IsPlain (attributeSelector name left) := hleft ▸ isPlain_reread _
  rw [reloaded_of_argument hl, hleft]
  exact survives_ofArgument_attributeSelector h hplain

theorem survives_reloaded_role {r : String} (n : String) (hne : r.toList ≠ [])
    (hquote : ∀ c ∈ r.toList, isQuote c = false) : (role r n).reloaded.Survives := by
  have hparse := parse?_role_of_no_quote n hne hquote
  obtain ⟨hne', hquote'⟩ := isRead_of_parse? hparse
  rw [reloaded_eq_of_parse? hparse, Survives]
  refine ⟨⟨hne', hquote', ?_⟩, ?_⟩
  · simpa using (isPlain_reread r.toList).1
  · simpa using isPlain_reread n.toList

theorem expressionChars_id (v : String) :
    expressionChars (id v) = call "locator".toList
      (if isSimpleId v.toList then '#' :: v.toList else attributeSelector "id".toList v.toList) :=
  rfl

theorem survives_reloaded_id (v : String) : (id v).reloaded.Survives := by
  have hexpression := expressionChars_id v
  by_cases hsimple : isSimpleId v.toList = true
  · have hhash : reread ('#' :: v.toList) = '#' :: reread v.toList :=
      @reread_append ['#'] (by decide) (by decide) v.toList
    have hplain : IsPlain ('#' :: reread v.toList) := hhash ▸ isPlain_reread _
    rw [if_pos hsimple] at hexpression
    rw [reloaded_of_argument hexpression, hhash]
    exact survives_ofArgument_simpleId hplain
  · rw [if_neg hsimple] at hexpression
    exact survives_reloaded_attribute (.tail _ (.tail _ (.head _))) hexpression

theorem survives_reloaded_name (v : String) : (name v).reloaded.Survives := by
  have hname : "name".toList ∈ attributeNames := by decide
  obtain ⟨left, hleft⟩ := exists_reread_attributeSelector hname v.toList
  have hplain : IsPlain (attributeSelector "name".toList left) := hleft ▸ isPlain_reread _
  rw [reloaded_of_argument rfl, hleft]
  exact survives_ofArgument_name hplain

theorem survives_reloaded_xpath (v : String) : (xpath v).reloaded.Survives := by
  have hread : reread ("xpath=".toList ++ v.toList) = "xpath=".toList ++ reread v.toList :=
    reread_append (by decide) (by decide) v.toList
  rw [reloaded_of_argument rfl, hread, ofArgument_xpath, Survives, String.toList_ofList]
  exact isPlain_reread _

/-- After one reload nothing changes any more, unless the locator is a path. -/
theorem survives_reloaded {l : Locator} (hread : l.IsRead) (hpath : ∀ path, l ≠ css path) :
    l.reloaded.Survives := by
  have hvalue : ∀ {make : String → Locator} {v : String},
      parse? (make v).expression = some (make (String.ofList (reread v.toList))) →
      (∀ w, (make w).Survives ↔ IsPlain w.toList) → (make v).reloaded.Survives := by
    intro make v hparse hsurvives
    rw [reloaded_eq_of_parse? hparse, hsurvives, String.toList_ofList]
    exact isPlain_reread _
  cases l with
  | page => exact Survives.reloaded (l := page) trivial
  | testId v => exact hvalue (parse?_testId v) fun _ => .rfl
  | dataTest v => exact survives_reloaded_attribute (.head _) rfl
  | dataCy v => exact survives_reloaded_attribute (.tail _ (.head _)) rfl
  | role r n => exact survives_reloaded_role n hread.1 hread.2
  | label v => exact hvalue (parse?_label v) fun _ => .rfl
  | placeholder v => exact hvalue (parse?_placeholder v) fun _ => .rfl
  | id v => exact survives_reloaded_id v
  | name v => exact survives_reloaded_name v
  | text v => exact hvalue (parse?_text v) fun _ => .rfl
  | css path => exact absurd rfl (hpath path)
  | xpath v => exact survives_reloaded_xpath v
  | unrecognized t => exact hread.elim

/-! ### Two reloads -/

theorem survives_reloaded_reloaded {l : Locator} (hread : l.IsRead) :
    l.reloaded.reloaded.Survives := by
  by_cases hpath : ∃ path, l = css path
  · obtain ⟨path, rfl⟩ := hpath
    have hargument : (css path).reloaded = ofArgument (reread path.toList) :=
      reloaded_of_argument rfl
    by_cases hagain : ∃ left, ofArgument (reread path.toList) = css left
    · obtain ⟨left, hleft⟩ := hagain
      apply Survives.reloaded
      rw [hargument, hleft]
      exact survives_of_ofArgument_eq_css (isPlain_reread _) hleft
    · rw [hargument]
      exact survives_reloaded (isRead_ofArgument _) (not_exists.mp hagain)
  · exact (survives_reloaded hread (not_exists.mp hpath)).reloaded

theorem survives_ofExpression_reloaded_reloaded (expression : String) :
    (ofExpression expression).reloaded.reloaded.Survives := by
  cases hparse : parse? expression with
  | none =>
      have hself : (unrecognized expression).reloaded = unrecognized expression :=
        survives_iff_reloaded_eq_self.mp hparse
      rw [ofExpression, hparse, Option.getD_none, hself, hself]
      exact hparse
  | some l =>
      rw [ofExpression, hparse, Option.getD_some]
      exact survives_reloaded_reloaded (isRead_of_parse? hparse)

/-- Whatever text a locator is read from, storing and reading it twice more settles it: no further
round changes it. One round may not do. -/
theorem reload_settles :
    (∀ (expression : String) (rounds : Nat),
      reloaded^[rounds + 2] (ofExpression expression) =
        (ofExpression expression).reloaded.reloaded) ∧
    ∃ expression : String,
      (ofExpression expression).reloaded.reloaded ≠ (ofExpression expression).reloaded := by
  refine ⟨?_, "locator(\"[name=\\\\\"x\\\\]\")", by decide +kernel⟩
  intro expression rounds
  have hsettled : (ofExpression expression).reloaded.reloaded.reloaded =
      (ofExpression expression).reloaded.reloaded :=
    survives_iff_reloaded_eq_self.mp (survives_ofExpression_reloaded_reloaded expression)
  rw [Function.iterate_add_apply]
  exact Function.iterate_fixed hsettled rounds

end BrowserFlow.Locator
