import BrowserFlow.Proofs.Locator.Selector

/-!
# Which locators survive being stored

Whether a locator comes back from its expression can be told by its texts alone.
-/

namespace BrowserFlow.Locator

/-! ### What is never read -/

theorem ofArgument_ne_unrecognized (argument : List Char) (t : String) :
    ofArgument argument ≠ unrecognized t := by
  rcases ofArgument_cases argument with ⟨path, hread⟩ | ⟨name, make, value, hkind, -, hread⟩ |
    ⟨value, -, hread⟩ | ⟨value, -, hread⟩ | hread
  · simp [hread]
  · simp only [attributeKinds, List.mem_cons, List.not_mem_nil, or_false, Prod.mk.injEq] at hkind
    rcases hkind with ⟨-, rfl⟩ | ⟨-, rfl⟩ | ⟨-, rfl⟩ <;> simp [hread]
  · simp [hread]
  · simp [hread]
  · simp [hread]

/-- What is read from an expression is a locator of some kind. -/
theorem parse?_ne_unrecognized (expression t : String) :
    parse? expression ≠ some (unrecognized t) := by
  intro h
  rcases parse?_cases h with hread | ⟨v, hread⟩ | ⟨r, n, hread, -⟩ | ⟨argument, hread⟩
  · cases hread
  · simp at hread
  · cases hread
  · exact ofArgument_ne_unrecognized argument t hread.symm

theorem ofExpression_eq_iff {expression : String} {l : Locator} (h : ∀ t, l ≠ unrecognized t) :
    ofExpression expression = l ↔ parse? expression = some l := by
  rw [ofExpression]
  cases parse? expression with
  | none => simpa using (h expression).symm
  | some other => simp

theorem ofExpression_unrecognized_iff (t : String) :
    ofExpression t = unrecognized t ↔ parse? t = none := by
  rw [ofExpression]
  cases hread : parse? t with
  | none => simp
  | some l =>
      rw [Option.getD_some]
      constructor
      · rintro rfl
        exact absurd hread (parse?_ne_unrecognized t t)
      · intro hnone
        cases hnone

/-! ### What comes back -/

/-- The texts of a locator are such that it comes back from its expression. -/
def Survives : Locator → Prop
  | page => True
  | testId v | label v | placeholder v | text v | xpath v => IsPlain v.toList
  | dataTest v | dataCy v => SurvivesInSelector v.toList
  | role r n =>
    (r.toList ≠ [] ∧ (∀ c ∈ r.toList, isQuote c = false) ∧
      ∀ c ∈ r.toList, isRareControl c = false) ∧ IsPlain n.toList
  | id v =>
    (isSimpleId v.toList = true ∧ ∀ c ∈ v.toList, isRareControl c = false) ∨
      (isSimpleId v.toList = false ∧ SurvivesInSelector v.toList)
  | name v =>
    v.toList ≠ [] ∧ (∀ c ∈ v.toList, isNameChar c = true) ∧
      (∀ c ∈ v.toList, isRareControl c = false) ∧ v.toList.getLast? ≠ some '\\'
  | css v => IsPlain v.toList ∧ ¬HasKind v.toList
  | unrecognized t => parse? t = none

theorem ofExpression_of_reread {make : String → Locator} (hinj : Function.Injective make)
    (hread : ∀ v, parse? (make v).expression = some (make (String.ofList (reread v.toList))))
    (v : String) : ofExpression (make v).expression = make v ↔ IsPlain v.toList := by
  rw [ofExpression, hread, Option.getD_some, hinj.eq_iff, ofList_reread_eq_iff]

theorem ofExpression_expression_iff (l : Locator) : ofExpression l.expression = l ↔ l.Survives := by
  cases l with
  | page => exact iff_of_true rfl trivial
  | testId v => exact ofExpression_of_reread (fun _ _ => testId.inj) parse?_testId v
  | dataTest v => exact ofExpression_dataTest_iff v
  | dataCy v => exact ofExpression_dataCy_iff v
  | role r n =>
      rw [ofExpression_eq_iff fun _ => by simp]
      exact parse?_role_eq_self_iff r n
  | label v => exact ofExpression_of_reread (fun _ _ => label.inj) parse?_label v
  | placeholder v =>
      exact ofExpression_of_reread (fun _ _ => placeholder.inj) parse?_placeholder v
  | id v => exact ofExpression_id_iff v
  | name v => exact ofExpression_name_iff v
  | text v => exact ofExpression_of_reread (fun _ _ => text.inj) parse?_text v
  | css v => exact ofExpression_css_iff v
  | xpath v => exact ofExpression_xpath_iff v
  | unrecognized t =>
      have hstored : (unrecognized t).expression = t := String.ofList_toList
      rw [hstored]
      exact ofExpression_unrecognized_iff t

end BrowserFlow.Locator
