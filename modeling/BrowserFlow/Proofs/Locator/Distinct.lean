import BrowserFlow.Proofs.Locator.Settling
import Mathlib.Logic.Function.Basic

/-!
# Expressions tell read locators apart

Two locators may be written alike, as a name and the path that selects it are. Of such locators at
most one is ever read: what is read from an argument of `locator` is also read from the argument
that it is stored as, so the argument decides. The other kinds differ in the function they call.
-/

namespace BrowserFlow.Locator

/-! ### Calls and their arguments -/

theorem call_injective (function : List Char) : Function.Injective (call function) := by
  intro first second h
  have hcall : function ++ '(' :: (Json.quoteChars first ++ [')']) =
      function ++ '(' :: (Json.quoteChars second ++ [')']) := by
    simpa [call] using h
  have hquoted : Json.quoteChars first ++ [')'] = Json.quoteChars second ++ [')'] :=
    (List.cons.inj (List.append_cancel_left hcall)).2
  exact (Json.quoteChars_append_inj hquoted).1

theorem expressionChars_role_inj {r n r' n' : String}
    (h : expressionChars (role r n) = expressionChars (role r' n')) : r = r' ∧ n = n' := by
  rw [expressionChars_role, expressionChars_role] at h
  simp only [List.append_assoc] at h
  obtain ⟨hrole, hrest⟩ := Json.quoteChars_append_inj (List.append_cancel_left h)
  obtain ⟨hname, -⟩ := Json.quoteChars_append_inj (List.append_cancel_left hrest)
  exact ⟨String.toList_inj.mp hrole, String.toList_inj.mp hname⟩

/-- The function that an expression calls with one argument, and the argument. -/
def call? : Locator → Option (String × List Char)
  | testId v => some ("getByTestId", v.toList)
  | label v => some ("getByLabel", v.toList)
  | placeholder v => some ("getByPlaceholder", v.toList)
  | text v => some ("getByText", v.toList)
  | dataTest v => some ("locator", attributeSelector "data-test".toList v.toList)
  | dataCy v => some ("locator", attributeSelector "data-cy".toList v.toList)
  | id v =>
    some ("locator",
      if isSimpleId v.toList then '#' :: v.toList else attributeSelector "id".toList v.toList)
  | name v => some ("locator", attributeSelector "name".toList v.toList)
  | css path => some ("locator", path.toList)
  | xpath path => some ("locator", "xpath=".toList ++ path.toList)
  | page | role _ _ | unrecognized _ => none

/-- What such a call stands for when its argument is taken as it is. -/
def ofCall (function : String) (argument : List Char) : Locator :=
  match function with
  | "getByTestId" => testId (String.ofList argument)
  | "getByLabel" => label (String.ofList argument)
  | "getByPlaceholder" => placeholder (String.ofList argument)
  | "getByText" => text (String.ofList argument)
  | _ => ofArgument argument

def functionName (expression : List Char) : List Char := expression.takeWhile (· ≠ '(')

theorem functionName_call {function : List Char} (h : '(' ∉ function) (argument : List Char) :
    functionName (call function argument) = function := by
  have hcall : call function argument = function ++ '(' :: (Json.quoteChars argument ++ [')']) := by
    simp [call]
  have hname : ∀ c ∈ function, decide (c ≠ '(') = true := by
    intro c hc
    simpa using ne_of_mem_of_not_mem hc h
  rw [functionName, hcall, List.takeWhile_append_of_pos hname, List.takeWhile_cons_of_neg (by simp),
    List.append_nil]

section Call

variable {l : Locator} {function : String} {argument : List Char}
  (h : l.call? = some (function, argument))

include h

theorem expressionChars_of_call? : l.expressionChars = call function.toList argument := by
  cases l <;> cases h <;> rfl

theorem functionName_of_call? :
    functionName l.expressionChars = function.toList ∧ function ≠ "page" ∧
      function ≠ "getByRole" := by
  have hfunction : function ∈ ["getByTestId", "getByLabel", "getByPlaceholder", "getByText",
      "locator"] := by
    cases l <;> cases h <;> decide
  have hall : ∀ f ∈ ["getByTestId", "getByLabel", "getByPlaceholder", "getByText", "locator"],
      '(' ∉ f.toList ∧ f ≠ "page" ∧ f ≠ "getByRole" := by
    decide
  obtain ⟨hparen, hpage, hrole⟩ := hall function hfunction
  exact ⟨by rw [expressionChars_of_call? h, functionName_call hparen], hpage, hrole⟩

theorem expressionChars_ne_of_call? {other : Locator}
    (hother : other = page ∨ ∃ r n, other = role r n) :
    l.expressionChars ≠ other.expressionChars := by
  obtain ⟨hname, hpage, hrole⟩ := functionName_of_call? h
  intro heq
  rw [heq] at hname
  rcases hother with rfl | ⟨r, n, rfl⟩
  · exact hpage (String.toList_inj.mp hname.symm)
  · exact hrole (String.toList_inj.mp hname.symm)

end Call

/-! ### Locators that have been read -/

/-- What is read from an argument is stored as an argument, and is read from that one too. -/
theorem exists_call?_ofArgument (argument : List Char) :
    ∃ stored, (ofArgument argument).call? = some ("locator", stored) ∧
      ofArgument stored = ofArgument argument := by
  rcases ofArgument_cases argument with ⟨path, hread⟩ | ⟨name, make, value, hkind, hfeed, hread⟩ |
    ⟨value, hvalue, hread⟩ | ⟨value, hsimple, hread⟩ | hread
  · refine ⟨"xpath=".toList ++ path, ?_, ?_⟩
    · rw [hread, call?, @String.toList_ofList path]
    · rw [hread, ofArgument_xpath]
  · have hselector := ofArgument_attributeSelector hkind value
    rw [if_neg hfeed] at hselector
    simp only [attributeKinds, List.mem_cons, List.not_mem_nil, or_false, Prod.mk.injEq] at hkind
    rcases hkind with ⟨rfl, rfl⟩ | ⟨rfl, rfl⟩ | ⟨rfl, rfl⟩
    · refine ⟨_, ?_, hselector.trans hread.symm⟩
      rw [hread, call?, @String.toList_ofList value]
    · refine ⟨_, ?_, hselector.trans hread.symm⟩
      rw [hread, call?, @String.toList_ofList value]
    · refine ⟨_, by rw [hread, call?, @String.toList_ofList value], ?_⟩
      split_ifs with hsimple
      · rw [ofArgument_simpleId, if_pos hsimple, hread]
      · exact hselector.trans hread.symm
  · refine ⟨attributeSelector "name".toList value, ?_, ?_⟩
    · rw [hread, call?, @String.toList_ofList value]
    · rw [ofArgument_name, if_pos hvalue, hread]
  · refine ⟨'#' :: value, ?_, ?_⟩
    · rw [hread, call?, @String.toList_ofList value, if_pos hsimple]
    · rw [ofArgument_simpleId, if_pos hsimple, hread]
  · refine ⟨argument, ?_, rfl⟩
    rw [hread, call?, @String.toList_ofList argument]

section Read

variable {expression : String} {l : Locator} (h : parse? expression = some l)

include h

/-- A locator that is read is stored as something that can be read, if not as the same locator. -/
theorem isSome_parse?_expression : (parse? l.expression).isSome := by
  rcases parse?_cases h with rfl | ⟨v, rfl | rfl | rfl | rfl⟩ | ⟨r, n, rfl, hne, hquote⟩ |
    ⟨argument, rfl⟩
  · rfl
  · rw [parse?_testId, Option.isSome_some]
  · rw [parse?_label, Option.isSome_some]
  · rw [parse?_placeholder, Option.isSome_some]
  · rw [parse?_text, Option.isSome_some]
  · rw [parse?_role_of_no_quote n hne hquote, Option.isSome_some]
  · obtain ⟨stored, hcall, -⟩ := exists_call?_ofArgument argument
    rw [Locator.expression, expressionChars_of_call? hcall, parse?_locator, Option.isSome_some]

theorem ofCall_of_call? {function : String} {argument : List Char}
    (hcall : l.call? = some (function, argument)) : ofCall function argument = l := by
  rcases parse?_cases h with rfl | ⟨v, rfl | rfl | rfl | rfl⟩ | ⟨r, n, rfl, -⟩ | ⟨read, rfl⟩
  · cases hcall
  · cases hcall
    exact congrArg testId String.ofList_toList
  · cases hcall
    exact congrArg label String.ofList_toList
  · cases hcall
    exact congrArg placeholder String.ofList_toList
  · cases hcall
    exact congrArg Locator.text String.ofList_toList
  · cases hcall
  · obtain ⟨stored, hstored, hread⟩ := exists_call?_ofArgument read
    rw [hstored, Option.some.injEq, Prod.mk.injEq] at hcall
    obtain ⟨rfl, rfl⟩ := hcall
    exact hread

theorem page_or_role_of_call?_eq_none (hcall : l.call? = none) :
    l = page ∨ ∃ r n, l = role r n := by
  rcases parse?_cases h with rfl | ⟨v, rfl | rfl | rfl | rfl⟩ | ⟨r, n, rfl, -⟩ | ⟨read, rfl⟩
  · exact .inl rfl
  · cases hcall
  · cases hcall
  · cases hcall
  · cases hcall
  · exact .inr ⟨r, n, rfl⟩
  · obtain ⟨stored, hstored, -⟩ := exists_call?_ofArgument read
    rw [hstored] at hcall
    cases hcall

end Read

theorem eq_of_expressionChars_eq {first second : String} {l m : Locator}
    (hl : parse? first = some l) (hm : parse? second = some m)
    (h : l.expressionChars = m.expressionChars) : l = m := by
  cases hcall : l.call? with
  | none =>
      have hspecial := page_or_role_of_call?_eq_none hl hcall
      cases hother : m.call? with
      | none =>
          rcases hspecial with rfl | ⟨r, n, rfl⟩
          · rcases page_or_role_of_call?_eq_none hm hother with rfl | ⟨r, n, rfl⟩
            · rfl
            · exact absurd (List.cons.inj h).1 (by decide)
          · rcases page_or_role_of_call?_eq_none hm hother with rfl | ⟨r', n', rfl⟩
            · exact absurd (List.cons.inj h).1 (by decide)
            · obtain ⟨rfl, rfl⟩ := expressionChars_role_inj h
              rfl
      | some call => exact absurd h.symm (expressionChars_ne_of_call? hother hspecial)
  | some call =>
      cases hother : m.call? with
      | none =>
          exact absurd h (expressionChars_ne_of_call? hcall
            (page_or_role_of_call?_eq_none hm hother))
      | some other =>
          obtain ⟨function, argument⟩ := call
          obtain ⟨function', argument'⟩ := other
          have hname : function.toList = function'.toList := by
            rw [← (functionName_of_call? hcall).1, h, (functionName_of_call? hother).1]
          obtain rfl := String.toList_inj.mp hname
          rw [expressionChars_of_call? hcall, expressionChars_of_call? hother] at h
          obtain rfl := call_injective _ h
          rw [← ofCall_of_call? hl hcall, ofCall_of_call? hm hother]

/-! ### All texts -/

theorem expression_unrecognized (t : String) : (unrecognized t).expression = t :=
  String.ofList_toList

theorem isSome_parse?_expression_ofExpression (expression : String) :
    (parse? (ofExpression expression).expression).isSome = (parse? expression).isSome := by
  rw [ofExpression]
  cases hread : parse? expression with
  | none => rw [Option.getD_none, expression_unrecognized, hread]
  | some l => rw [Option.getD_some, isSome_parse?_expression hread, Option.isSome_some]

theorem ofExpression_inj_iff (first second : String) :
    ofExpression first = ofExpression second ↔
      (ofExpression first).expression = (ofExpression second).expression := by
  refine ⟨congrArg expression, fun h => ?_⟩
  have hsome : (parse? first).isSome = (parse? second).isSome := by
    rw [← isSome_parse?_expression_ofExpression, h, isSome_parse?_expression_ofExpression]
  rw [ofExpression, ofExpression] at h ⊢
  cases hfirst : parse? first with
  | none =>
      cases hsecond : parse? second with
      | none =>
          rw [hfirst, hsecond, Option.getD_none, Option.getD_none, expression_unrecognized,
            expression_unrecognized] at h
          rw [h]
      | some m => simp [hfirst, hsecond] at hsome
  | some l =>
      cases hsecond : parse? second with
      | none => simp [hfirst, hsecond] at hsome
      | some m =>
          rw [hfirst, hsecond, Option.getD_some, Option.getD_some] at h
          exact eq_of_expressionChars_eq hfirst hsecond (String.ofList_inj.mp h)

theorem map_ofExpression_inj_iff (first second : List String) :
    first.map ofExpression = second.map ofExpression ↔
      (first.map ofExpression).map expression = (second.map ofExpression).map expression := by
  refine ⟨congrArg (List.map expression), fun h => ?_⟩
  have hfactors : Function.FactorsThrough ofExpression (expression ∘ ofExpression) :=
    fun e e' heq => (ofExpression_inj_iff e e').mpr heq
  obtain ⟨restore, hrestore⟩ := (Function.factorsThrough_iff _).mp hfactors
  rw [List.map_map, List.map_map] at h
  rw [hrestore, ← List.map_map, h, List.map_map]

/-- Not every locator is told by its expression: a path may be written as a name is. -/
example : (css "[name=\"q\"]").expression = (name "q").expression := rfl

end BrowserFlow.Locator

namespace BrowserFlow

/-! ### Bundles -/

namespace Bundle

/-- The comparison of bundles that a script makes, which holds their locators as texts. -/
def sameTexts (left right : Bundle) : Bool :=
  left.primary.expression == right.primary.expression &&
    left.fallbacks.length == right.fallbacks.length &&
    (left.fallbacks.zip right.fallbacks).all fun (l, m) => l.expression == m.expression

theorem sameTexts_iff (left right : Bundle) :
    left.sameTexts right ↔
      left.primary.expression = right.primary.expression ∧
        left.fallbacks.map Locator.expression = right.fallbacks.map Locator.expression := by
  have hlists : ∀ first second : List Locator,
      (first.length == second.length &&
        (first.zip second).all fun (l, m) => l.expression == m.expression) = true ↔
        first.map Locator.expression = second.map Locator.expression := by
    intro first
    induction first with
    | nil =>
        intro second
        cases second <;> simp
    | cons l first ih =>
        intro second
        cases second with
        | nil => simp
        | cons m second =>
            have hrest := ih second
            simp only [Bool.and_eq_true, beq_iff_eq] at hrest
            simp only [List.length_cons, List.zip_cons_cons, List.all_cons, Bool.and_eq_true,
              beq_iff_eq, List.map_cons, List.cons.injEq, Nat.add_right_cancel_iff, ← hrest]
            exact and_left_comm
  rw [sameTexts, Bool.and_assoc, Bool.and_eq_true, beq_iff_eq, hlists]

theorem ofJson_inj_iff (first second : Json.Value) :
    ofJson first = ofJson second ↔
      (ofJson first).primary.expression = (ofJson second).primary.expression ∧
        (ofJson first).fallbacks.map Locator.expression =
          (ofJson second).fallbacks.map Locator.expression := by
  have hfallbacks : ∀ v : Json.Value,
      (ofJson v).fallbacks = (v.field "fallbacks").getStrings.map Locator.ofExpression :=
    fun _ => rfl
  have hprimary : ∀ v : Json.Value,
      (ofJson v).primary = Locator.ofExpression (v.field "primary").getString := fun _ => rfl
  have hparts : ofJson first = ofJson second ↔
      (ofJson first).primary = (ofJson second).primary ∧
        (ofJson first).fallbacks = (ofJson second).fallbacks := by
    rw [Bundle.mk.injEq]
  rw [hparts, hprimary, hprimary, hfallbacks, hfallbacks, Locator.ofExpression_inj_iff,
    Locator.map_ofExpression_inj_iff]

end Bundle

/-- Locators that were read are equal exactly when they are written alike. So the comparison of
bundles that decides which steps are replayed is the one that a script makes on their texts. -/
theorem loaded_equality_is_textual :
    (∀ first second : String,
      Locator.ofExpression first = Locator.ofExpression second ↔
        (Locator.ofExpression first).expression = (Locator.ofExpression second).expression) ∧
    ∀ first second : Json.Value,
      ((Bundle.ofJson first == Bundle.ofJson second) =
        (Bundle.ofJson first).sameTexts (Bundle.ofJson second)) ∧
      (Bundle.ofJson first = Bundle.ofJson second ↔
        (Bundle.ofJson first).primary.expression = (Bundle.ofJson second).primary.expression ∧
          (Bundle.ofJson first).fallbacks.map Locator.expression =
            (Bundle.ofJson second).fallbacks.map Locator.expression) := by
  refine ⟨Locator.ofExpression_inj_iff, fun first second => ?_⟩
  refine ⟨?_, Bundle.ofJson_inj_iff first second⟩
  rw [Bool.eq_iff_iff, beq_iff_eq, Bundle.sameTexts_iff, Bundle.ofJson_inj_iff]

end BrowserFlow
