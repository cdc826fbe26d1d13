import BrowserFlow.Proofs.Locator.Distinct

/-!
# How expressions begin

Locators of different kinds are written differently, apart from paths: a path may be written as an
attribute, an id or an XPath is. What they are read back as is told apart in the same way.
-/

namespace BrowserFlow.Locator

/-! ### Kinds are told by how expressions begin -/

/-- A call with a quoted argument, up to the first characters of the argument. -/
def opening (function lead : String) : List Char := function.toList ++ '(' :: '"' :: lead.toList

/-- How the expressions of a kind begin, as far as the kind alone decides. -/
def openings : List (String × List Char) :=
  [("testId", opening "getByTestId" ""), ("dataTest", opening "locator" "[data-test="),
    ("dataCy", opening "locator" "[data-cy="), ("role", opening "getByRole" ""),
    ("label", opening "getByLabel" ""), ("placeholder", opening "getByPlaceholder" ""),
    ("id", opening "locator" "#"), ("id", opening "locator" "[id="),
    ("name", opening "locator" "[name="), ("text", opening "getByText" ""),
    ("xpath", opening "locator" "xpath=")]

theorem openings_apart : ∀ entry ∈ openings, ∀ other ∈ openings,
    entry.2 <+: other.2 → entry.1 = other.1 := by
  decide

/-- The locator is written as those of a kind are. -/
def OpensAs (l : Locator) (kind : String) : Prop :=
  ∃ start, (kind, start) ∈ openings ∧ start <+: l.expressionChars

def HasOpening (l : Locator) : Prop :=
  ∃ start, (l.kind, start) ∈ openings ∧ start <+: l.expressionChars

theorem opening_prefix_call {function lead : String} {argument : List Char}
    (hlead : lead.toList.flatMap Json.escapeChar = lead.toList) (h : lead.toList <+: argument) :
    opening function lead <+: call function.toList argument := by
  obtain ⟨rest, rfl⟩ := h
  refine ⟨rest.flatMap Json.escapeChar ++ ['"', ')'], ?_⟩
  simp [opening, call, Json.quoteChars, hlead]

theorem opensAs_of_call? {l : Locator} {function : String} {argument : List Char}
    (kind lead : String) (hcall : l.call? = some (function, argument))
    (hlead : lead.toList.flatMap Json.escapeChar = lead.toList) (h : lead.toList <+: argument)
    (hmem : (kind, opening function lead) ∈ openings) : l.OpensAs kind :=
  ⟨_, hmem, expressionChars_of_call? hcall ▸ opening_prefix_call hlead h⟩

theorem hasOpening_of_call? {l : Locator} {function : String} {argument : List Char}
    (name lead : String) (hkind : l.kind = name) (hcall : l.call? = some (function, argument))
    (hlead : lead.toList.flatMap Json.escapeChar = lead.toList) (h : lead.toList <+: argument)
    (hmem : (name, opening function lead) ∈ openings) : l.HasOpening :=
  opensAs_of_call? l.kind lead hcall hlead h (hkind ▸ hmem)

theorem hasOpening (l : Locator) (h : l.kind ∉ ["page", "css", "unrecognized"]) :
    l.HasOpening := by
  cases l with
  | page | css _ | unrecognized _ => simp [kind] at h
  | testId v => exact hasOpening_of_call? "testId" "" rfl rfl rfl List.nil_prefix (by decide)
  | label v => exact hasOpening_of_call? "label" "" rfl rfl rfl List.nil_prefix (by decide)
  | placeholder v =>
      exact hasOpening_of_call? "placeholder" "" rfl rfl rfl List.nil_prefix (by decide)
  | text v => exact hasOpening_of_call? "text" "" rfl rfl rfl List.nil_prefix (by decide)
  | dataTest v =>
      exact hasOpening_of_call? "dataTest" "[data-test=" rfl rfl (by decide) ⟨_, rfl⟩ (by decide)
  | dataCy v =>
      exact hasOpening_of_call? "dataCy" "[data-cy=" rfl rfl (by decide) ⟨_, rfl⟩ (by decide)
  | name v => exact hasOpening_of_call? "name" "[name=" rfl rfl (by decide) ⟨_, rfl⟩ (by decide)
  | xpath v => exact hasOpening_of_call? "xpath" "xpath=" rfl rfl (by decide) ⟨_, rfl⟩ (by decide)
  | id v =>
      by_cases hsimple : isSimpleId v.toList
      · refine hasOpening_of_call? "id" "#" rfl rfl (by decide) ?_ (by decide)
        rw [if_pos hsimple]
        exact ⟨_, rfl⟩
      · refine hasOpening_of_call? "id" "[id=" rfl rfl (by decide) ?_ (by decide)
        rw [if_neg hsimple]
        exact ⟨_, rfl⟩
  | role r n =>
      refine ⟨opening "getByRole" "", (by decide : ("role", opening "getByRole" "") ∈ openings), ?_⟩
      exact ⟨_, rfl⟩

theorem opensAs_of_kind {l : Locator} {kind : String} (hl : l.kind = kind)
    (h : kind ∉ ["page", "css", "unrecognized"]) : l.OpensAs kind := by
  subst hl
  exact hasOpening l h

theorem kind_eq_of_opensAs {l m : Locator} {kind other : String} (hl : l.OpensAs kind)
    (hm : m.OpensAs other) (h : l.expression = m.expression) : kind = other := by
  obtain ⟨start, hstart, hl⟩ := hl
  obtain ⟨start', hstart', hm⟩ := hm
  rw [← String.ofList_inj.mp h] at hm
  rcases List.prefix_or_prefix_of_prefix hl hm with hle | hle
  · exact openings_apart (kind, start) hstart (other, start') hstart' hle
  · exact (openings_apart (other, start') hstart' (kind, start) hstart hle).symm

/-- Locators of different kinds stay apart when each is stored as something written as its kind. -/
theorem pairwise_expression_ne {locators : List Locator} {stored : Locator → Locator}
    (hkinds : (locators.map kind).Nodup) (h : ∀ l ∈ locators, (stored l).OpensAs l.kind) :
    locators.Pairwise fun l m => (stored l).expression ≠ (stored m).expression := by
  rw [List.Nodup, List.pairwise_map] at hkinds
  exact hkinds.imp_of_mem fun hl hm hne heq => hne (kind_eq_of_opensAs (h _ hl) (h _ hm) heq)

theorem kind_eq_of_expression_eq {l m : Locator} (hl : l.HasOpening) (hm : m.HasOpening)
    (h : l.expression = m.expression) : l.kind = m.kind :=
  kind_eq_of_opensAs hl hm h

/-- The kinds whose locators are selectors of an attribute or an id. -/
def selectorKinds : List String := ["dataTest", "dataCy", "id", "name"]

/-! ### Paths -/

theorem ofPath_cases (path : String) :
    ofPath path = css path ∨
      ∃ value, path.toList = '#' :: value ∧ ofPath path = id (String.ofList value) := by
  by_cases h : ∃ value, path.toList = '#' :: value ∧ isSimpleId value
  · obtain ⟨value, hpath, hsimple⟩ := h
    exact .inr ⟨value, hpath, by rw [ofPath, hpath, ofPathChars, if_pos hsimple]⟩
  · exact .inl ((ofPathChars_eq_css_iff path.toList path).mpr ⟨rfl, h⟩)

theorem opening_locator_prefix_of_call? {l : Locator} {argument : List Char}
    (h : l.call? = some ("locator", argument)) : opening "locator" "" <+: l.expressionChars :=
  expressionChars_of_call? h ▸ opening_prefix_call rfl List.nil_prefix

theorem exists_call?_ofPath (path : String) :
    ∃ argument, (ofPath path).call? = some ("locator", argument) := by
  rcases ofPath_cases path with hcss | ⟨value, -, hid⟩
  · exact ⟨path.toList, by rw [hcss, call?]⟩
  · exact ⟨_, by rw [hid, call?]⟩

/-- Of the other kinds only selectors and XPaths can be written as an argument of `locator`. -/
theorem kind_mem_of_opening_locator {l m : Locator} {kind : String} (hl : l.OpensAs kind)
    (hm : opening "locator" "" <+: m.expressionChars) (h : l.expression = m.expression) :
    kind ∈ selectorKinds ++ ["xpath"] := by
  have hkinds : ∀ entry ∈ openings,
      entry.2 <+: opening "locator" "" ∨ opening "locator" "" <+: entry.2 →
        entry.1 ∈ selectorKinds ++ ["xpath"] := by
    decide
  obtain ⟨start, hstart, hl⟩ := hl
  rw [String.ofList_inj.mp h] at hl
  exact hkinds (kind, start) hstart (List.prefix_or_prefix_of_prefix hl hm)

theorem kind_of_expression_eq_ofPath {l : Locator} (hl : l.HasOpening) {path : String}
    (h : l.expression = (ofPath path).expression) : l.kind ∈ selectorKinds ++ ["xpath"] := by
  obtain ⟨argument, hcall⟩ := exists_call?_ofPath path
  exact kind_mem_of_opening_locator hl (opening_locator_prefix_of_call? hcall) h

theorem expression_xpath_eq_ofPath_iff (path xpath : String) :
    (Locator.xpath xpath).expression = (ofPath path).expression ↔ path = "xpath=" ++ xpath := by
  rcases ofPath_cases path with hcss | ⟨value, hpath, hid⟩
  · have hleft : (Locator.xpath xpath).expressionChars =
        call "locator".toList ("xpath=" ++ xpath).toList := by
      rw [String.toList_append]
      rfl
    have hright : (css path).expressionChars = call "locator".toList path.toList := rfl
    rw [hcss, expression, expression, String.ofList_inj, hleft, hright,
      (call_injective "locator".toList).eq_iff, String.toList_inj]
    exact eq_comm
  · rw [hid]
    refine iff_of_false (fun h => ?_) (fun h => ?_)
    · have hkind := kind_eq_of_expression_eq (hasOpening (.xpath xpath) (by simp [kind]))
        (hasOpening (.id (String.ofList value)) (by simp [kind])) h
      exact absurd hkind (by simp [kind])
    · rw [h, String.toList_append] at hpath
      exact absurd (List.cons.inj hpath).1 (by decide)

/-! ### After a reload -/

/-- Locators that are read back are equal when they are written alike. -/
theorem reloaded_inj_iff (l m : Locator) :
    l.reloaded.expression = m.reloaded.expression ↔ l.reloaded = m.reloaded :=
  (ofExpression_inj_iff l.expression m.expression).symm

/-- What is read from an argument is written as a kind is, when it is of that kind or is a path that
begins as the kind does. -/
theorem opensAs_ofArgument {argument : List Char} (kind lead : String)
    (hread : ofArgument argument = css (String.ofList argument) ∨ (ofArgument argument).kind = kind)
    (hkind : kind ∉ ["page", "css", "unrecognized"])
    (hlead : lead.toList.flatMap Json.escapeChar = lead.toList) (h : lead.toList <+: argument)
    (hmem : (kind, opening "locator" lead) ∈ openings) : (ofArgument argument).OpensAs kind := by
  rcases hread with hread | hread
  · have hcall : (css (String.ofList argument)).call? = some ("locator", argument) := by
      rw [call?, @String.toList_ofList argument]
    rw [hread]
    exact opensAs_of_call? kind lead hcall hlead h hmem
  · exact opensAs_of_kind hread hkind

-- Kept closed, or the goals below are run on texts that are not known.
attribute [local irreducible] reloaded

theorem opensAs_reloaded_attribute {l : Locator} {name value : List Char} (kind lead : String)
    (hname : name ∈ attributeNames)
    (hl : l.expressionChars = call "locator".toList (attributeSelector name value))
    (hread : ∀ left, ofArgument (attributeSelector name left) =
        css (String.ofList (attributeSelector name left)) ∨
      (ofArgument (attributeSelector name left)).kind = kind)
    (hkind : kind ∉ ["page", "css", "unrecognized"])
    (hlead : lead.toList.flatMap Json.escapeChar = lead.toList)
    (h : ∀ left, lead.toList <+: attributeSelector name left)
    (hmem : (kind, opening "locator" lead) ∈ openings) : l.reloaded.OpensAs kind := by
  obtain ⟨left, hleft⟩ := exists_reread_attributeSelector hname value
  rw [reloaded_of_argument hl, hleft]
  exact opensAs_ofArgument kind lead (hread left) hkind hlead (h left) hmem

theorem kind_ofArgument_attributeSelector {name : List Char} {make : String → Locator}
    {kind : String} (h : (name, make) ∈ attributeKinds) (hmake : ∀ v, (make v).kind = kind)
    (value : List Char) :
    ofArgument (attributeSelector name value) = css (String.ofList (attributeSelector name value)) ∨
      (ofArgument (attributeSelector name value)).kind = kind := by
  rw [ofArgument_attributeSelector h]
  split
  · exact .inl rfl
  · exact .inr (hmake _)

theorem opensAs_reloaded_id (v : String) : (id v).reloaded.OpensAs "id" := by
  have hexpression := expressionChars_id v
  by_cases hsimple : isSimpleId v.toList = true
  · have hhash : reread ('#' :: v.toList) = '#' :: reread v.toList :=
      @reread_append ['#'] (by decide) (by decide) v.toList
    have hread : ofArgument ('#' :: reread v.toList) =
          css (String.ofList ('#' :: reread v.toList)) ∨
        (ofArgument ('#' :: reread v.toList)).kind = "id" := by
      rw [ofArgument_simpleId]
      split
      · exact .inr rfl
      · exact .inl rfl
    rw [if_pos hsimple] at hexpression
    rw [reloaded_of_argument hexpression, hhash]
    exact opensAs_ofArgument "id" "#" hread (by decide) (by decide) ⟨_, rfl⟩ (by decide)
  · rw [if_neg hsimple] at hexpression
    exact opensAs_reloaded_attribute "id" "[id=" (by decide) hexpression
      (kind_ofArgument_attributeSelector (.tail _ (.tail _ (.head _))) fun _ => rfl)
      (by decide) (by decide) (fun _ => ⟨_, rfl⟩) (by decide)

/-- A role that cannot be read keeps its expression. -/
theorem opensAs_reloaded_role (r n : String) : (role r n).reloaded.OpensAs "role" := by
  cases hparse : parse? (role r n).expression with
  | none =>
      have hself : (role r n).reloaded = unrecognized (role r n).expression := by
        rw [reloaded, ofExpression, hparse, Option.getD_none]
      obtain ⟨start, hstart, hprefix⟩ : (role r n).OpensAs "role" := opensAs_of_kind rfl (by decide)
      have htext : (unrecognized (role r n).expression).expressionChars =
          (role r n).expressionChars := String.toList_ofList
      refine ⟨start, hstart, ?_⟩
      rwa [hself, htext]
  | some l =>
      have hcall := hparse
      rw [parse?_role] at hcall
      obtain ⟨r', n', rfl, -⟩ := role_of_roleCall? hcall
      rw [reloaded_eq_of_parse? hparse]
      exact opensAs_of_kind rfl (by decide)

/-- Apart from paths, what a locator is read back as is written as those of its kind are. -/
theorem opensAs_reloaded (l : Locator) (h : l.kind ∉ ["page", "css", "unrecognized"]) :
    l.reloaded.OpensAs l.kind := by
  have hvalue : ∀ {m : Locator}, parse? l.expression = some m → m.kind = l.kind →
      l.reloaded.OpensAs l.kind := by
    intro m hparse hkind
    rw [reloaded_eq_of_parse? hparse]
    exact opensAs_of_kind hkind h
  cases l with
  | page | css _ | unrecognized _ => simp [kind] at h
  | testId v => exact hvalue (parse?_testId v) rfl
  | label v => exact hvalue (parse?_label v) rfl
  | placeholder v => exact hvalue (parse?_placeholder v) rfl
  | text v => exact hvalue (parse?_text v) rfl
  | role r n => exact opensAs_reloaded_role r n
  | id v => exact opensAs_reloaded_id v
  | dataTest v =>
      exact opensAs_reloaded_attribute "dataTest" "[data-test=" (by decide) rfl
        (kind_ofArgument_attributeSelector (.head _) fun _ => rfl)
        (by decide) (by decide) (fun _ => ⟨_, rfl⟩) (by decide)
  | dataCy v =>
      exact opensAs_reloaded_attribute "dataCy" "[data-cy=" (by decide) rfl
        (kind_ofArgument_attributeSelector (.tail _ (.head _)) fun _ => rfl)
        (by decide) (by decide) (fun _ => ⟨_, rfl⟩) (by decide)
  | name v =>
      refine opensAs_reloaded_attribute "name" "[name=" (by decide) rfl (fun left => ?_)
        (by decide) (by decide) (fun _ => ⟨_, rfl⟩) (by decide)
      rw [ofArgument_name]
      split
      · exact .inr rfl
      · exact .inl rfl
  | xpath v =>
      have hread : reread ("xpath=".toList ++ v.toList) = "xpath=".toList ++ reread v.toList :=
        reread_append (by decide) (by decide) v.toList
      rw [reloaded_of_argument rfl, hread, ofArgument_xpath]
      exact opensAs_of_kind rfl h

/-- What a path is read back as is still an argument of one function. -/
theorem opening_locator_prefix_reloaded_ofPath (path : String) :
    opening "locator" "" <+: (ofPath path).reloaded.expressionChars := by
  obtain ⟨argument, hcall⟩ := exists_call?_ofPath path
  obtain ⟨stored, hstored, -⟩ := exists_call?_ofArgument (reread argument)
  rw [reloaded_of_argument (expressionChars_of_call? hcall)]
  exact opening_locator_prefix_of_call? hstored

end BrowserFlow.Locator
