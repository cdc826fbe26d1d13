import BrowserFlow.Proofs.Locator.Attribute
import BrowserFlow.Proofs.Locator.Reload

/-!
# Reloading the expressions of selectors

Test attributes, ids, names, paths and XPaths are all stored as the argument of one function. Two
layers have to be got through: the quoted argument, and for most kinds an attribute selector with
quotes of its own inside it.
-/

namespace BrowserFlow.Locator

/-! ### Selectors as quoted text -/

theorem dropSlashes_append {lead : List Char} (h : '\\' ∉ lead) (text : List Char) :
    dropSlashes (lead ++ text) = lead ++ dropSlashes text := by
  induction lead with
  | nil => rfl
  | cons c lead ih =>
      rw [List.mem_cons, not_or] at h
      rw [List.cons_append, dropSlashes_cons (Ne.symm h.1), ih h.2]
      rfl

theorem reread_append {lead : List Char} (h : '\\' ∉ lead)
    (hrare : lead.all (!isRareControl ·) = true) (text : List Char) :
    reread (lead ++ text) = lead ++ reread text := by
  have hplain : ∀ c ∈ lead, isRareControl c = false := by
    intro c hc
    simpa using List.all_eq_true.mp hrare c hc
  rw [reread, dropSlashes_append h, List.flatMap_append, flatMap_rereadChar_eq_self hplain]
  rfl

/-- The text before a double quote stays in front of it. -/
theorem exists_dropSlashes_quote (text tail : List Char) :
    ∃ left, dropSlashes (text ++ '"' :: tail) = left ++ '"' :: dropSlashes tail := by
  induction text with
  | nil => exact ⟨[], dropSlashes_cons (by decide) tail⟩
  | cons c text ih =>
      obtain ⟨left, hleft⟩ := ih
      rw [List.cons_append, dropSlashes]
      split
      · exact ⟨left, hleft⟩
      · exact ⟨c :: left, by rw [hleft]; rfl⟩

theorem slash_quote_infix_append_iff {lead : List Char} (h : '\\' ∉ lead) (text : List Char) :
    ['\\', '"'] <:+: lead ++ text ↔ ['\\', '"'] <:+: text := by
  induction lead with
  | nil => rfl
  | cons c lead ih =>
      rw [List.mem_cons, not_or] at h
      rw [List.cons_append, List.infix_cons_iff, ih h.2, or_iff_right]
      rintro ⟨rest, hrest⟩
      rw [List.cons_append, List.cons.injEq] at hrest
      exact h.1 hrest.1

theorem slash_quote_infix_closing_iff (text : List Char) :
    ['\\', '"'] <:+: text ++ ['"', ']'] ↔
      ['\\', '"'] <:+: text ∨ text.getLast? = some '\\' := by
  induction text with
  | nil => decide
  | cons c text ih =>
      rw [List.cons_append, List.infix_cons_iff, List.infix_cons_iff, ih]
      cases text with
      | nil =>
          by_cases hc : c = '\\'
          · simp [hc]
          · simp [List.cons_prefix_cons, hc, Ne.symm hc]
      | cons d text =>
          simp only [List.cons_append, List.cons_prefix_cons, List.nil_prefix, and_true,
            List.getLast?_cons_cons, or_assoc]

def attributeNames : List (List Char) :=
  ["data-test".toList, "data-cy".toList, "id".toList, "name".toList]

section AttributeSelector

variable {name : List Char} (hname : name ∈ attributeNames)

include hname

theorem attributeSelector_lead :
    '\\' ∉ '[' :: name ++ ['=', '"'] ∧
      ('[' :: name ++ ['=', '"']).all (!isRareControl ·) = true := by
  simp only [attributeNames, List.mem_cons, List.not_mem_nil, or_false] at hname
  rcases hname with rfl | rfl | rfl | rfl <;> decide

theorem exists_reread_attributeSelector (value : List Char) :
    ∃ left, reread (attributeSelector name value) = attributeSelector name left := by
  obtain ⟨hslash, hrare⟩ := attributeSelector_lead hname
  obtain ⟨left, hleft⟩ := exists_dropSlashes_quote value [']']
  refine ⟨left.flatMap rereadChar, ?_⟩
  calc
    reread (attributeSelector name value) =
        reread ('[' :: name ++ ['=', '"'] ++ (value ++ ['"', ']'])) := by
      rw [attributeSelector, List.append_assoc]
    _ = '[' :: name ++ ['=', '"'] ++ reread (value ++ ['"', ']']) :=
      reread_append hslash hrare _
    _ = '[' :: name ++ ['=', '"'] ++ (left.flatMap rereadChar ++ ['"', ']']) := by
      rw [reread, hleft, List.flatMap_append]
      rfl
    _ = attributeSelector name (left.flatMap rereadChar) := (List.append_assoc ..).symm

theorem isPlain_attributeSelector_iff (value : List Char) :
    IsPlain (attributeSelector name value) ↔ IsPlain value ∧ value.getLast? ≠ some '\\' := by
  obtain ⟨hslash, hrare⟩ := attributeSelector_lead hname
  have hclosing : ['"', ']'].all (!isRareControl ·) = true := rfl
  rw [attributeSelector, List.append_assoc, IsPlain, slash_quote_infix_append_iff hslash,
    slash_quote_infix_closing_iff, IsPlain, not_or]
  constructor
  · rintro ⟨hall, hinfix, hlast⟩
    refine ⟨⟨fun c hc => hall c ?_, hinfix⟩, hlast⟩
    exact List.mem_append_right _ (List.mem_append_left _ hc)
  · rintro ⟨⟨hall, hinfix⟩, hlast⟩
    refine ⟨?_, hinfix, hlast⟩
    intro c hc
    rcases List.mem_append.mp hc with hc | hc
    · simpa using List.all_eq_true.mp hrare c hc
    · rcases List.mem_append.mp hc with hc | hc
      · exact hall c hc
      · simpa using List.all_eq_true.mp hclosing c hc

end AttributeSelector

theorem attributeSelector_injective (name : List Char) :
    Function.Injective (attributeSelector name) := by
  intro first second h
  exact List.append_cancel_left (List.append_cancel_right h)

/-! ### What an argument stands for -/

theorem attributeValue?_attributeSelector (name value : List Char) :
    attributeValue? name (attributeSelector name value) =
      if '\n' ∈ value then none else some value := by
  have hselector : attributeSelector name value =
      '[' :: name ++ [] ++ '=' :: '"' :: (value ++ ['"'] ++ [']']) := by
    simp [attributeSelector]
  have hdrop : dropOpeningQuote (skipBlank ('"' :: (value ++ ['"'] ++ [']']))) =
      value ++ ['"'] ++ [']'] := by
    rw [skipBlank_cons (by decide)]
    exact dropOpeningQuote_quote (by decide) _
  have hclosing : dropClosingQuote (value ++ ['"']) = value := by
    simp [dropClosingQuote, dropOpeningQuote, afterQuote?, isQuote]
  have hfeed : '\n' ∈ value ++ ['"'] ↔ '\n' ∈ value := by simp
  rw [hselector, attributeValue?, afterEquals?_selector name (by simp [Text.IsBlank])]
  simp only [Option.bind_eq_bind, Option.bind_some, hdrop, Text.before?_append, hclosing, hfeed]

def isNameValue (value : List Char) : Bool := !value.isEmpty && value.all isNameChar

theorem isNameValue_iff {value : List Char} :
    isNameValue value ↔ value ≠ [] ∧ ∀ c ∈ value, isNameChar c = true := by
  rw [isNameValue, Bool.and_eq_true, List.all_eq_true, Bool.not_eq_true', List.isEmpty_eq_false_iff]

theorem isNameValue_of_nameValue? {text value : List Char} (h : nameValue? text = some value) :
    isNameValue value = true := by
  rw [isNameValue_iff]
  simp only [nameValue?, Option.bind_eq_bind, Option.bind_eq_some_iff] at h
  obtain ⟨rest, -, h⟩ := h
  split_ifs at h with hvalue hcloses hcloses
  · obtain rfl := Option.some.inj h
    exact ⟨by simpa using hvalue, fun c hc => List.mem_takeWhile_imp hc⟩
  · obtain ⟨blank, hlast, hblank⟩ := Option.bind_eq_some_iff.mp h
    obtain rfl := Option.some.inj hblank
    have hmem : blank ∈ rest.takeWhile Text.isBlank := List.mem_of_getLast? hlast
    exact ⟨by simp, by simpa using isNameChar_of_isBlank (List.mem_takeWhile_imp hmem)⟩
  · simp at h

theorem nameValue?_attributeSelector (value : List Char) :
    nameValue? (attributeSelector "name".toList value) =
      if isNameValue value then some value else none := by
  have hblank : Text.IsBlank [] := by simp [Text.IsBlank]
  have hquote : IsQuoteMark ['"'] := .inr ⟨'"', rfl, rfl⟩
  have hselector : attributeSelector "name".toList value =
      '[' :: "name".toList ++ [] ++ '=' :: ([] ++ (['"'] ++ (value ++ (['"'] ++ [']'])))) := by
    simp [attributeSelector]
  rw [hselector]
  split_ifs with hvalue
  · obtain ⟨hne, hchars⟩ := isNameValue_iff.mp hvalue
    exact nameValue?_of_value hblank hblank hquote hquote hne hchars (by simp; decide)
  · have hdrop : dropOpeningQuote (['"'] ++ (value ++ (['"'] ++ [']']))) =
        value ++ (['"'] ++ [']']) := rfl
    obtain ⟨htake, hskip⟩ := @splitBlank [] (['"'] ++ (value ++ (['"'] ++ [']']))) hblank
      (by simp; decide)
    rw [nameValue?, afterEquals?_selector _ hblank]
    simp only [Option.bind_eq_bind, Option.bind_some, htake, hskip, hdrop]
    split_ifs with hempty hcloses
    · obtain ⟨closing, hclosing, hend⟩ := closesName_iff.mp hcloses
      have hsplit : (value ++ (['"'] ++ [']'])).takeWhile isNameChar ++ (closing ++ [']']) =
          value ++ (['"'] ++ [']']) := by
        rw [← hend, List.takeWhile_append_dropWhile]
      have hchars : ∀ c ∈ (value ++ (['"'] ++ [']'])).takeWhile isNameChar, isNameChar c = true :=
        fun c hc => List.mem_takeWhile_imp hc
      generalize (value ++ (['"'] ++ [']'])).takeWhile isNameChar = taken at *
      rcases hclosing with rfl | ⟨c, hc, rfl⟩
      · have htaken : taken = value ++ ['"'] := by
          rw [List.nil_append, ← List.append_assoc] at hsplit
          exact List.append_cancel_right hsplit
        have hlast := hchars '"' (by simp [htaken])
        exact absurd hlast (by decide)
      · have htaken : taken = value := (List.append_inj' hsplit rfl).1
        subst htaken
        have htakenNe : taken ≠ [] := by simpa using hempty
        exact absurd (isNameValue_iff.mpr ⟨htakenNe, hchars⟩) hvalue
    · rfl
    · rfl
    · rfl

/-- The characters that a name goes on with. -/
def inName (c : Char) : Bool := !Text.isBlank c && c != '='

theorem takeWhile_inName {name before : List Char} (hname : name ∈ attributeNames)
    (hbefore : Text.IsBlank before) (rest : List Char) :
    (name ++ (before ++ '=' :: rest)).takeWhile inName = name := by
  have hnames : attributeNames.all (·.all inName) = true := by decide
  have hchars : ∀ c ∈ name, inName c = true :=
    List.all_eq_true.mp (List.all_eq_true.mp hnames name hname)
  have hend : (before ++ '=' :: rest).takeWhile inName = [] := by
    cases before with
    | nil => exact List.takeWhile_cons_of_neg (by decide)
    | cons c before =>
        have hblank : Text.isBlank c = true := hbefore c List.mem_cons_self
        exact List.takeWhile_cons_of_neg (by simp [inName, hblank])
  rw [List.takeWhile_append_of_pos hchars, hend, List.append_nil]

section OtherName

variable {name other : List Char} (hname : name ∈ attributeNames) (hother : other ∈ attributeNames)
  (hne : other ≠ name)

include hname hother hne

theorem afterEquals?_of_other_name (value : List Char) :
    afterEquals? other (attributeSelector name value) = none := by
  cases hafter : afterEquals? other (attributeSelector name value) with
  | none => rfl
  | some rest =>
      obtain ⟨before, hbefore, hsplit⟩ := afterEquals?_eq_some_iff.mp hafter
      have hchars : name ++ ([] ++ '=' :: '"' :: (value ++ ['"', ']'])) =
          other ++ (before ++ '=' :: rest) := by
        simpa [attributeSelector] using hsplit
      have hnil : Text.IsBlank [] := by simp [Text.IsBlank]
      have hname : name = other := by
        rw [← takeWhile_inName hname hnil ('"' :: (value ++ ['"', ']'])), hchars,
          takeWhile_inName hother hbefore]
      exact absurd hname.symm hne

theorem attributeValue?_of_other_name (value : List Char) :
    attributeValue? other (attributeSelector name value) = none := by
  rw [attributeValue?, afterEquals?_of_other_name hname hother hne]
  rfl

end OtherName

theorem nameValue?_of_other_name {name : List Char} (hname : name ∈ attributeNames)
    (hne : "name".toList ≠ name) (value : List Char) :
    nameValue? (attributeSelector name value) = none := by
  rw [nameValue?, afterEquals?_of_other_name hname (by decide) hne]
  rfl

theorem after?_xpath_attributeSelector (name value : List Char) :
    Text.after? "xpath=".toList (attributeSelector name value) = none := rfl

/-- The kinds that are stored as attribute selectors with any value. -/
def attributeKinds : List (List Char × (String → Locator)) :=
  [("data-test".toList, dataTest), ("data-cy".toList, dataCy), ("id".toList, id)]

theorem mem_attributeNames_of_kind {name : List Char} {make : String → Locator}
    (h : (name, make) ∈ attributeKinds) : name ∈ attributeNames ∧ "name".toList ≠ name := by
  simp only [attributeKinds, List.mem_cons, List.not_mem_nil, or_false, Prod.mk.injEq] at h
  rcases h with ⟨rfl, -⟩ | ⟨rfl, -⟩ | ⟨rfl, -⟩ <;> decide

/-- Everything that an argument can stand for. -/
theorem ofArgument_cases (argument : List Char) :
    (∃ path, ofArgument argument = xpath (String.ofList path)) ∨
      (∃ name make value, (name, make) ∈ attributeKinds ∧ '\n' ∉ value ∧
        ofArgument argument = make (String.ofList value)) ∨
      (∃ value, isNameValue value = true ∧ ofArgument argument = name (String.ofList value)) ∨
      (∃ value, isSimpleId value = true ∧ ofArgument argument = id (String.ofList value)) ∨
      ofArgument argument = css (String.ofList argument) := by
  have hattribute : ∀ {name : List Char} {make : String → Locator} {value : List Char},
      (name, make) ∈ attributeKinds → attributeValue? name argument = some value →
      ∃ name' make' value', (name', make') ∈ attributeKinds ∧ '\n' ∉ value' ∧
        make (String.ofList value) = make' (String.ofList value') :=
    fun hkind hvalue => ⟨_, _, _, hkind, feed_not_mem_of_attributeValue? hvalue, rfl⟩
  rw [ofArgument]
  split
  · exact .inl ⟨_, rfl⟩
  split
  · next htest => exact .inr (.inl (hattribute (.head _) htest))
  split
  · next hcy => exact .inr (.inl (hattribute (.tail _ (.head _)) hcy))
  split
  · next hid => exact .inr (.inl (hattribute (.tail _ (.tail _ (.head _))) hid))
  split
  · next hname => exact .inr (.inr (.inl ⟨_, isNameValue_of_nameValue? hname, rfl⟩))
  unfold ofPathChars
  split
  · split_ifs with hsimple
    · exact .inr (.inr (.inr (.inl ⟨_, hsimple, rfl⟩)))
    · exact .inr (.inr (.inr (.inr rfl)))
  · exact .inr (.inr (.inr (.inr rfl)))

/-- A line feed hides the form from its reader, and what is left is a path. -/
theorem ofArgument_attributeSelector {name : List Char} {make : String → Locator}
    (h : (name, make) ∈ attributeKinds) (value : List Char) :
    ofArgument (attributeSelector name value) =
      if '\n' ∈ value then css (String.ofList (attributeSelector name value))
      else make (String.ofList value) := by
  obtain ⟨hname, hne⟩ := mem_attributeNames_of_kind h
  have hvalue := attributeValue?_attributeSelector name value
  have hxpath := after?_xpath_attributeSelector name value
  split_ifs at hvalue ⊢ with hfeed
  · have hnone : ∀ other ∈ attributeNames,
        attributeValue? other (attributeSelector name value) = none := by
      intro other hother
      by_cases hsame : other = name
      · rw [hsame, hvalue]
      · exact attributeValue?_of_other_name hname hother hsame value
    have htest := hnone "data-test".toList (by decide)
    have hcy := hnone "data-cy".toList (by decide)
    have hid := hnone "id".toList (by decide)
    rw [ofArgument, hxpath, htest, hcy, hid, nameValue?_of_other_name hname hne]
    rfl
  · have hother : ∀ other ∈ attributeNames, other ≠ name →
        attributeValue? other (attributeSelector name value) = none := by
      intro other hother hsame
      exact attributeValue?_of_other_name hname hother hsame value
    simp only [attributeKinds, List.mem_cons, List.not_mem_nil, or_false, Prod.mk.injEq] at h
    rcases h with ⟨rfl, rfl⟩ | ⟨rfl, rfl⟩ | ⟨rfl, rfl⟩
    · rw [ofArgument, hxpath, hvalue]
    · have htest := hother "data-test".toList (by decide) (by decide)
      rw [ofArgument, hxpath, htest, hvalue]
    · have htest := hother "data-test".toList (by decide) (by decide)
      have hcy := hother "data-cy".toList (by decide) (by decide)
      rw [ofArgument, hxpath, htest, hcy, hvalue]

theorem ofArgument_name (value : List Char) :
    ofArgument (attributeSelector "name".toList value) =
      if isNameValue value then name (String.ofList value)
      else css (String.ofList (attributeSelector "name".toList value)) := by
  have hnone : ∀ other ∈ attributeNames, other ≠ "name".toList →
      attributeValue? other (attributeSelector "name".toList value) = none := by
    intro other hother hne
    exact attributeValue?_of_other_name (by decide) hother hne value
  have htest := hnone "data-test".toList (by decide) (by decide)
  have hcy := hnone "data-cy".toList (by decide) (by decide)
  have hid := hnone "id".toList (by decide) (by decide)
  rw [ofArgument, after?_xpath_attributeSelector, htest, hcy, hid, nameValue?_attributeSelector]
  split_ifs with hvalue
  · rfl
  · rfl

theorem ofArgument_xpath (path : List Char) :
    ofArgument ("xpath=".toList ++ path) = xpath (String.ofList path) := by
  rw [ofArgument, Text.after?_append]

theorem ofArgument_simpleId (value : List Char) :
    ofArgument ('#' :: value) =
      if isSimpleId value then id (String.ofList value)
      else css (String.ofList ('#' :: value)) := by
  have hxpath : Text.after? "xpath=".toList ('#' :: value) = none := rfl
  have htest : attributeValue? "data-test".toList ('#' :: value) = none := rfl
  have hcy : attributeValue? "data-cy".toList ('#' :: value) = none := rfl
  have hid : attributeValue? "id".toList ('#' :: value) = none := rfl
  have hname : nameValue? ('#' :: value) = none := rfl
  rw [ofArgument, hxpath, htest, hcy, hid, hname]
  rfl

/-- The arguments that are read as some other kind than a path. -/
def HasKind (argument : List Char) : Prop :=
  "xpath=".toList <+: argument ∨ IsAttributeSelector "data-test".toList argument ∨
    IsAttributeSelector "data-cy".toList argument ∨ IsAttributeSelector "id".toList argument ∨
    IsNameSelector argument ∨ ∃ value, argument = '#' :: value ∧ isSimpleId value = true

theorem ofPathChars_eq_css_iff (argument : List Char) (path : String) :
    ofPathChars argument = css path ↔
      argument = path.toList ∧ ¬∃ value, argument = '#' :: value ∧ isSimpleId value = true := by
  have hsame : css (String.ofList argument) = css path ↔ argument = path.toList := by
    rw [css.injEq, ← String.toList_inj, String.toList_ofList]
  unfold ofPathChars
  split
  · next value =>
      split_ifs with hsimple
      · refine iff_of_false nofun ?_
        rintro ⟨-, hnone⟩
        exact hnone ⟨value, rfl, hsimple⟩
      · rw [hsame, and_iff_left]
        rintro ⟨other, heq, hother⟩
        obtain rfl := (List.cons.inj heq).2
        exact hsimple hother
  · next hlead =>
      rw [hsame, and_iff_left]
      rintro ⟨value, heq, -⟩
      exact hlead value heq

theorem ofArgument_eq_css_iff (argument : List Char) (path : String) :
    ofArgument argument = css path ↔ argument = path.toList ∧ ¬HasKind argument := by
  have hsome : ∀ {l : Locator}, (∀ other, l ≠ css other) → HasKind argument →
      (l = css path ↔ argument = path.toList ∧ ¬HasKind argument) :=
    fun hkind hhas => iff_of_false (hkind path) fun h => h.2 hhas
  have hattribute : ∀ {name : List Char},
      attributeValue? name argument = none ↔ ¬IsAttributeSelector name argument := by
    intro name
    rw [← attributeValue?_isSome_iff, Option.not_isSome_iff_eq_none]
  rw [ofArgument]
  split
  · next rest hxpath =>
      refine hsome nofun (.inl ⟨rest, (Text.after?_eq_some_iff.mp hxpath).symm⟩)
  next hxpath =>
  split
  · next value htest =>
      exact hsome nofun (.inr (.inl (isAttributeSelector_of_attributeValue? htest)))
  next htest =>
  split
  · next value hcy =>
      exact hsome nofun (.inr (.inr (.inl (isAttributeSelector_of_attributeValue? hcy))))
  next hcy =>
  split
  · next value hid =>
      exact hsome nofun (.inr (.inr (.inr (.inl (isAttributeSelector_of_attributeValue? hid)))))
  next hid =>
  split
  · next value hname =>
      exact hsome nofun (.inr (.inr (.inr (.inr (.inl (isNameSelector_of_nameValue? hname))))))
  next hname =>
  have hpath : ¬"xpath=".toList <+: argument := by
    rintro ⟨rest, hrest⟩
    exact Text.after?_eq_none_iff.mp hxpath rest hrest.symm
  have hnameNot : ¬IsNameSelector argument := by
    rw [← nameValue?_isSome_iff, hname]
    simp
  rw [ofPathChars_eq_css_iff, HasKind]
  simp only [hpath, hattribute.mp htest, hattribute.mp hcy, hattribute.mp hid, hnameNot, false_or]

/-! ### Expressions of selectors -/

/-- What an attribute selector gives back: plain text on one line whose end does not escape the
quote behind it. -/
def SurvivesInSelector (value : List Char) : Prop :=
  '\n' ∉ value ∧ IsPlain value ∧ value.getLast? ≠ some '\\'

theorem ofExpression_locator {l : Locator} {argument : List Char}
    (h : l.expressionChars = call "locator".toList argument) :
    ofExpression l.expression = ofArgument (reread argument) := by
  rw [ofExpression, expression, h, parse?_locator, Option.getD_some]

theorem ofArgument_attribute_iff {name : List Char} {make : String → Locator}
    (h : (name, make) ∈ attributeKinds) (value : String) :
    ofArgument (reread (attributeSelector name value.toList)) = make value ↔
      SurvivesInSelector value.toList := by
  have hname : name ∈ attributeNames := (mem_attributeNames_of_kind h).1
  have hmake : (∀ other path, make other ≠ css path) ∧ Function.Injective make := by
    simp only [attributeKinds, List.mem_cons, List.not_mem_nil, or_false, Prod.mk.injEq] at h
    rcases h with ⟨-, rfl⟩ | ⟨-, rfl⟩ | ⟨-, rfl⟩
    · exact ⟨nofun, fun _ _ => dataTest.inj⟩
    · exact ⟨nofun, fun _ _ => dataCy.inj⟩
    · exact ⟨nofun, fun _ _ => id.inj⟩
  obtain ⟨left, hleft⟩ := exists_reread_attributeSelector hname value.toList
  have hsame : left = value.toList ↔ IsPlain value.toList ∧ value.toList.getLast? ≠ some '\\' := by
    rw [← isPlain_attributeSelector_iff hname, ← reread_eq_self_iff, hleft,
      (attributeSelector_injective name).eq_iff]
  rw [hleft, ofArgument_attributeSelector h, SurvivesInSelector, ← hsame]
  split_ifs with hfeed
  · refine iff_of_false (fun heq => hmake.1 _ _ heq.symm) ?_
    rintro ⟨hnot, heq⟩
    exact hnot (heq ▸ hfeed)
  · rw [hmake.2.eq_iff, ← String.toList_inj, String.toList_ofList]
    exact ⟨fun heq => ⟨heq ▸ hfeed, heq⟩, fun heq => heq.2⟩

theorem ofExpression_dataTest_iff (v : String) :
    ofExpression (dataTest v).expression = dataTest v ↔ SurvivesInSelector v.toList := by
  rw [ofExpression_locator rfl, ofArgument_attribute_iff (.head _)]

theorem ofExpression_dataCy_iff (v : String) :
    ofExpression (dataCy v).expression = dataCy v ↔ SurvivesInSelector v.toList := by
  rw [ofExpression_locator rfl, ofArgument_attribute_iff (.tail _ (.head _))]

theorem isPlain_iff_of_isSimpleId {value : List Char} (h : isSimpleId value = true) :
    IsPlain value ↔ ∀ c ∈ value, isRareControl c = false := by
  refine ⟨fun hplain => hplain.1, IsPlain.of_no_quote fun c hc => ?_⟩
  simp only [isSimpleId, Bool.and_eq_true, List.all_eq_true] at h
  have hchar := h.2 c hc
  simp only [isIdChar, Bool.not_eq_true', Bool.or_eq_false_iff] at hchar
  exact hchar.2

theorem ofExpression_id_iff (v : String) :
    ofExpression (id v).expression = id v ↔
      (isSimpleId v.toList = true ∧ ∀ c ∈ v.toList, isRareControl c = false) ∨
        (isSimpleId v.toList = false ∧ SurvivesInSelector v.toList) := by
  rw [ofExpression_locator rfl]
  by_cases hsimple : isSimpleId v.toList = true
  · have hhash : reread ('#' :: v.toList) = '#' :: reread v.toList :=
      @reread_append ['#'] (by decide) (by decide) v.toList
    rw [if_pos hsimple, hhash, ofArgument_simpleId, ← isPlain_iff_of_isSimpleId hsimple,
      ← ofList_reread_eq_iff]
    simp only [hsimple, true_and, Bool.true_eq_false, false_and, or_false]
    split_ifs with hread
    · rw [id.injEq]
    · refine iff_of_false nofun fun heq => hread ?_
      rwa [← heq, String.toList_ofList] at hsimple
  · rw [if_neg hsimple, ofArgument_attribute_iff (.tail _ (.tail _ (.head _)))]
    simp [hsimple]

theorem isPlain_iff_of_isNameChar {value : List Char} (h : ∀ c ∈ value, isNameChar c = true) :
    IsPlain value ↔ ∀ c ∈ value, isRareControl c = false := by
  refine ⟨fun hplain => hplain.1, IsPlain.of_no_quote fun c hc => ?_⟩
  have hchar := h c hc
  simp only [isNameChar, Bool.not_eq_true', Bool.or_eq_false_iff] at hchar
  exact hchar.1

theorem ofExpression_name_iff (v : String) :
    ofExpression (name v).expression = name v ↔
      v.toList ≠ [] ∧ (∀ c ∈ v.toList, isNameChar c = true) ∧
        (∀ c ∈ v.toList, isRareControl c = false) ∧ v.toList.getLast? ≠ some '\\' := by
  have hname : "name".toList ∈ attributeNames := by decide
  obtain ⟨left, hleft⟩ := exists_reread_attributeSelector hname v.toList
  have hsame : left = v.toList ↔ IsPlain v.toList ∧ v.toList.getLast? ≠ some '\\' := by
    rw [← isPlain_attributeSelector_iff hname, ← reread_eq_self_iff, hleft,
      (attributeSelector_injective _).eq_iff]
  rw [ofExpression_locator rfl, hleft, ofArgument_name]
  constructor
  · intro h
    split_ifs at h with hvalue
    obtain rfl : left = v.toList := by
      rwa [name.injEq, ← String.toList_inj, String.toList_ofList] at h
    obtain ⟨hplain, hlast⟩ := hsame.mp rfl
    obtain ⟨hne, hchars⟩ := isNameValue_iff.mp hvalue
    exact ⟨hne, hchars, hplain.1, hlast⟩
  · rintro ⟨hne, hvalue, hrare, hlast⟩
    obtain rfl := hsame.mpr ⟨(isPlain_iff_of_isNameChar hvalue).mpr hrare, hlast⟩
    rw [if_pos (isNameValue_iff.mpr ⟨hne, hvalue⟩), String.ofList_toList]

theorem ofExpression_xpath_iff (v : String) :
    ofExpression (xpath v).expression = xpath v ↔ IsPlain v.toList := by
  have hread : reread ("xpath=".toList ++ v.toList) = "xpath=".toList ++ reread v.toList :=
    reread_append (by decide) (by decide) v.toList
  rw [ofExpression_locator rfl, hread, ofArgument_xpath, xpath.injEq, ofList_reread_eq_iff]

theorem ofExpression_css_iff (v : String) :
    ofExpression (css v).expression = css v ↔ IsPlain v.toList ∧ ¬HasKind v.toList := by
  rw [ofExpression_locator rfl, ofArgument_eq_css_iff, reread_eq_self_iff]
  apply and_congr_right
  intro hplain
  rw [(reread_eq_self_iff _).mpr hplain]

/-- Which texts come back unchanged, for each kind that is stored as the argument of `locator`. -/
theorem selector_calls_reload (v : String) :
    (ofExpression (dataTest v).expression = dataTest v ↔ SurvivesInSelector v.toList) ∧
    (ofExpression (dataCy v).expression = dataCy v ↔ SurvivesInSelector v.toList) ∧
    (ofExpression (id v).expression = id v ↔
      (isSimpleId v.toList = true ∧ ∀ c ∈ v.toList, isRareControl c = false) ∨
        (isSimpleId v.toList = false ∧ SurvivesInSelector v.toList)) ∧
    (ofExpression (name v).expression = name v ↔
      v.toList ≠ [] ∧ (∀ c ∈ v.toList, isNameChar c = true) ∧
        (∀ c ∈ v.toList, isRareControl c = false) ∧ v.toList.getLast? ≠ some '\\') ∧
    (ofExpression (xpath v).expression = xpath v ↔ IsPlain v.toList) ∧
    (ofExpression (css v).expression = css v ↔ IsPlain v.toList ∧ ¬HasKind v.toList) :=
  ⟨ofExpression_dataTest_iff v, ofExpression_dataCy_iff v, ofExpression_id_iff v,
    ofExpression_name_iff v, ofExpression_xpath_iff v, ofExpression_css_iff v⟩

end BrowserFlow.Locator
