import BrowserFlow.Proofs.Locator.Calls
import BrowserFlow.Locator.Parse
import Mathlib.Data.List.TakeWhile

/-!
# Attribute selectors

When a text has the form of an attribute selector, said without the functions that read it, and
what is read off the selectors that are written.
-/

namespace BrowserFlow.Locator

open Text (IsBlank isBlank)

/-- One quote or none. -/
def IsQuoteMark (mark : List Char) : Prop := mark = [] ∨ ∃ c, isQuote c = true ∧ mark = [c]

/-- `text` is an attribute selector around `value`, with blanks around the equals sign. -/
def IsSelectorOf (name value text : List Char) : Prop :=
  ∃ before after opening closing, IsBlank before ∧ IsBlank after ∧ IsQuoteMark opening ∧
    IsQuoteMark closing ∧
    text = '[' :: name ++ before ++ '=' :: (after ++ opening ++ value ++ closing ++ [']'])

/-- An attribute selector with any value on one line. -/
def IsAttributeSelector (name text : List Char) : Prop :=
  ∃ value, '\n' ∉ value ∧ IsSelectorOf name value text

/-- A name selector has a value, and no quote or bracket in it. -/
def IsNameSelector (text : List Char) : Prop :=
  ∃ value, value ≠ [] ∧ (∀ c ∈ value, isNameChar c = true) ∧
    IsSelectorOf "name".toList value text

/-! ### Blanks and quotes -/

theorem IsQuoteMark.isQuote_mem {mark : List Char} (h : IsQuoteMark mark) {c : Char}
    (hc : c ∈ mark) : isQuote c = true := by
  rcases h with rfl | ⟨d, hd, rfl⟩
  · simp at hc
  · rwa [List.mem_singleton.mp hc]

theorem exists_dropOpeningQuote (text : List Char) :
    ∃ mark, IsQuoteMark mark ∧ text = mark ++ dropOpeningQuote text := by
  cases text with
  | nil => exact ⟨[], .inl rfl, rfl⟩
  | cons c text =>
      by_cases hc : isQuote c = true
      · exact ⟨[c], .inr ⟨c, hc, rfl⟩, by simp [dropOpeningQuote, afterQuote?, hc]⟩
      · exact ⟨[], .inl rfl, by simp [dropOpeningQuote, afterQuote?, hc]⟩

theorem dropOpeningQuote_quote {c : Char} (hc : isQuote c = true) (text : List Char) :
    dropOpeningQuote (c :: text) = text := by
  simp [dropOpeningQuote, afterQuote?, hc]

theorem dropOpeningQuote_of_not_quote {c : Char} (hc : isQuote c = false) (text : List Char) :
    dropOpeningQuote (c :: text) = c :: text := by
  simp [dropOpeningQuote, afterQuote?, hc]

theorem exists_skipBlank (text : List Char) :
    ∃ blanks, IsBlank blanks ∧ text = blanks ++ skipBlank text :=
  Text.exists_lead text

theorem skipBlank_append {blanks : List Char} (h : IsBlank blanks) (text : List Char) :
    skipBlank (blanks ++ text) = skipBlank text :=
  Text.trimLeft_append h text

theorem afterEquals?_eq_some_iff {name text rest : List Char} :
    afterEquals? name text = some rest ↔
      ∃ before, IsBlank before ∧ text = '[' :: name ++ before ++ '=' :: rest := by
  simp only [afterEquals?, Option.bind_eq_bind, Option.bind_eq_some_iff, Text.after?_eq_some_iff]
  constructor
  · rintro ⟨value, rfl, hvalue⟩
    obtain ⟨before, hbefore, hsplit⟩ := exists_skipBlank value
    refine ⟨before, hbefore, ?_⟩
    rw [hvalue] at hsplit
    rw [hsplit]
    simp
  · rintro ⟨before, hbefore, rfl⟩
    refine ⟨before ++ '=' :: rest, by simp, ?_⟩
    rw [skipBlank_append hbefore, skipBlank_cons (by decide)]
    rfl

theorem afterEquals?_selector (name : List Char) {before : List Char} (hbefore : IsBlank before)
    (rest : List Char) : afterEquals? name ('[' :: name ++ before ++ '=' :: rest) = some rest :=
  afterEquals?_eq_some_iff.mpr ⟨before, hbefore, rfl⟩

/-! ### Selectors with any value -/

theorem exists_dropClosingQuote (text : List Char) :
    ∃ mark, IsQuoteMark mark ∧ text = dropClosingQuote text ++ mark := by
  obtain ⟨mark, hmark, hsplit⟩ := exists_dropOpeningQuote text.reverse
  refine ⟨mark, hmark, ?_⟩
  have hreverse : text.reverse = mark.reverse ++ dropOpeningQuote text.reverse := by
    rcases hmark with rfl | ⟨c, -, rfl⟩ <;> simpa using hsplit
  rw [← List.reverse_inj, hreverse, dropClosingQuote]
  simp

theorem feed_not_mem_of_attributeValue? {name text value : List Char}
    (h : attributeValue? name text = some value) : '\n' ∉ value := by
  simp only [attributeValue?, Option.bind_eq_bind, Option.bind_eq_some_iff] at h
  obtain ⟨rest, -, body, -, hvalue⟩ := h
  obtain ⟨mark, -, hbody⟩ := exists_dropClosingQuote body
  split_ifs at hvalue with hfeed
  obtain rfl := Option.some.inj hvalue
  intro hmem
  apply hfeed
  rw [hbody]
  exact List.mem_append_left mark hmem

theorem isAttributeSelector_of_attributeValue? {name text value : List Char}
    (h : attributeValue? name text = some value) : IsAttributeSelector name text := by
  simp only [attributeValue?, Option.bind_eq_bind, Option.bind_eq_some_iff,
    afterEquals?_eq_some_iff, Text.before?_eq_some_iff] at h
  obtain ⟨rest, ⟨before, hbefore, rfl⟩, body, hbody, hvalue⟩ := h
  obtain ⟨after, hafter, hrest⟩ := exists_skipBlank rest
  obtain ⟨opening, hopening, hquoted⟩ := exists_dropOpeningQuote (skipBlank rest)
  obtain ⟨closing, hclosing, hend⟩ := exists_dropClosingQuote body
  have hfeed : '\n' ∉ body := by
    intro hmem
    simp [hmem] at hvalue
  refine ⟨dropClosingQuote body, fun hmem => hfeed ?_, before, after, opening, closing, hbefore,
    hafter, hopening, hclosing, ?_⟩
  · rw [hend]
    exact List.mem_append_left _ hmem
  · have hsplit : rest = after ++ opening ++ dropClosingQuote body ++ closing ++ [']'] := by
      rw [hbody, hend] at hquoted
      rw [hrest, hquoted]
      simp
    rw [← hsplit]

/-- Skipping blanks stops at the latest before a character that is not blank. -/
theorem skipBlank_append_singleton (text : List Char) {c : Char} (hc : isBlank c = false) :
    ∃ left, left <:+ text ∧ skipBlank (text ++ [c]) = left ++ [c] := by
  induction text with
  | nil => exact ⟨[], List.suffix_rfl, skipBlank_cons hc []⟩
  | cons d text ih =>
      by_cases hd : isBlank d = true
      · obtain ⟨left, hleft, hskip⟩ := ih
        refine ⟨left, hleft.trans (List.suffix_cons d text), ?_⟩
        rw [List.cons_append, skipBlank, List.dropWhile_cons_of_pos hd]
        exact hskip
      · exact ⟨d :: text, List.suffix_rfl, skipBlank_cons (by simpa using hd) (text ++ [c])⟩

theorem dropOpeningQuote_append_singleton (text : List Char) {c : Char} (hc : isQuote c = false) :
    ∃ left, left <:+ text ∧ dropOpeningQuote (text ++ [c]) = left ++ [c] := by
  cases text with
  | nil => exact ⟨[], List.suffix_rfl, dropOpeningQuote_of_not_quote hc []⟩
  | cons d text =>
      by_cases hd : isQuote d = true
      · exact ⟨text, List.suffix_cons d text, dropOpeningQuote_quote hd _⟩
      · exact ⟨d :: text, List.suffix_rfl, dropOpeningQuote_of_not_quote (by simpa using hd) _⟩

theorem attributeValue?_isSome_iff {name text : List Char} :
    (attributeValue? name text).isSome ↔ IsAttributeSelector name text := by
  constructor
  · intro h
    obtain ⟨value, hvalue⟩ := Option.isSome_iff_exists.mp h
    exact isAttributeSelector_of_attributeValue? hvalue
  · rintro ⟨value, hfeed, before, after, opening, closing, hbefore, hafter, hopening, hclosing, rfl⟩
    obtain ⟨left, hleft, hskip⟩ := skipBlank_append_singleton (opening ++ value ++ closing)
      (c := ']') (by decide)
    obtain ⟨body, hbody, hdrop⟩ := dropOpeningQuote_append_singleton left (c := ']') (by decide)
    have hnotFeed : '\n' ∉ body := by
      intro hmem
      have hsource := (hbody.trans hleft).subset hmem
      simp only [List.mem_append] at hsource
      rcases hsource with (hsource | hsource) | hsource
      · exact absurd (hopening.isQuote_mem hsource) (by decide)
      · exact hfeed hsource
      · exact absurd (hclosing.isQuote_mem hsource) (by decide)
    have hbody : dropOpeningQuote (skipBlank (after ++ opening ++ value ++ closing ++ [']'])) =
        body ++ [']'] := by
      rw [← hdrop, ← hskip, List.append_assoc after, List.append_assoc after,
        List.append_assoc after, skipBlank_append hafter]
    rw [attributeValue?, afterEquals?_selector name hbefore]
    simp only [Option.bind_eq_bind, Option.bind_some, hbody, Text.before?_append, if_neg hnotFeed]
    rfl

/-! ### Name selectors -/

theorem isNameChar_of_isBlank {c : Char} (h : isBlank c = true) : isNameChar c = true := by
  have hquote : isQuote c = false := by
    by_contra hquote
    simp only [isQuote, Bool.not_eq_false, Bool.or_eq_true, beq_iff_eq] at hquote
    rcases hquote with rfl | rfl <;> exact absurd h (by decide)
  have hbracket : c ≠ ']' := by
    rintro rfl
    exact absurd h (by decide)
  simp [isNameChar, hquote, hbracket]

theorem not_isBlank_of_isQuote {c : Char} (h : isQuote c = true) : isBlank c = false := by
  by_contra hblank
  have hname := isNameChar_of_isBlank (by simpa using hblank)
  simp [isNameChar, h] at hname

theorem closesName_iff {text : List Char} :
    closesName text ↔ ∃ mark, IsQuoteMark mark ∧ text = mark ++ [']'] := by
  rw [closesName, beq_iff_eq]
  constructor
  · intro h
    obtain ⟨mark, hmark, hsplit⟩ := exists_dropOpeningQuote text
    exact ⟨mark, hmark, by rw [hsplit, h]⟩
  · rintro ⟨mark, rfl | ⟨c, hc, rfl⟩, rfl⟩
    · rfl
    · exact dropOpeningQuote_quote hc [']']

theorem isNameSelector_of_nameValue? {text value : List Char} (h : nameValue? text = some value) :
    IsNameSelector text := by
  simp only [nameValue?, Option.bind_eq_bind, Option.bind_eq_some_iff,
    afterEquals?_eq_some_iff] at h
  obtain ⟨rest, ⟨before, hbefore, rfl⟩, h⟩ := h
  have hrest : rest = rest.takeWhile isBlank ++ skipBlank rest :=
    List.takeWhile_append_dropWhile.symm
  have hblanks : IsBlank (rest.takeWhile isBlank) := fun _ hc => List.mem_takeWhile_imp hc
  generalize rest.takeWhile isBlank = blanks at *
  generalize skipBlank rest = body at *
  subst hrest
  split at h
  · next hvalue =>
      split at h
      · next hcloses =>
          obtain ⟨opening, hopening, hbody⟩ := exists_dropOpeningQuote body
          obtain ⟨closing, hclosing, hend⟩ := closesName_iff.mp hcloses
          have hsplit : body = opening ++ ((dropOpeningQuote body).takeWhile isNameChar ++
              (closing ++ [']'])) := by
            rw [← hend, List.takeWhile_append_dropWhile, ← hbody]
          refine ⟨_, by simpa using hvalue, fun c hc => List.mem_takeWhile_imp hc, before, blanks,
            opening, closing, hbefore, hblanks, hopening, hclosing, ?_⟩
          conv_lhs => rw [hsplit]
          simp
      · simp at h
  · simp only [Option.bind_eq_some_iff] at h
    obtain ⟨blank, hlast, h⟩ := h
    split at h
    · next hcloses =>
        obtain ⟨closing, hclosing, rfl⟩ := closesName_iff.mp hcloses
        obtain ⟨earlier, rfl⟩ := List.getLast?_eq_some_iff.mp hlast
        have hearlier : IsBlank earlier := fun c hc => hblanks c (List.mem_append_left _ hc)
        have hblank : isBlank blank = true := hblanks blank (by simp)
        refine ⟨[blank], by simp, by simpa using isNameChar_of_isBlank hblank, before, earlier, [],
          closing, hbefore, hearlier, .inl rfl, hclosing, by simp⟩
    · simp at h

theorem takeWhile_isNameChar {value closing : List Char} (hvalue : ∀ c ∈ value, isNameChar c = true)
    (hclosing : IsQuoteMark closing) :
    (value ++ (closing ++ [']'])).takeWhile isNameChar = value ∧
      (value ++ (closing ++ [']'])).dropWhile isNameChar = closing ++ [']'] := by
  have hend : (closing ++ [']']).takeWhile isNameChar = [] ∧
      (closing ++ [']']).dropWhile isNameChar = closing ++ [']'] := by
    rcases hclosing with rfl | ⟨c, hc, rfl⟩
    · decide
    · simp [isNameChar, hc]
  rw [List.takeWhile_append_of_pos hvalue, List.dropWhile_append_of_pos hvalue, hend.1, hend.2]
  simp

theorem splitBlank {blanks body : List Char} (hblanks : IsBlank blanks)
    (hbody : ∀ c ∈ body.head?, isBlank c = false) :
    (blanks ++ body).takeWhile isBlank = blanks ∧ skipBlank (blanks ++ body) = body := by
  rw [skipBlank_append hblanks, List.takeWhile_append_of_pos hblanks]
  cases body with
  | nil => simp [skipBlank]
  | cons c body =>
      have hc : isBlank c = false := hbody c rfl
      rw [skipBlank_cons hc, List.takeWhile_cons_of_neg (by simp [hc]), List.append_nil]
      exact ⟨rfl, rfl⟩

section NameValue

variable {before blanks opening value closing : List Char} (hbefore : IsBlank before)
  (hblanks : IsBlank blanks) (hclosing : IsQuoteMark closing)

include hbefore hblanks hclosing

theorem nameValue?_of_value (hopening : IsQuoteMark opening) (hne : value ≠ [])
    (hvalue : ∀ c ∈ value, isNameChar c = true)
    (hhead : ∀ c ∈ (opening ++ value).head?, isBlank c = false) :
    nameValue? ('[' :: "name".toList ++ before ++
      '=' :: (blanks ++ (opening ++ (value ++ (closing ++ [']']))))) = some value := by
  have hbody : ∀ c ∈ (opening ++ (value ++ (closing ++ [']']))).head?, isBlank c = false := by
    intro c hc
    apply hhead c
    obtain ⟨first, rest, rfl⟩ := List.exists_cons_of_ne_nil hne
    rcases hopening with rfl | ⟨d, -, rfl⟩
    · exact hc
    · exact hc
  have hdrop : dropOpeningQuote (opening ++ (value ++ (closing ++ [']']))) =
      value ++ (closing ++ [']']) := by
    rcases hopening with rfl | ⟨c, hc, rfl⟩
    · obtain ⟨first, rest, rfl⟩ := List.exists_cons_of_ne_nil hne
      have hfirst : isQuote first = false := by
        have hname := hvalue first List.mem_cons_self
        simp only [isNameChar, Bool.not_eq_true', Bool.or_eq_false_iff] at hname
        exact hname.1
      exact dropOpeningQuote_of_not_quote hfirst _
    · exact dropOpeningQuote_quote hc _
  obtain ⟨htake, hdropWhile⟩ := takeWhile_isNameChar hvalue hclosing
  have hcloses : closesName (closing ++ [']']) := closesName_iff.mpr ⟨closing, hclosing, rfl⟩
  rw [nameValue?, afterEquals?_selector _ hbefore]
  simp only [Option.bind_eq_bind, Option.bind_some, splitBlank hblanks hbody, hdrop, htake,
    hdropWhile, hcloses]
  simp [hne]

theorem nameValue?_of_blanks (hne : blanks ≠ []) :
    (nameValue? ('[' :: "name".toList ++ before ++
      '=' :: (blanks ++ (closing ++ [']'])))).isSome := by
  have hbody : ∀ c ∈ (closing ++ [']']).head?, isBlank c = false := by
    have hbracket : isBlank ']' = false := rfl
    rcases hclosing with rfl | ⟨c, hc, rfl⟩
    · simpa using hbracket
    · simpa using not_isBlank_of_isQuote hc
  have hdrop : dropOpeningQuote (closing ++ [']']) = [']'] := by
    rcases hclosing with rfl | ⟨c, hc, rfl⟩
    · rfl
    · exact dropOpeningQuote_quote hc [']']
  have hcloses : closesName (closing ++ [']']) := closesName_iff.mpr ⟨closing, hclosing, rfl⟩
  have htake : [']'].takeWhile isNameChar = [] := rfl
  rw [nameValue?, afterEquals?_selector _ hbefore]
  simp only [Option.bind_eq_bind, Option.bind_some, splitBlank hblanks hbody, hdrop, htake, hcloses,
    List.getLast?_eq_some_getLast hne]
  rfl

end NameValue

theorem nameValue?_isSome_iff {text : List Char} :
    (nameValue? text).isSome ↔ IsNameSelector text := by
  constructor
  · intro h
    obtain ⟨value, hvalue⟩ := Option.isSome_iff_exists.mp h
    exact isNameSelector_of_nameValue? hvalue
  · rintro ⟨value, hne, hvalue, before, after, opening, closing, hbefore, hafter, hopening,
      hclosing, rfl⟩
    rcases hopening with rfl | ⟨c, hc, rfl⟩
    · -- Without an opening quote the blanks in front of the value are not told from those after
      -- the equals sign.
      obtain ⟨blanks, hblanks, hsplit⟩ := exists_skipBlank value
      have hmore : IsBlank (after ++ blanks) := by
        intro d hd
        rcases List.mem_append.mp hd with hd | hd
        · exact hafter d hd
        · exact hblanks d hd
      by_cases hempty : skipBlank value = []
      · rw [hempty, List.append_nil] at hsplit
        subst hsplit
        have hsome := nameValue?_of_blanks hbefore hmore hclosing (by simp [hne])
        simpa using hsome
      · have hchars : ∀ d ∈ skipBlank value, isNameChar d = true :=
          fun d hd => hvalue d ((List.dropWhile_suffix _).subset hd)
        have hhead : ∀ d ∈ ([] ++ skipBlank value).head?, isBlank d = false := by
          intro d hd
          have hnot := List.head?_dropWhile_not isBlank value
          rw [List.nil_append, skipBlank, Option.mem_def] at hd
          rw [hd] at hnot
          exact hnot
        have hsome := nameValue?_of_value hbefore hmore hclosing (.inl rfl) hempty hchars hhead
        rw [hsplit]
        simpa using Option.isSome_of_eq_some hsome
    · have hsome := nameValue?_of_value hbefore hafter hclosing (.inr ⟨c, hc, rfl⟩) hne hvalue
        (by simpa using not_isBlank_of_isQuote hc)
      simpa using Option.isSome_of_eq_some hsome

end BrowserFlow.Locator
