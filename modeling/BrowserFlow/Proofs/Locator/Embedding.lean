import BrowserFlow.Proofs.Locator.Distinct
import Mathlib.Logic.Function.Iterate

/-!
# Expressions embedded in other text

An expression that becomes part of generated code is quoted again, perhaps more than once. Each time
a quote gets one more backslash and the backslashes before it are doubled, so that a run of `n`
becomes one of `2 * n + 1`. Once there is a backslash before a quote their number stays odd, and all
of them are dropped when quotes are normalized. So it does not matter how deep the expression was
embedded, as long as its backslashes stand before double quotes only.
-/

namespace BrowserFlow.Locator

open Json (escapeChar quoteChars)

/-- A quote and a backslash get a backslash. -/
def embedChar (c : Char) : List Char := if c = '"' ∨ c = '\\' then ['\\', c] else [c]

def embedChars (text : List Char) : List Char := text.flatMap embedChar

/-- A text as it stands between the quotes of a quoted text. -/
def embed (text : String) : String := String.ofList (embedChars text.toList)

/-- No backslash and no control character. -/
def IsClean (text : List Char) : Prop := ∀ c ∈ text, c ≠ '\\' ∧ 32 ≤ c.toNat

instance (text : List Char) : Decidable (IsClean text) :=
  List.decidableBAll _ text

/-- The texts that a locator is made of. -/
def texts : Locator → List String
  | role r n => [r, n]
  | l => l.value?.toList

/-- A locator whose texts hold no backslash and no control character. -/
def HasCleanTexts (l : Locator) : Prop := ∀ text ∈ l.texts, IsClean text.toList

instance (l : Locator) : Decidable l.HasCleanTexts :=
  inferInstanceAs (Decidable (∀ text ∈ l.texts, IsClean text.toList))

theorem IsClean.append {front back : List Char} (hfront : IsClean front) (hback : IsClean back) :
    IsClean (front ++ back) :=
  List.forall_mem_append.mpr ⟨hfront, hback⟩

theorem IsClean.slash_not_mem {text : List Char} (h : IsClean text) : '\\' ∉ text :=
  fun hmem => (h '\\' hmem).1 rfl

/-! ### Runs of backslashes -/

/-- Every run of backslashes stands before a double quote and is of odd length. -/
inductive EscapesQuotes : List Char → Prop where
  | nil : EscapesQuotes []
  | char {c : Char} {text : List Char} (hslash : c ≠ '\\') (hquote : c ≠ '"')
      (h : EscapesQuotes text) : EscapesQuotes (c :: text)
  | quote {text : List Char} (run : Nat) (hrun : run = 0 ∨ run % 2 = 1) (h : EscapesQuotes text) :
      EscapesQuotes (List.replicate run '\\' ++ '"' :: text)

theorem embedChars_append (front back : List Char) :
    embedChars (front ++ back) = embedChars front ++ embedChars back :=
  List.flatMap_append

theorem embedChars_char {c : Char} (hslash : c ≠ '\\') (hquote : c ≠ '"') (text : List Char) :
    embedChars (c :: text) = c :: embedChars text := by
  rw [embedChars, List.flatMap_cons, embedChar, if_neg (not_or.mpr ⟨hquote, hslash⟩)]
  rfl

theorem embedChars_run (run : Nat) (text : List Char) :
    embedChars (List.replicate run '\\' ++ '"' :: text) =
      List.replicate (2 * run + 1) '\\' ++ '"' :: embedChars text := by
  have hrun : embedChars (List.replicate run '\\') = List.replicate (2 * run) '\\' :=
    flatMap_slashes rfl run
  rw [embedChars_append, hrun, List.replicate_succ', List.append_assoc]
  rfl

theorem normalizeFrom_run (pending run : Nat) (text : List Char) :
    normalizeFrom pending (List.replicate run '\\' ++ text) = normalizeFrom (pending + run) text := by
  induction run generalizing pending with
  | zero => rfl
  | succ run ih =>
      rw [List.replicate_succ, List.cons_append, normalizeFrom, if_pos rfl, ih, Nat.add_assoc,
        Nat.add_comm 1]

namespace EscapesQuotes

theorem of_slash_not_mem {text : List Char} (h : '\\' ∉ text) : EscapesQuotes text := by
  induction text with
  | nil => exact .nil
  | cons c text ih =>
      rw [List.mem_cons, not_or] at h
      by_cases hquote : c = '"'
      · subst hquote
        exact .quote 0 (.inl rfl) (ih h.2)
      · exact .char (Ne.symm h.1) hquote (ih h.2)

theorem append {front back : List Char} (hfront : EscapesQuotes front)
    (hback : EscapesQuotes back) : EscapesQuotes (front ++ back) := by
  induction hfront with
  | nil => exact hback
  | char hslash hquote _ ih => exact .char hslash hquote ih
  | quote run hrun _ ih =>
      rw [List.append_assoc]
      exact .quote run hrun ih

/-- One embedding more: `run` backslashes become `2 * run + 1`. -/
theorem embedChars {text : List Char} (h : EscapesQuotes text) :
    EscapesQuotes (embedChars text) := by
  induction h with
  | nil => exact .nil
  | char hslash hquote _ ih =>
      rw [embedChars_char hslash hquote]
      exact .char hslash hquote ih
  | quote run _ _ ih =>
      rw [embedChars_run]
      exact .quote (2 * run + 1) (.inr (by omega)) ih

theorem iterate_embedChars {text : List Char} (h : EscapesQuotes text) (depth : Nat) :
    EscapesQuotes (Locator.embedChars^[depth] text) := by
  induction depth with
  | zero => exact h
  | succ depth ih =>
      rw [Function.iterate_succ_apply']
      exact ih.embedChars

/-- No backslash is left, since all runs are dropped. -/
theorem normalizeQuotes_eq {text : List Char} (h : EscapesQuotes text) :
    normalizeQuotes text = text.filter (· ≠ '\\') := by
  induction h with
  | nil => rfl
  | @char c text hslash _ _ ih =>
      have hchar := normalizeFrom_even hslash 0 text
      rw [List.filter_cons_of_pos (by simpa using hslash), ← ih]
      exact hchar
  | @quote text run hrun _ ih =>
      have hcount : normalizeQuotes (List.replicate run '\\' ++ '"' :: text) =
          normalizeFrom run ('"' :: text) := by
        rw [normalizeQuotes, normalizeFrom_run, Nat.zero_add]
      have hnone : (List.replicate run '\\').filter (· ≠ '\\') = [] := by simp
      rw [hcount, List.filter_append, hnone, List.nil_append,
        List.filter_cons_of_pos (by decide), ← ih]
      rcases hrun with rfl | hodd
      · exact normalizeFrom_even (by decide) 0 text
      · obtain ⟨half, rfl⟩ : ∃ half, run = 2 * half + 1 := ⟨run / 2, by omega⟩
        exact normalizeFrom_odd_quote half text

end EscapesQuotes

theorem filter_embedChars (text : List Char) :
    (embedChars text).filter (· ≠ '\\') = text.filter (· ≠ '\\') := by
  induction text with
  | nil => rfl
  | cons c text ih =>
      rw [embedChars, List.flatMap_cons, ← embedChars, List.filter_append, ih, embedChar]
      split_ifs with hc
      · rcases hc with rfl | rfl <;> simp
      · rw [not_or] at hc
        simp [hc.2]

theorem filter_iterate_embedChars (depth : Nat) (text : List Char) :
    (embedChars^[depth] text).filter (· ≠ '\\') = text.filter (· ≠ '\\') := by
  induction depth with
  | zero => rfl
  | succ depth ih => rw [Function.iterate_succ_apply', filter_embedChars, ih]

theorem normalizeQuotes_iterate_embedChars {text : List Char} (h : EscapesQuotes text)
    (depth : Nat) : normalizeQuotes (embedChars^[depth] text) = normalizeQuotes text := by
  rw [(h.iterate_embedChars depth).normalizeQuotes_eq, h.normalizeQuotes_eq,
    filter_iterate_embedChars]

/-! ### Trimming -/

theorem trim_embedChars (text : List Char) :
    Text.trim (embedChars text) = embedChars (Text.trim text) := by
  have hchar : ∀ c, embedChar c = [c] ∨ (embedChar c = ['\\', c] ∧ Text.isBlank c = false) := by
    intro c
    rw [embedChar]
    split_ifs with hc
    · exact .inr ⟨rfl, by rcases hc with rfl | rfl <;> decide⟩
    · exact .inl rfl
  refine Text.trim_flatMap ?_ ?_ ?_ text
  · intro c hblank
    rcases hchar c with h | ⟨-, h⟩
    · exact h
    · rw [hblank] at h
      cases h
  · intro c hc
    rcases hchar c with h | ⟨h, -⟩
    · exact ⟨c, [], h, hc⟩
    · exact ⟨'\\', [c], h, by decide⟩
  · intro c hc
    rcases hchar c with h | ⟨h, -⟩
    · exact ⟨c, [], by rw [h]; rfl, hc⟩
    · exact ⟨c, ['\\'], by rw [h]; rfl, hc⟩

/-- What is read from a text does not depend on how deep it was embedded. -/
theorem parse?_iterate_embed {text : String} (h : EscapesQuotes (Text.trim text.toList))
    (depth : Nat) : parse? (embed^[depth] text) = parse? text := by
  have hchars : (embed^[depth] text).toList = embedChars^[depth] text.toList :=
    Function.Semiconj.iterate_right (fun _ => String.toList_ofList) depth text
  have htrim : Text.trim (embedChars^[depth] text.toList) =
      embedChars^[depth] (Text.trim text.toList) :=
    Function.Semiconj.iterate_right trim_embedChars depth text.toList
  rw [parse?, hchars, htrim, normalizeQuotes_iterate_embedChars h, parse?]

/-! ### The expressions of clean locators -/

/-- Without control characters a quoted text is the text embedded once, between its quotes. -/
theorem quoteChars_eq_embedChars {text : List Char} (h : ∀ c ∈ text, 32 ≤ c.toNat) :
    quoteChars text = '"' :: embedChars text ++ ['"'] := by
  have hchar : ∀ c ∈ text, escapeChar c = embedChar c := by
    intro c hc
    have hcontrol := h c hc
    by_cases hquote : c = '"'
    · subst hquote
      rfl
    by_cases hslash : c = '\\'
    · subst hslash
      rfl
    have hnamed : c ≠ '\n' ∧ c ≠ '\r' ∧ c ≠ '\t' := by
      refine ⟨?_, ?_, ?_⟩ <;> rintro rfl <;> exact absurd hcontrol (by decide)
    have hlow : c.toNat ≠ 8 ∧ c.toNat ≠ 12 ∧ ¬c.toNat < 32 := by omega
    simp [escapeChar, embedChar, hquote, hslash, hnamed, hlow]
  rw [quoteChars, embedChars, List.flatMap_congr hchar]

theorem IsClean.escapesQuotes {text : List Char} (h : IsClean text) : EscapesQuotes text :=
  .of_slash_not_mem h.slash_not_mem

theorem IsClean.escapesQuotes_quoteChars {text : List Char} (h : IsClean text) :
    EscapesQuotes (quoteChars text) := by
  have hquote : EscapesQuotes ['"'] := .of_slash_not_mem (by decide)
  rw [quoteChars_eq_embedChars fun c hc => (h c hc).2]
  exact (hquote.append h.escapesQuotes.embedChars).append hquote

theorem IsClean.escapesQuotes_call {function : List Char} (hfunction : '\\' ∉ function)
    {argument : List Char} (h : IsClean argument) : EscapesQuotes (call function argument) := by
  have hlead : EscapesQuotes (function ++ ['(']) := .of_slash_not_mem (by simp [hfunction])
  have hclosing : EscapesQuotes [')'] := .of_slash_not_mem (by decide)
  have hcall : call function argument = function ++ ['('] ++ (quoteChars argument ++ [')']) := by
    simp [call]
  rw [hcall]
  exact hlead.append (h.escapesQuotes_quoteChars.append hclosing)

theorem isClean_attributeSelector {name : List Char} (hname : name ∈ attributeNames)
    {value : List Char} (h : IsClean value) : IsClean (attributeSelector name value) := by
  have hnames : ∀ name ∈ attributeNames, IsClean ('[' :: name ++ ['=', '"']) := by decide
  exact ((hnames name hname).append h).append (by decide)

theorem escapesQuotes_trim_role {r n : String} (hrole : IsClean r.toList)
    (hname : IsClean n.toList) : EscapesQuotes (Text.trim (expressionChars (role r n))) := by
  have hplain : ∀ {text : List Char}, '\\' ∉ text → EscapesQuotes text := .of_slash_not_mem
  rw [trim_expressionChars_role, expressionChars_role]
  exact ((((hplain (by decide)).append hrole.escapesQuotes_quoteChars).append
    (hplain (by decide))).append hname.escapesQuotes_quoteChars).append (hplain (by decide))

theorem escapesQuotes_trim_expression {l : Locator} (h : l.HasCleanTexts) :
    EscapesQuotes (Text.trim l.expressionChars) := by
  have hcall : ∀ {function argument : List Char},
      (∃ c name, function = c :: name ∧ Text.isBlank c = false) → '\\' ∉ function →
      IsClean argument → EscapesQuotes (Text.trim (call function argument)) := by
    intro function argument hname hslash hargument
    rw [trim_call hname]
    exact hargument.escapesQuotes_call hslash
  have hlocator : ∀ {argument : List Char}, IsClean argument →
      EscapesQuotes (Text.trim (call "locator".toList argument)) :=
    hcall ⟨_, _, rfl, by decide⟩ (by decide)
  cases l with
  | page => exact .of_slash_not_mem (by decide)
  | unrecognized t =>
      exact .of_slash_not_mem fun hmem =>
        (h t (.head _)).slash_not_mem (Text.mem_of_mem_trim hmem)
  | role r n => exact escapesQuotes_trim_role (h r (.head _)) (h n (.tail _ (.head _)))
  | testId v | label v | placeholder v | text v =>
      exact hcall ⟨_, _, rfl, by decide⟩ (by decide) (h v (.head _))
  | dataTest v | dataCy v | name v =>
      exact hlocator (isClean_attributeSelector (by decide) (h v (.head _)))
  | id v =>
      rw [expressionChars_id]
      split
      · exact hlocator (@IsClean.append ['#'] _ (by decide) (h v (.head _)))
      · exact hlocator (isClean_attributeSelector (by decide) (h v (.head _)))
  | css v => exact hlocator (h v (.head _))
  | xpath v => exact hlocator (IsClean.append (by decide) (h v (.head _)))

/-- However often the expression of a locator is quoted, it is read as the expression itself is,
when the texts of the locator hold no backslash and no control character. -/
theorem parse?_embedded_expression {l : Locator} (h : l.HasCleanTexts) (depth : Nat) :
    parse? (embed^[depth] l.expression) = parse? l.expression := by
  apply parse?_iterate_embed
  rw [expression, String.toList_ofList]
  exact escapesQuotes_trim_expression h

/-- Both sorts of quotes, three times embedded. -/
theorem parse?_embedded_label :
    (label "say \"it's\"").HasCleanTexts ∧
      parse? (embed^[3] (label "say \"it's\"").expression) = some (label "say \"it's\"") := by
  have hclean : (label "say \"it's\"").HasCleanTexts := by decide
  exact ⟨hclean, (parse?_embedded_expression hclean 3).trans (by decide +kernel)⟩

end BrowserFlow.Locator
