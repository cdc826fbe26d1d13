import BrowserFlow.Proofs.Locator.Quoted
import BrowserFlow.Proofs.Text.Affix
import BrowserFlow.Proofs.Text.Trim
import Mathlib.Data.List.TakeWhile

/-!
# Calls read back

A call that holds one quoted text is read by the reader of its function alone, and its argument is
the text between the outer quotes, whatever quotes and brackets the text itself holds.
-/

namespace BrowserFlow.Locator

open Json (quoteChars)

/-- A quoted text with its quotes normalized, between its outer quotes. -/
def normalizedBody (text : List Char) : List Char := (dropSlashes text).flatMap softEscape

theorem unescape_normalizedBody (text : List Char) : unescape (normalizedBody text) = reread text :=
  unescape_flatMap_softEscape _

theorem feed_not_mem_softEscape (c : Char) : '\n' ∉ softEscape c := by
  by_cases hquote : c = '"'
  · subst hquote
    decide
  have hsoft : softEscape c = Json.escapeChar c := if_neg hquote
  rw [hsoft]
  rcases escapeChar_cases c with rfl | rfl | ⟨-, d, hc, hd, -⟩ | ⟨-, d, letters, hc, hletters, -⟩ |
    ⟨-, hc, hlow, -⟩
  · exact absurd rfl hquote
  · decide
  · simpa [hc] using hd.ne_feed.symm
  · rw [hc, List.mem_cons, not_or]
    exact ⟨by decide, fun hmem => (hletters _ hmem).ne_feed rfl⟩
  · rw [hc, List.mem_singleton]
    rintro rfl
    exact absurd hlow (by decide)

theorem feed_not_mem_normalizedBody (text : List Char) : '\n' ∉ normalizedBody text := by
  rw [normalizedBody, List.mem_flatMap]
  rintro ⟨c, -, hc⟩
  exact feed_not_mem_softEscape c hc

/-! ### The closing of a call -/

theorem skipBlank_cons {c : Char} (h : Text.isBlank c = false) (text : List Char) :
    skipBlank (c :: text) = c :: text :=
  Text.trimLeft_cons h text

theorem quotedBefore?_paren {body : List Char} (h : '\n' ∉ body) :
    quotedBefore? [')'] (body ++ ['"', ')']) = some body := by
  have hquote := skipBlank_cons (c := '"') (by decide) body.reverse
  simp [quotedBefore?, hquote, afterQuote?, isQuote, h]

theorem quotedBefore?_brace {body : List Char} (h : '\n' ∉ body) :
    quotedBefore? ['\x7d', ')'] (body ++ ['"', ' ', '\x7d', ')']) = some body := by
  have hblank : skipBlank (' ' :: '"' :: body.reverse) = skipBlank ('"' :: body.reverse) := rfl
  have hquote := skipBlank_cons (c := '"') (by decide) body.reverse
  have hbrace := skipBlank_cons (c := '\x7d') (by decide) (' ' :: '"' :: body.reverse)
  simp [quotedBefore?, hbrace, hblank, hquote, afterQuote?, isQuote, h]

theorem argument?_quoted (function : List Char) {body : List Char} (h : '\n' ∉ body) :
    argument? function (function ++ '(' :: '"' :: (body ++ ['"', ')'])) = some body := by
  have hcall : function ++ '(' :: '"' :: (body ++ ['"', ')']) =
      (function ++ ['(']) ++ '"' :: (body ++ ['"', ')']) := by simp
  have hquote := skipBlank_cons (c := '"') (by decide) (body ++ ['"', ')'])
  rw [hcall, argument?, Text.after?_append]
  simp [hquote, afterQuote?, isQuote, quotedBefore?_paren h]

/-! ### The readers of the functions -/

theorem ofNormalized?_eq_or {text : List Char} (h : text ≠ "page".toList) :
    ofNormalized? text =
      (valueCall? "getByTestId" testId text).or ((roleCall? text).or
        ((valueCall? "getByLabel" label text).or
          ((valueCall? "getByPlaceholder" placeholder text).or
            ((valueCall? "getByText" Locator.text text).or (locatorCall? text))))) := by
  rw [ofNormalized?, if_neg h]
  simp only [Option.orElse_eq_orElse, Option.orElse_eq_or]

def readers : List (String × (List Char → Option Locator)) :=
  [("getByTestId", valueCall? "getByTestId" testId),
    ("getByRole", roleCall?),
    ("getByLabel", valueCall? "getByLabel" label),
    ("getByPlaceholder", valueCall? "getByPlaceholder" placeholder),
    ("getByText", valueCall? "getByText" Locator.text),
    ("locator", locatorCall?)]

theorem roleCall?_mem_readers : ("getByRole", roleCall?) ∈ readers := .tail _ (.head _)

theorem locatorCall?_mem_readers : ("locator", locatorCall?) ∈ readers :=
  .tail _ (.tail _ (.tail _ (.tail _ (.tail _ (.head _)))))

/-- The readers before and after that of a function turn down its calls. -/
theorem ofNormalized?_of_reader {function : String} {read : List Char → Option Locator}
    (h : (function, read) ∈ readers) (rest : List Char) :
    ofNormalized? (function.toList ++ '(' :: rest) = read (function.toList ++ '(' :: rest) := by
  simp only [readers, List.mem_cons, List.not_mem_nil, or_false, Prod.mk.injEq] at h
  rcases h with ⟨rfl, rfl⟩ | ⟨rfl, rfl⟩ | ⟨rfl, rfl⟩ | ⟨rfl, rfl⟩ | ⟨rfl, rfl⟩ | ⟨rfl, rfl⟩
  all_goals rw [ofNormalized?_eq_or fun heq => by cases heq]
  · exact Option.or_none
  · exact Option.or_none
  · exact Option.or_none
  · exact Option.or_none
  · exact Option.or_none
  · rfl

/-! ### Printed calls -/

theorem normalizeQuotes_call {function : List Char} (h : '\\' ∉ function) (text : List Char) :
    normalizeQuotes (call function text) =
      function ++ '(' :: '"' :: (normalizedBody text ++ ['"', ')']) := by
  have hlead : '\\' ∉ function ++ ['('] := by simp [h]
  have hcall : call function text = (function ++ ['(']) ++ (quoteChars text ++ [')']) := by
    simp [call]
  rw [hcall, normalizeQuotes_append hlead, normalizeQuotes_quoteChars,
    @normalizeQuotes_eq_self [')'] (by decide)]
  simp [normalizedBody]

theorem trim_call {function : List Char}
    (h : ∃ c name, function = c :: name ∧ Text.isBlank c = false)
    (text : List Char) : Text.trim (call function text) = call function text := by
  obtain ⟨c, name, rfl, hc⟩ := h
  exact Text.trim_eq_self hc (by decide) (name ++ '(' :: quoteChars text)

theorem parse?_call {function : String} {read : List Char → Option Locator}
    (h : (function, read) ∈ readers) (text : List Char) :
    parse? (String.ofList (call function.toList text)) =
      read (function.toList ++ '(' :: '"' :: (normalizedBody text ++ ['"', ')'])) := by
  have hname : (∃ c name, function.toList = c :: name ∧ Text.isBlank c = false) ∧
      '\\' ∉ function.toList := by
    simp only [readers, List.mem_cons, List.not_mem_nil, or_false, Prod.mk.injEq] at h
    rcases h with ⟨rfl, -⟩ | ⟨rfl, -⟩ | ⟨rfl, -⟩ | ⟨rfl, -⟩ | ⟨rfl, -⟩ | ⟨rfl, -⟩
    all_goals exact ⟨⟨_, _, rfl, by decide⟩, by decide⟩
  rw [parse?, String.toList_ofList, trim_call hname.1, normalizeQuotes_call hname.2,
    ofNormalized?_of_reader h]

theorem parse?_value {function : String} {make : String → Locator}
    (h : (function, valueCall? function make) ∈ readers) (text : List Char) :
    parse? (String.ofList (call function.toList text)) =
      some (make (String.ofList (reread text))) := by
  rw [parse?_call h, valueCall?, argument?_quoted _ (feed_not_mem_normalizedBody text),
    Option.map_some, unescape_normalizedBody]

theorem parse?_locator (text : List Char) :
    parse? (String.ofList (call "locator".toList text)) = some (ofArgument (reread text)) := by
  rw [parse?_call locatorCall?_mem_readers, locatorCall?,
    argument?_quoted _ (feed_not_mem_normalizedBody text), Option.map_some, unescape_normalizedBody]

/-! ### Roles -/

/-- What a role call looks like with its quotes normalized. -/
def roleBody (role name : List Char) : List Char :=
  '"' :: (role ++ '"' :: ", \x7b name: \"".toList ++ name ++ ['"', ' ', '\x7d', ')'])

theorem expressionChars_role (r n : String) :
    expressionChars (role r n) =
      "getByRole(".toList ++ quoteChars r.toList ++ ", \x7b name: ".toList ++
        quoteChars n.toList ++ " \x7d)".toList := rfl

theorem trim_expressionChars_role (r n : String) :
    Text.trim (expressionChars (role r n)) = expressionChars (role r n) := by
  have hends : expressionChars (role r n) =
      'g' :: (("etByRole(".toList ++ quoteChars r.toList ++ ", \x7b name: ".toList ++
        quoteChars n.toList ++ " \x7d".toList) ++ [')']) := by
    have hclosing : " \x7d)".toList = " \x7d".toList ++ [')'] := rfl
    rw [expressionChars_role, hclosing, ← List.append_assoc]
    rfl
  rw [hends, Text.trim_eq_self (by decide) (by decide)]

theorem parse?_role (r n : String) :
    parse? (role r n).expression =
      roleCall? ("getByRole".toList ++ '(' ::
        roleBody (normalizedBody r.toList) (normalizedBody n.toList)) := by
  have hassoc : expressionChars (role r n) =
      "getByRole(".toList ++ (quoteChars r.toList ++ (", \x7b name: ".toList ++
        (quoteChars n.toList ++ " \x7d)".toList))) := by
    rw [expressionChars_role, List.append_assoc, List.append_assoc, List.append_assoc]
  have hnormal : normalizeQuotes (expressionChars (role r n)) =
      "getByRole".toList ++ '(' ::
        roleBody (normalizedBody r.toList) (normalizedBody n.toList) := by
    rw [hassoc, normalizeQuotes_append (by decide), normalizeQuotes_quoteChars,
      normalizeQuotes_append (by decide), normalizeQuotes_quoteChars,
      @normalizeQuotes_eq_self " \x7d)".toList (by decide)]
    simp [roleBody, normalizedBody]
  rw [parse?, expression, String.toList_ofList, trim_expressionChars_role, hnormal,
    ofNormalized?_of_reader roleCall?_mem_readers]

theorem afterQuote?_quote (text : List Char) : afterQuote? ('"' :: text) = some text := rfl

theorem roleArguments?_roleBody {role name : List Char} (hrole : role ≠ [])
    (hquote : ∀ c ∈ role, isQuote c = false) (hname : '\n' ∉ name) :
    roleArguments? ("getByRole".toList ++ '(' :: roleBody role name) = some (role, name) := by
  have hcall : "getByRole".toList ++ '(' :: roleBody role name =
      "getByRole(".toList ++ roleBody role name := rfl
  have hbody : roleBody role name =
      '"' :: (role ++ '"' :: ([','] ++ ' ' :: (['\x7b'] ++ ' ' :: ("name:".toList ++
        ' ' :: '"' :: (name ++ ['"', ' ', '\x7d', ')']))))) := by
    simp [roleBody]
  have hpos : ∀ c ∈ role, (!isQuote c) = true := fun c hc => by simp [hquote c hc]
  have hquoted : ∀ text, skipBlank ('"' :: text) = '"' :: text := skipBlank_cons (by decide)
  have hcomma : ∀ text, skipBlank ([','] ++ text) = [','] ++ text := skipBlank_cons (by decide)
  have hbrace : ∀ text, skipBlank (' ' :: (['\x7b'] ++ text)) = ['\x7b'] ++ text :=
    skipBlank_cons (c := '\x7b') (by decide)
  have hlabel : ∀ text, skipBlank (' ' :: ("name:".toList ++ text)) = "name:".toList ++ text :=
    fun text => skipBlank_cons (c := 'n') (by decide) ("ame:".toList ++ text)
  have hblank : ∀ text, skipBlank (' ' :: '"' :: text) = '"' :: text := hquoted
  rw [hcall, roleArguments?, Text.after?_append, hbody]
  simp only [Option.bind_eq_bind, Option.bind_some, hquoted, afterQuote?_quote]
  rw [List.takeWhile_append_of_pos hpos, List.dropWhile_append_of_pos hpos,
    List.takeWhile_cons_of_neg (by decide), List.dropWhile_cons_of_neg (by decide)]
  simp only [List.append_nil, List.isEmpty_iff, hrole, if_false, Option.bind_some,
    afterQuote?_quote, hcomma, hbrace, hlabel, hblank, Text.after?_append,
    quotedBefore?_brace hname]
  rfl

theorem unescape_ne_nil {text : List Char} (h : text ≠ []) : unescape text ≠ [] := by
  fun_cases unescape text <;> simp_all

theorem isQuote_unescape {text : List Char} (h : ∀ c ∈ text, isQuote c = false) :
    ∀ c ∈ unescape text, isQuote c = false := by
  fun_induction unescape text with
  | case1 => exact h
  | case2 => exact h
  | case3 c rest ih =>
      simp only [List.mem_cons, forall_eq_or_imp] at h ⊢
      refine ⟨?_, ih h.2.2⟩
      rw [unescapeChar]
      split_ifs
      · decide
      · decide
      · decide
      · exact h.2.1
  | case4 c rest _ _ ih =>
      simp only [List.mem_cons, forall_eq_or_imp] at h ⊢
      exact ⟨h.1, ih h.2⟩

theorem role_of_roleArguments? {text role name : List Char}
    (h : roleArguments? text = some (role, name)) :
    role ≠ [] ∧ ∀ c ∈ role, isQuote c = false := by
  simp only [roleArguments?, Option.bind_eq_bind, Option.bind_eq_some_iff] at h
  obtain ⟨rest, -, quoted, -, h⟩ := h
  by_cases hempty : (quoted.takeWhile (!isQuote ·)).isEmpty
  · simp [hempty] at h
  · simp only [hempty, Bool.false_eq_true, if_false, Option.bind_eq_some_iff] at h
    obtain ⟨_, -, _, -, _, -, _, -, _, -, _, -, hpair⟩ := h
    simp only [Option.pure_def, Option.some.injEq, Prod.mk.injEq] at hpair
    obtain ⟨rfl, -⟩ := hpair
    refine ⟨by simpa using hempty, ?_⟩
    intro c hc
    simpa using List.mem_takeWhile_imp hc

theorem role_of_roleCall? {text : List Char} {l : Locator} (h : roleCall? text = some l) :
    ∃ r n, l = role r n ∧ r.toList ≠ [] ∧ ∀ c ∈ r.toList, isQuote c = false := by
  rw [roleCall?, Option.map_eq_some_iff] at h
  obtain ⟨⟨r, n⟩, harguments, rfl⟩ := h
  obtain ⟨hrole, hquote⟩ := role_of_roleArguments? harguments
  refine ⟨_, _, rfl, ?_, ?_⟩
  · rw [String.toList_ofList]
    exact unescape_ne_nil hrole
  · rw [String.toList_ofList]
    exact isQuote_unescape hquote

/-- Everything that an expression can stand for. -/
theorem parse?_cases {expression : String} {l : Locator} (h : parse? expression = some l) :
    l = page ∨ (∃ v, l = testId v ∨ l = label v ∨ l = placeholder v ∨ l = Locator.text v) ∨
      (∃ r n, l = role r n ∧ r.toList ≠ [] ∧ ∀ c ∈ r.toList, isQuote c = false) ∨
      ∃ argument, l = ofArgument argument := by
  have hvalue : ∀ {function : String} {make : String → Locator} {text : List Char},
      valueCall? function make text = some l → ∃ v, l = make v := by
    intro function make text hcall
    obtain ⟨v, -, rfl⟩ := Option.map_eq_some_iff.mp hcall
    exact ⟨_, rfl⟩
  rw [parse?] at h
  generalize normalizeQuotes (Text.trim expression.toList) = text at h
  by_cases hpage : text = "page".toList
  · rw [ofNormalized?, if_pos hpage] at h
    exact .inl (Option.some.inj h).symm
  · rw [ofNormalized?_eq_or hpage] at h
    simp only [Option.or_eq_some_iff] at h
    rcases h with h | ⟨-, h | ⟨-, h | ⟨-, h | ⟨-, h | ⟨-, h⟩⟩⟩⟩⟩
    · obtain ⟨v, hv⟩ := hvalue h
      exact .inr (.inl ⟨v, .inl hv⟩)
    · exact .inr (.inr (.inl (role_of_roleCall? h)))
    · obtain ⟨v, hv⟩ := hvalue h
      exact .inr (.inl ⟨v, .inr (.inl hv)⟩)
    · obtain ⟨v, hv⟩ := hvalue h
      exact .inr (.inl ⟨v, .inr (.inr (.inl hv))⟩)
    · obtain ⟨v, hv⟩ := hvalue h
      exact .inr (.inl ⟨v, .inr (.inr (.inr hv))⟩)
    · obtain ⟨v, -, hv⟩ := Option.map_eq_some_iff.mp h
      exact .inr (.inr (.inr ⟨_, hv.symm⟩))

end BrowserFlow.Locator
