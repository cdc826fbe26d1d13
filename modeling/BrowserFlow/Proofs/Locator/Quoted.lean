import BrowserFlow.Locator.Parse
import Mathlib.Data.List.Infix

/-!
# Quoted text read back

An expression holds its texts as JSON strings. Reading it first drops the odd runs of backslashes
before quotes and then undoes the escapes that are left. Doubling the backslashes of a text makes
all runs even, and a double quote adds one more: so of a quoted text exactly the backslashes
directly before a double quote are lost. Of the control characters only tab, line feed and carriage
return come back from their escapes.
-/

namespace BrowserFlow.Locator

open Json (escapeChar quoteChars)

/-- A control character other than tab, line feed and carriage return. -/
def isRareControl (c : Char) : Bool := c.toNat < 32 && c != '\t' && c != '\n' && c != '\r'

/-- A backslash is dropped when the run of backslashes that it belongs to ends at a double quote. -/
def dropSlashes : List Char → List Char
  | [] => []
  | c :: rest =>
      if c = '\\' ∧ (rest.dropWhile (· = '\\')).head? = some '"' then dropSlashes rest
      else c :: dropSlashes rest

/-- An escape with its quote normalized. -/
def softEscape (c : Char) : List Char := if c = '"' then ['"'] else escapeChar c

/-- A rare control character comes back as the letters of its escape. -/
def rereadChar (c : Char) : List Char := if isRareControl c then (escapeChar c).tail else [c]

def reread (text : List Char) : List Char := (dropSlashes text).flatMap rereadChar

/-! ### One character -/

/-- What stands in an escape after the backslash, quotes and backslashes apart. -/
def IsLetter (c : Char) : Prop := 32 ≤ c.toNat ∧ isQuote c = false ∧ c ≠ '\\'

instance (c : Char) : Decidable (IsLetter c) := inferInstanceAs (Decidable (_ ∧ _ ∧ _))

theorem isLetter_digitChar : ∀ n < 16, IsLetter (Nat.digitChar n) := by decide

theorem IsLetter.not_rare {c : Char} (h : IsLetter c) : isRareControl c = false := by
  simp [isRareControl, Nat.not_lt.mpr h.1]

theorem IsLetter.ne_feed {c : Char} (h : IsLetter c) : c ≠ '\n' := by
  rintro rfl
  exact absurd h.1 (by decide)

theorem escapeChar_cases (c : Char) :
    c = '"' ∨ c = '\\' ∨
      (isRareControl c = false ∧ ∃ d, escapeChar c = ['\\', d] ∧ IsLetter d ∧ unescapeChar d = c) ∨
      (isRareControl c = true ∧ ∃ d letters, escapeChar c = '\\' :: d :: letters ∧
        (∀ e ∈ d :: letters, IsLetter e) ∧ unescapeChar d = d) ∨
      (isRareControl c = false ∧ escapeChar c = [c] ∧ 32 ≤ c.toNat ∧ c ≠ '\\' ∧ c ≠ '"') := by
  by_cases hquote : c = '"'
  · exact .inl hquote
  by_cases hslash : c = '\\'
  · exact .inr (.inl hslash)
  refine .inr (.inr ?_)
  by_cases hfeed : c = '\n'
  · subst hfeed
    exact .inl ⟨by decide, 'n', by decide, by decide, by decide⟩
  by_cases hreturn : c = '\r'
  · subst hreturn
    exact .inl ⟨by decide, 'r', by decide, by decide, by decide⟩
  by_cases htab : c = '\t'
  · subst htab
    exact .inl ⟨by decide, 't', by decide, by decide, by decide⟩
  by_cases hcontrol : c.toNat < 32
  · have hrare : isRareControl c = true := by simp [isRareControl, hcontrol, hfeed, hreturn, htab]
    refine .inr (.inl ⟨hrare, ?_⟩)
    by_cases hback : c.toNat = 8
    · refine ⟨'b', [], ?_, List.forall_mem_singleton.mpr (by decide), by decide⟩
      simp [escapeChar, hquote, hslash, hfeed, hreturn, htab, hback]
    by_cases hform : c.toNat = 12
    · refine ⟨'f', [], ?_, List.forall_mem_singleton.mpr (by decide), by decide⟩
      simp [escapeChar, hquote, hslash, hfeed, hreturn, htab, hform]
    refine ⟨'u', ['0', '0', Nat.digitChar (c.toNat / 16), Nat.digitChar (c.toNat % 16)], ?_, ?_,
      by decide⟩
    · simp [escapeChar, Json.hexDigit, hquote, hslash, hfeed, hreturn, htab, hback, hform, hcontrol]
    · have hhigh := isLetter_digitChar (c.toNat / 16) (by omega)
      have hlow := isLetter_digitChar (c.toNat % 16) (by omega)
      simp only [List.mem_cons, List.not_mem_nil, or_false]
      rintro e (rfl | rfl | rfl | rfl | rfl)
      · decide
      · decide
      · decide
      · exact hhigh
      · exact hlow
  · refine .inr (.inr ⟨by simp [isRareControl, hcontrol], ?_, by omega, hslash, hquote⟩)
    have hback : c.toNat ≠ 8 := by omega
    have hform : c.toNat ≠ 12 := by omega
    simp [escapeChar, hquote, hslash, hfeed, hreturn, htab, hback, hform, hcontrol]

theorem isRareControl_mem_rereadChar {c d : Char} (h : d ∈ rereadChar c) :
    isRareControl d = false := by
  rw [rereadChar] at h
  split at h
  · next hrare =>
      rcases escapeChar_cases c with rfl | rfl | ⟨hc, -⟩ | ⟨-, e, letters, hc, hletters, -⟩ |
        ⟨hc, -⟩
      · exact absurd hrare (by decide)
      · exact absurd hrare (by decide)
      · simp [hc] at hrare
      · rw [hc] at h
        exact (hletters d h).not_rare
      · simp [hc] at hrare
  · next hrare => simpa [List.mem_singleton.mp h] using hrare

/-! ### Normalizing -/

theorem normalizeFrom_letter {c : Char} (h : IsLetter c) (pending : Nat) (text : List Char) :
    normalizeFrom pending (c :: text) =
      List.replicate pending '\\' ++ c :: normalizeFrom 0 text := by
  rw [normalizeFrom, if_neg h.2.2, if_neg (by simp [h.2.1])]

theorem normalizeFrom_letters {letters : List Char} (h : ∀ c ∈ letters, IsLetter c)
    (text : List Char) : normalizeFrom 0 (letters ++ text) = letters ++ normalizeFrom 0 text := by
  induction letters with
  | nil => rfl
  | cons c letters ih =>
      rw [List.cons_append, normalizeFrom_letter (h c List.mem_cons_self),
        ih fun d hd => h d (List.mem_cons_of_mem _ hd)]
      rfl

theorem normalizeFrom_even {c : Char} (hc : c ≠ '\\') (n : Nat) (text : List Char) :
    normalizeFrom (2 * n) (c :: text) =
      List.replicate (2 * n) '\\' ++ c :: normalizeFrom 0 text := by
  rw [normalizeFrom, if_neg hc, if_neg (by simp)]

theorem normalizeFrom_odd_quote (n : Nat) (text : List Char) :
    normalizeFrom (2 * n + 1) ('"' :: text) = '"' :: normalizeFrom 0 text := by
  rw [normalizeFrom, if_neg (by decide), if_pos]
  have hodd : (2 * n + 1) % 2 = 1 := by omega
  simp [hodd, isQuote]

/-! ### Runs of backslashes -/

theorem dropWhile_slashes (n : Nat) (text : List Char) :
    (List.replicate n '\\' ++ text).dropWhile (· = '\\') = text.dropWhile (· = '\\') :=
  List.dropWhile_append_of_pos fun c hc => by simp [List.eq_of_mem_replicate hc]

theorem dropSlashes_cons {c : Char} (h : c ≠ '\\') (text : List Char) :
    dropSlashes (c :: text) = c :: dropSlashes text := by
  rw [dropSlashes, if_neg fun hc => h hc.1]

theorem dropSlashes_run_quote (n : Nat) (text : List Char) :
    dropSlashes (List.replicate n '\\' ++ '"' :: text) = '"' :: dropSlashes text := by
  induction n with
  | zero => exact dropSlashes_cons (by decide) text
  | succ n ih =>
      rw [List.replicate_succ, List.cons_append, dropSlashes, if_pos, ih]
      rw [dropWhile_slashes]
      exact ⟨rfl, rfl⟩

theorem dropSlashes_run {text : List Char} (h : text.head? ≠ some '\\') (h' : text.head? ≠ some '"')
    (n : Nat) :
    dropSlashes (List.replicate n '\\' ++ text) = List.replicate n '\\' ++ dropSlashes text := by
  induction n with
  | zero => rfl
  | succ n ih =>
      have hdrop : text.dropWhile (· = '\\') = text := by
        cases text with
        | nil => rfl
        | cons c text => exact List.dropWhile_cons_of_neg (by simpa using h)
      rw [List.replicate_succ, List.cons_append, dropSlashes, if_neg, ih]
      · rfl
      · rw [dropWhile_slashes, hdrop]
        exact fun hquote => h' hquote.2

/-- Escapes that double a backslash double a run of them. -/
theorem flatMap_slashes {escape : Char → List Char} (h : escape '\\' = ['\\', '\\']) (n : Nat) :
    (List.replicate n '\\').flatMap escape = List.replicate (2 * n) '\\' := by
  have hpair : escape '\\' = List.replicate 2 '\\' := h
  rw [List.flatMap_replicate, hpair, List.flatten_replicate_replicate, Nat.mul_comm]

/-- An escape that stands for neither a quote nor a backslash is left as it is, and so are the
backslashes before it. -/
theorem normalizeFrom_escapeChar {c : Char} (hquote : c ≠ '"') (hslash : c ≠ '\\') (n : Nat)
    (text : List Char) :
    normalizeFrom (2 * n) (escapeChar c ++ text) =
      List.replicate (2 * n) '\\' ++ (escapeChar c ++ normalizeFrom 0 text) := by
  have hescape : ∀ d letters, (∀ e ∈ d :: letters, IsLetter e) →
      normalizeFrom (2 * n) ('\\' :: d :: letters ++ text) =
        List.replicate (2 * n) '\\' ++ ('\\' :: d :: letters ++ normalizeFrom 0 text) := by
    intro d letters hletters
    have hrest : ∀ e ∈ letters, IsLetter e := fun e he => hletters e (List.mem_cons_of_mem _ he)
    rw [List.cons_append, List.cons_append, normalizeFrom, if_pos rfl,
      normalizeFrom_letter (hletters d List.mem_cons_self), normalizeFrom_letters hrest,
      List.replicate_succ']
    simp
  rcases escapeChar_cases c with rfl | rfl | ⟨-, d, hc, hd, -⟩ | ⟨-, d, letters, hc, hletters, -⟩ |
    ⟨-, hc, -⟩
  · exact absurd rfl hquote
  · exact absurd rfl hslash
  · rw [hc]
    exact hescape d [] (by simpa using hd)
  · rw [hc]
    exact hescape d letters hletters
  · rw [hc]
    exact normalizeFrom_even hslash n text

/-- After `2 * n` backslashes, which stand for `n`, an escaped text up to the quote that ends it. -/
theorem normalizeFrom_escaped (n : Nat) (text tail : List Char) :
    normalizeFrom (2 * n) (text.flatMap escapeChar ++ '"' :: tail) =
      (dropSlashes (List.replicate n '\\' ++ text)).flatMap softEscape ++
        '"' :: normalizeFrom 0 tail := by
  induction text generalizing n with
  | nil =>
      have hrun := @dropSlashes_run [] (by simp) (by simp) n
      rw [hrun, List.flatMap_append, flatMap_slashes rfl]
      simpa [dropSlashes] using normalizeFrom_even (by decide) n tail
  | cons c text ih =>
      have hnext : normalizeFrom 0 (text.flatMap escapeChar ++ '"' :: tail) =
          (dropSlashes text).flatMap softEscape ++ '"' :: normalizeFrom 0 tail := ih 0
      rw [List.flatMap_cons, List.append_assoc]
      by_cases hslash : c = '\\'
      · subst hslash
        have hrun : List.replicate n '\\' ++ '\\' :: text =
            List.replicate (n + 1) '\\' ++ text := by
          rw [List.replicate_succ', List.append_assoc, List.singleton_append]
        rw [hrun, ← ih]
        rfl
      by_cases hquote : c = '"'
      · subst hquote
        calc
          normalizeFrom (2 * n) (escapeChar '"' ++ (text.flatMap escapeChar ++ '"' :: tail)) =
              '"' :: normalizeFrom 0 (text.flatMap escapeChar ++ '"' :: tail) :=
            normalizeFrom_odd_quote n _
          _ = '"' :: ((dropSlashes text).flatMap softEscape ++ '"' :: normalizeFrom 0 tail) := by
            rw [hnext]
          _ = (dropSlashes (List.replicate n '\\' ++ '"' :: text)).flatMap softEscape ++
              '"' :: normalizeFrom 0 tail := by
            rw [dropSlashes_run_quote]
            rfl
      · have hrun : dropSlashes (List.replicate n '\\' ++ c :: text) =
            List.replicate n '\\' ++ c :: dropSlashes text := by
          rw [dropSlashes_run (by simpa using hslash) (by simpa using hquote),
            dropSlashes_cons hslash]
        have hsoft : softEscape c = escapeChar c := if_neg hquote
        calc
          normalizeFrom (2 * n) (escapeChar c ++ (text.flatMap escapeChar ++ '"' :: tail)) =
              List.replicate (2 * n) '\\' ++ (escapeChar c ++
                ((dropSlashes text).flatMap softEscape ++ '"' :: normalizeFrom 0 tail)) := by
            rw [normalizeFrom_escapeChar hquote hslash, hnext]
          _ = (List.replicate n '\\' ++ c :: dropSlashes text).flatMap softEscape ++
              '"' :: normalizeFrom 0 tail := by
            rw [List.flatMap_append, flatMap_slashes rfl, List.flatMap_cons, hsoft]
            simp
          _ = (dropSlashes (List.replicate n '\\' ++ c :: text)).flatMap softEscape ++
              '"' :: normalizeFrom 0 tail := by
            rw [hrun]

theorem normalizeQuotes_quoteChars (text tail : List Char) :
    normalizeQuotes (quoteChars text ++ tail) =
      '"' :: ((dropSlashes text).flatMap softEscape ++ '"' :: normalizeQuotes tail) := by
  calc
    normalizeQuotes (quoteChars text ++ tail) =
        normalizeFrom 0 ('"' :: (text.flatMap escapeChar ++ '"' :: tail)) := by
      rw [normalizeQuotes, quoteChars, List.append_assoc, List.singleton_append]
      rfl
    _ = '"' :: normalizeFrom 0 (text.flatMap escapeChar ++ '"' :: tail) :=
      normalizeFrom_even (by decide) 0 _
    _ = '"' :: ((dropSlashes text).flatMap softEscape ++ '"' :: normalizeQuotes tail) :=
      congrArg ('"' :: ·) (normalizeFrom_escaped 0 text tail)

theorem normalizeQuotes_append {lead : List Char} (h : '\\' ∉ lead) (text : List Char) :
    normalizeQuotes (lead ++ text) = lead ++ normalizeQuotes text := by
  induction lead with
  | nil => rfl
  | cons c lead ih =>
      rw [List.mem_cons, not_or] at h
      have hcons := normalizeFrom_even (Ne.symm h.1) 0 (lead ++ text)
      rw [List.cons_append, List.cons_append, ← ih h.2]
      exact hcons

theorem normalizeQuotes_eq_self {text : List Char} (h : '\\' ∉ text) :
    normalizeQuotes text = text := by
  have happend := normalizeQuotes_append h []
  rw [List.append_nil] at happend
  rw [happend]
  exact List.append_nil text

/-! ### Undoing the escapes -/

theorem unescape_cons {c : Char} (h : c ≠ '\\') (text : List Char) :
    unescape (c :: text) = c :: unescape text := by
  rw [unescape]
  · simpa using fun hc _ => h hc
  · exact fun d rest hc _ => h hc

theorem unescape_letters {letters : List Char} (h : ∀ c ∈ letters, IsLetter c) (text : List Char) :
    unescape (letters ++ text) = letters ++ unescape text := by
  induction letters with
  | nil => rfl
  | cons c letters ih =>
      rw [List.cons_append, unescape_cons (h c List.mem_cons_self).2.2,
        ih fun d hd => h d (List.mem_cons_of_mem _ hd)]
      rfl

theorem unescape_softEscape (c : Char) (text : List Char) :
    unescape (softEscape c ++ text) = rereadChar c ++ unescape text := by
  by_cases hquote : c = '"'
  · subst hquote
    exact unescape_cons (by decide) text
  have hsoft : softEscape c = escapeChar c := if_neg hquote
  rw [hsoft, rereadChar]
  rcases escapeChar_cases c with rfl | rfl | ⟨hrare, d, hc, -, hd⟩ |
    ⟨hrare, d, letters, hc, hletters, hd⟩ | ⟨hrare, hc, -, hslash, -⟩
  · exact absurd rfl hquote
  · rfl
  · rw [hc, hrare, ← hd]
    rfl
  · have hrest : ∀ e ∈ letters, IsLetter e := fun e he => hletters e (List.mem_cons_of_mem _ he)
    rw [hc, hrare, if_pos rfl]
    simp only [List.cons_append, List.tail_cons]
    rw [unescape, hd, unescape_letters hrest]
  · rw [hc, hrare]
    exact unescape_cons hslash text

theorem unescape_flatMap_softEscape (text : List Char) :
    unescape (text.flatMap softEscape) = text.flatMap rereadChar := by
  induction text with
  | nil => rfl
  | cons c text ih =>
      rw [List.flatMap_cons, unescape_softEscape, ih, List.flatMap_cons]

/-! ### The texts that come back unchanged -/

/-- No rare control character, and no backslash directly before a double quote. -/
def IsPlain (text : List Char) : Prop :=
  (∀ c ∈ text, isRareControl c = false) ∧ ¬['\\', '"'] <:+: text

theorem dropSlashes_sublist (text : List Char) : (dropSlashes text).Sublist text := by
  induction text with
  | nil => exact .slnil
  | cons c text ih =>
      rw [dropSlashes]
      split
      · exact ih.cons c
      · exact ih.cons_cons c

theorem infix_slash_quote {text : List Char}
    (h : (text.dropWhile (· = '\\')).head? = some '"') : ['\\', '"'] <:+: '\\' :: text := by
  induction text with
  | nil => simp at h
  | cons c text ih =>
      by_cases hc : c = '\\'
      · subst hc
        rw [List.dropWhile_cons_of_pos (by simp)] at h
        exact (ih h).trans (List.suffix_cons _ _).isInfix
      · rw [List.dropWhile_cons_of_neg (by simpa using hc), List.head?_cons, Option.some.injEq] at h
        subst h
        exact (List.prefix_append ['\\', '"'] text).isInfix

theorem dropSlashes_eq_self {text : List Char} (h : ¬['\\', '"'] <:+: text) :
    dropSlashes text = text := by
  induction text with
  | nil => rfl
  | cons c text ih =>
      rw [dropSlashes, if_neg, ih fun hrest => h (hrest.trans (List.suffix_cons _ _).isInfix)]
      rintro ⟨rfl, hquote⟩
      exact h (infix_slash_quote hquote)

theorem length_dropSlashes_lt {text : List Char} (h : ['\\', '"'] <:+: text) :
    (dropSlashes text).length < text.length := by
  induction text with
  | nil => simp at h
  | cons c text ih =>
      rw [List.infix_cons_iff] at h
      rw [dropSlashes]
      rcases h with hhere | hlater
      · obtain ⟨rest, hrest⟩ := hhere
        obtain ⟨rfl, rfl⟩ : '\\' = c ∧ '"' :: rest = text := by simpa using hrest
        have hlength := (dropSlashes_sublist ('"' :: rest)).length_le
        rw [if_pos (by simp)]
        exact Nat.lt_succ_of_le hlength
      · have hlength := ih hlater
        split
        · exact Nat.lt_succ_of_lt hlength
        · exact Nat.succ_lt_succ hlength

theorem flatMap_rereadChar_eq_self {text : List Char} (h : ∀ c ∈ text, isRareControl c = false) :
    text.flatMap rereadChar = text := by
  induction text with
  | nil => rfl
  | cons c text ih =>
      rw [List.flatMap_cons, ih fun d hd => h d (List.mem_cons_of_mem _ hd), rereadChar,
        if_neg (by simp [h c List.mem_cons_self])]
      rfl

theorem isRareControl_mem_reread {text : List Char} {c : Char} (h : c ∈ reread text) :
    isRareControl c = false := by
  obtain ⟨d, -, hd⟩ := List.mem_flatMap.mp h
  exact isRareControl_mem_rereadChar hd

theorem reread_eq_self_iff (text : List Char) : reread text = text ↔ IsPlain text := by
  constructor
  · intro h
    have hrare : ∀ c ∈ text, isRareControl c = false :=
      fun c hc => isRareControl_mem_reread (h ▸ hc)
    refine ⟨hrare, ?_⟩
    intro hinfix
    have hdrop : reread text = dropSlashes text :=
      flatMap_rereadChar_eq_self fun c hc => hrare c ((dropSlashes_sublist text).subset hc)
    have hlength := length_dropSlashes_lt hinfix
    rw [← hdrop, h] at hlength
    exact Nat.lt_irrefl _ hlength
  · rintro ⟨hrare, hinfix⟩
    rw [reread, dropSlashes_eq_self hinfix, flatMap_rereadChar_eq_self hrare]

end BrowserFlow.Locator
