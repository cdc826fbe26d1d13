import BrowserFlow.Proofs.Text.Ranges
import Mathlib.Data.List.DropRight

/-!
# Words

The words of a text are its longest runs of word characters. A run that starts where no word
character stands in front of it is a word when it is followed by none, and every word is such a run.
-/

namespace BrowserFlow.Text

/-- The words of a text: what is left of it between other characters. -/
def words (text : List Char) : List (List Char) :=
  (text.splitOnP (!isWordChar ·)).filter (· ≠ [])

/-- The word at the end of the text; empty when the text does not end with one. -/
def lastWord (text : List Char) : List Char := text.rtakeWhile isWordChar

/-- No word reaches the end of the text. -/
def EndsApart (text : List Char) : Prop := ∀ c ∈ text.getLast?, ¬isWordChar c

theorem endsApart_nil : EndsApart [] := nofun

theorem endsApart_concat {c : Char} (text : List Char) :
    EndsApart (text ++ [c]) ↔ ¬isWordChar c := by
  simp [EndsApart]

theorem endsApart_cons {c : Char} (hc : ¬isWordChar c) {text : List Char} (h : EndsApart text) :
    EndsApart (c :: text) := by
  intro d hd
  rw [List.getLast?_cons] at hd
  obtain rfl := Option.some.inj hd
  cases hlast : text.getLast? with
  | none => exact hc
  | some last => exact h last hlast

theorem firstWord_append {word : List Char} (hword : ∀ c ∈ word, isWordChar c)
    (rest : List Char) : firstWord (word ++ rest) = word ++ firstWord rest :=
  List.takeWhile_append_of_pos hword

theorem firstWord_cons {c : Char} (hc : isWordChar c) (rest : List Char) :
    firstWord (c :: rest) = c :: firstWord rest :=
  List.takeWhile_cons_of_pos hc

theorem firstWord_cons_of_not {c : Char} (hc : ¬isWordChar c) (rest : List Char) :
    firstWord (c :: rest) = [] :=
  List.takeWhile_cons_of_neg hc

theorem firstWord_eq_cons_iff {text word : List Char} {c : Char} :
    firstWord text = c :: word ↔
      ∃ rest, text = c :: rest ∧ isWordChar c ∧ firstWord rest = word := by
  cases text with
  | nil => simp [firstWord]
  | cons d text =>
      by_cases hd : isWordChar d
      · rw [firstWord_cons hd, List.cons_eq_cons]
        constructor
        · rintro ⟨rfl, rfl⟩
          exact ⟨text, rfl, hd, rfl⟩
        · rintro ⟨rest, hsplit, -, rfl⟩
          obtain ⟨rfl, rfl⟩ := List.cons_eq_cons.mp hsplit
          exact ⟨rfl, rfl⟩
      · rw [firstWord_cons_of_not hd]
        constructor
        · exact nofun
        · rintro ⟨rest, hsplit, hc, -⟩
          obtain ⟨rfl, -⟩ := List.cons_eq_cons.mp hsplit
          exact absurd hc hd

theorem firstWord_append_afterWord (text : List Char) : firstWord text ++ afterWord text = text :=
  List.takeWhile_append_dropWhile

theorem firstWord_eq_nil_iff (text : List Char) :
    firstWord text = [] ↔ ¬text.head?.any isWordChar := by
  cases text with
  | nil => simp [firstWord]
  | cons c text => simp [firstWord, List.takeWhile_cons]

theorem firstWord_afterWord (text : List Char) : firstWord (afterWord text) = [] := by
  have hhead := List.head?_dropWhile_not isWordChar text
  rw [firstWord_eq_nil_iff, afterWord]
  cases hafter : (text.dropWhile isWordChar).head? <;> simp_all

theorem endsApart_iff (text : List Char) : EndsApart text ↔ ¬text.getLast?.any isWordChar := by
  cases hlast : text.getLast? <;> simp [EndsApart, hlast]

theorem lastWord_append {front word : List Char} (hfront : EndsApart front)
    (hword : ∀ c ∈ word, isWordChar c) : lastWord (front ++ word) = word := by
  induction word using List.reverseRecOn with
  | nil =>
      rw [List.append_nil, lastWord, List.rtakeWhile_eq_nil_iff]
      exact fun hne => hfront _ (List.getLast?_eq_getLast_of_ne_nil hne)
  | append_singleton word c ih =>
      rw [lastWord, ← List.append_assoc, List.rtakeWhile_concat_pos _ _ _ (hword c (by simp)),
        ← lastWord, ih fun d hd => hword d (List.mem_append_left _ hd)]

/-- A text is what comes before its last word and that word. -/
theorem exists_lastWord (text : List Char) :
    ∃ front, EndsApart front ∧ text = front ++ lastWord text := by
  refine ⟨text.rdropWhile isWordChar, ?_, List.rdropWhile_append_rtakeWhile.symm⟩
  intro c hc
  obtain ⟨hne, rfl⟩ := List.mem_getLast?_eq_getLast hc
  exact List.rdropWhile_last_not isWordChar text hne

/-! ### The pieces of a text -/

/-- The first piece is the first word or empty; each other one comes after some other character. -/
theorem exists_splitOnP (text : List Char) :
    ∃ pieces, text.splitOnP (!isWordChar ·) = firstWord text :: pieces ∧
      ∀ piece ∈ pieces, ∃ front rest, text = front ++ rest ∧ front ≠ [] ∧ EndsApart front ∧
        firstWord rest = piece := by
  induction text with
  | nil => exact ⟨[], List.splitOnP_nil, nofun⟩
  | cons c text ih =>
      obtain ⟨pieces, hsplit, hpieces⟩ := ih
      rw [List.splitOnP_cons_eq_if_modifyHead, hsplit]
      by_cases hc : isWordChar c
      · refine ⟨pieces, by simp [hc, firstWord_cons hc], fun piece hpiece => ?_⟩
        obtain ⟨front, rest, rfl, hne, hends, hfirst⟩ := hpieces piece hpiece
        refine ⟨c :: front, rest, rfl, List.cons_ne_nil _ _, ?_, hfirst⟩
        intro d hd
        rw [List.getLast?_cons_of_ne_nil hne] at hd
        exact hends d hd
      · refine ⟨firstWord text :: pieces, by simp [hc, firstWord_cons_of_not hc],
          fun piece hpiece => ?_⟩
        rcases List.mem_cons.mp hpiece with rfl | hpiece
        · exact ⟨[c], text, rfl, List.cons_ne_nil _ _, endsApart_cons hc endsApart_nil, rfl⟩
        · obtain ⟨front, rest, rfl, -, hends, hfirst⟩ := hpieces piece hpiece
          exact ⟨c :: front, rest, rfl, List.cons_ne_nil _ _, endsApart_cons hc hends, hfirst⟩

theorem firstWord_mem_splitOnP {front : List Char} (h : EndsApart front) (rest : List Char) :
    firstWord rest ∈ (front ++ rest).splitOnP (!isWordChar ·) := by
  obtain ⟨pieces, hsplit, -⟩ := exists_splitOnP rest
  cases front using List.reverseRecOn with
  | nil =>
      rw [List.nil_append, hsplit]
      exact List.mem_cons_self
  | append_singleton front c =>
      have hc : ¬isWordChar c := (endsApart_concat front).mp h
      rw [List.append_assoc, List.singleton_append,
        List.splitOnP_append_cons front rest (by simpa using hc), hsplit]
      exact List.mem_append_right _ List.mem_cons_self

/-- The words of a text are the runs of word characters that start where no word character stands in
front of them and go as far as they can. -/
theorem mem_words_iff {word text : List Char} :
    word ∈ words text ↔
      word ≠ [] ∧ ∃ front rest, text = front ++ rest ∧ EndsApart front ∧
        firstWord rest = word := by
  rw [words, List.mem_filter, decide_eq_true_eq, and_comm]
  refine and_congr_right fun _ => ⟨fun h => ?_, ?_⟩
  · obtain ⟨pieces, hsplit, hpieces⟩ := exists_splitOnP text
    rw [hsplit] at h
    rcases List.mem_cons.mp h with rfl | h
    · exact ⟨[], text, rfl, endsApart_nil, rfl⟩
    · obtain ⟨front, rest, htext, -, hends, hfirst⟩ := hpieces word h
      exact ⟨front, rest, htext, hends, hfirst⟩
  · rintro ⟨front, rest, rfl, hends, rfl⟩
    exact firstWord_mem_splitOnP hends rest

end BrowserFlow.Text
