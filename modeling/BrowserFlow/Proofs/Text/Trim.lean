import BrowserFlow.Text.Blank
import Mathlib.Data.List.TakeWhile

/-!
Trimmed text: it neither starts nor ends with a blank, and it is what trimming leaves of itself with
blanks around it. Writing a text out character by character and trimming it can change places.
-/

namespace BrowserFlow.Text

/-- Neither the first nor the last character is a blank. -/
structure IsTrimmed (text : List Char) : Prop where
  head : ∀ c ∈ text.head?, isBlank c = false
  last : ∀ c ∈ text.getLast?, isBlank c = false

theorem isTrimmed_nil : IsTrimmed [] where
  head _ h := nomatch h
  last _ h := nomatch h

theorem isBlank_nil : IsBlank [] := fun _ h => nomatch h

theorem IsBlank.append {first second : List Char} (hfirst : IsBlank first)
    (hsecond : IsBlank second) : IsBlank (first ++ second) := by
  intro c hc
  exact (List.mem_append.mp hc).elim (hfirst c) (hsecond c)

theorem IsBlank.reverse {text : List Char} (h : IsBlank text) : IsBlank text.reverse :=
  fun c hc => h c (List.mem_reverse.mp hc)

theorem trimLeft_of_head {text : List Char} (h : ∀ c ∈ text.head?, isBlank c = false) :
    trimLeft text = text := by
  cases text with
  | nil => rfl
  | cons c rest => exact List.dropWhile_cons_of_neg (by simp [h c rfl])

theorem trimLeft_cons {c : Char} (h : isBlank c = false) (text : List Char) :
    trimLeft (c :: text) = c :: text := by
  refine trimLeft_of_head ?_
  rintro _ ⟨⟩
  exact h

theorem trimRight_of_last {text : List Char} (h : ∀ c ∈ text.getLast?, isBlank c = false) :
    trimRight text = text := by
  have hreversed : trimLeft text.reverse = text.reverse :=
    trimLeft_of_head fun c hc => h c (by rwa [List.head?_reverse] at hc)
  rw [trimLeft] at hreversed
  rw [trimRight, hreversed, List.reverse_reverse]

theorem trimLeft_append {lead : List Char} (hlead : IsBlank lead) (text : List Char) :
    trimLeft (lead ++ text) = trimLeft text :=
  List.dropWhile_append_of_pos hlead

theorem trimRight_append_blank {trail : List Char} (htrail : IsBlank trail) (text : List Char) :
    trimRight (text ++ trail) = trimRight text := by
  rw [trimRight, List.reverse_append, List.dropWhile_append_of_pos htrail.reverse]
  rfl

theorem exists_lead (text : List Char) : ∃ lead, IsBlank lead ∧ text = lead ++ trimLeft text :=
  ⟨text.takeWhile isBlank, fun _ hc => List.mem_takeWhile_imp hc,
    List.takeWhile_append_dropWhile.symm⟩

theorem exists_trail (text : List Char) :
    ∃ trail, IsBlank trail ∧ text = trimRight text ++ trail := by
  obtain ⟨lead, hlead, hsplit⟩ := exists_lead text.reverse
  refine ⟨lead.reverse, hlead.reverse, ?_⟩
  rw [← List.reverse_inj, hsplit, List.reverse_append, List.reverse_reverse, trimRight,
    List.reverse_reverse]
  rfl

theorem head_trimLeft (text : List Char) : ∀ c ∈ (trimLeft text).head?, isBlank c = false := by
  intro c hc
  have hhead := List.head?_dropWhile_not isBlank text
  rw [trimLeft] at hc
  rw [Option.mem_def.mp hc] at hhead
  simpa using hhead

theorem last_trimRight (text : List Char) : ∀ c ∈ (trimRight text).getLast?, isBlank c = false := by
  intro c hc
  rw [trimRight, List.getLast?_reverse] at hc
  exact head_trimLeft text.reverse c hc

/-- Trimming takes blanks from both ends and leaves a trimmed text. -/
theorem exists_trim (text : List Char) :
    ∃ lead trail, IsBlank lead ∧ IsBlank trail ∧ text = lead ++ trim text ++ trail := by
  obtain ⟨lead, hlead, hleft⟩ := exists_lead text
  obtain ⟨trail, htrail, hright⟩ := exists_trail (trimLeft text)
  refine ⟨lead, trail, hlead, htrail, ?_⟩
  rw [trim, List.append_assoc, ← hright]
  exact hleft

theorem isTrimmed_trim (text : List Char) : IsTrimmed (trim text) where
  head c hc := by
    obtain ⟨trail, -, hright⟩ := exists_trail (trimLeft text)
    refine head_trimLeft text c ?_
    rw [trim, Option.mem_def] at hc
    rw [hright, List.head?_append, hc]
    rfl
  last := last_trimRight _

theorem trim_surrounded {lead core trail : List Char} (hlead : IsBlank lead)
    (hcore : IsTrimmed core) (htrail : IsBlank trail) : trim (lead ++ core ++ trail) = core := by
  rw [trim, List.append_assoc, trimLeft_append hlead]
  cases core with
  | nil =>
      have hnone : trimLeft trail = [] := (isBlank_iff_trimLeft_eq_nil trail).mp htrail
      rw [List.nil_append, hnone]
      rfl
  | cons c rest =>
      rw [trimLeft_of_head (by simpa using hcore.head c rfl), trimRight_append_blank htrail,
        trimRight_of_last hcore.last]

theorem trim_append_blank {trail : List Char} (htrail : IsBlank trail) (text : List Char) :
    trim (text ++ trail) = trim text := by
  obtain ⟨lead, blanks, hlead, hblanks, hsplit⟩ := exists_trim text
  calc
    trim (text ++ trail) = trim (lead ++ trim text ++ (blanks ++ trail)) := by
      rw [← List.append_assoc, ← hsplit]
    _ = trim text := trim_surrounded hlead (isTrimmed_trim text) (hblanks.append htrail)

theorem trim_of_isTrimmed {text : List Char} (h : IsTrimmed text) : trim text = text := by
  rw [trim, trimLeft_of_head h.head, trimRight_of_last h.last]

/-- Between two characters that are not blank nothing is trimmed. -/
theorem trim_eq_self {c d : Char} (hc : isBlank c = false) (hd : isBlank d = false)
    (text : List Char) : trim (c :: (text ++ [d])) = c :: (text ++ [d]) := by
  refine trim_of_isTrimmed ⟨?_, ?_⟩
  · rintro _ ⟨⟩
    exact hc
  · rw [← List.cons_append, List.getLast?_concat]
    rintro _ ⟨⟩
    exact hd

theorem mem_of_mem_trim {text : List Char} {c : Char} (h : c ∈ trim text) : c ∈ text := by
  obtain ⟨lead, trail, -, -, hsplit⟩ := exists_trim text
  rw [hsplit]
  exact List.mem_append_left _ (List.mem_append_right _ h)

theorem trim_eq_nil_iff {text : List Char} : trim text = [] ↔ IsBlank text := by
  constructor
  · intro h
    obtain ⟨lead, trail, hlead, htrail, hsplit⟩ := exists_trim text
    rw [h, List.append_nil] at hsplit
    exact hsplit ▸ hlead.append htrail
  · intro h
    have htrim := trim_surrounded h isTrimmed_nil isBlank_nil
    rwa [List.append_nil, List.append_nil] at htrim

/-! ### Text that is written out character by character -/

theorem trimLeft_flatMap {write : Char → List Char} (hblank : ∀ c, isBlank c = true → write c = [c])
    (hother : ∀ c, isBlank c = false → ∃ d rest, write c = d :: rest ∧ isBlank d = false)
    (text : List Char) : trimLeft (text.flatMap write) = (trimLeft text).flatMap write := by
  induction text with
  | nil => rfl
  | cons c text ih =>
      cases hc : isBlank c with
      | true =>
          have hskip : ∀ rest, trimLeft (c :: rest) = trimLeft rest :=
            fun _ => List.dropWhile_cons_of_pos hc
          rw [List.flatMap_cons, hblank c hc, List.singleton_append, hskip, hskip, ih]
      | false =>
          obtain ⟨d, rest, hwrite, hd⟩ := hother c hc
          rw [trimLeft_cons hc, List.flatMap_cons, hwrite, List.cons_append, trimLeft_cons hd]

/-- Blanks that are written as they are, and nothing else as a blank, are trimmed as before. -/
theorem trim_flatMap {write : Char → List Char} (hblank : ∀ c, isBlank c = true → write c = [c])
    (hfirst : ∀ c, isBlank c = false → ∃ d rest, write c = d :: rest ∧ isBlank d = false)
    (hlast : ∀ c, isBlank c = false → ∃ d rest, (write c).reverse = d :: rest ∧ isBlank d = false)
    (text : List Char) : trim (text.flatMap write) = (trim text).flatMap write := by
  have hblankReversed : ∀ c, isBlank c = true → (write c).reverse = [c] := by
    intro c hc
    rw [hblank c hc, List.reverse_singleton]
  have hright : ∀ text : List Char,
      trimRight (text.flatMap write) = (trimRight text).flatMap write := by
    intro text
    have hreversed : (text.flatMap write).reverse =
        text.reverse.flatMap fun c => (write c).reverse := List.reverse_flatMap
    have htrim := trimLeft_flatMap hblankReversed hlast text.reverse
    rw [trimLeft, ← hreversed] at htrim
    rw [trimRight, htrim, List.reverse_flatMap]
    simp only [Function.comp_def, List.reverse_reverse]
    rfl
  rw [trim, trimLeft_flatMap hblank hfirst, hright, trim]

end BrowserFlow.Text
