import BrowserFlow.Proofs.Text.Replace
import BrowserFlow.Replay.Script

/-!
# Slots filled one after the other

The template is fixed text around its marks. Filling a slot changes each of the texts between the
fixed pieces on its own, so what a slot was filled with is filled again by the slots after it. This
gives the script that was meant exactly when no text holds a mark that comes later; otherwise the
text differs from the one meant where the first such mark stood.
-/

namespace BrowserFlow.Script

/-! ### Marks -/

/-- The characters that marks are made of. -/
def isMarkChar (c : Char) : Bool := c.isUpper || c == '\x7b' || c == '\x7d' || c == '_'

def IsMark (mark : List Char) : Prop :=
  ['\x7b', '\x7b'] <+: mark ∧ ∀ c ∈ mark, isMarkChar c = true

instance (mark : List Char) : Decidable (IsMark mark) :=
  decidable_of_iff (['\x7b', '\x7b'] <+: mark ∧ mark.all isMarkChar)
    (and_congr_right fun _ => List.all_eq_true)

/-- Nowhere do two opening braces stand side by side. -/
def bracesApart : List Char → Bool
  | [] => true
  | c :: rest => !(c == '\x7b' && rest.head? == some '\x7b') && bracesApart rest

/-- A text in which no mark stands, and to whose ends none reaches. -/
structure IsFixed (text : List Char) : Prop where
  apart : bracesApart text = true
  first : ∃ c rest, text = c :: rest ∧ isMarkChar c = false
  last : ∃ front c, text = front ++ [c] ∧ isMarkChar c = false

section Mark

variable {mark : List Char} (hmark : IsMark mark)

include hmark

theorem IsMark.ne_nil : mark ≠ [] := by
  rintro rfl
  simpa using hmark.1

theorem IsMark.not_mem {c : Char} (hc : isMarkChar c = false) : c ∉ mark := by
  intro hmem
  simpa [hc] using hmark.2 c hmem

theorem IsMark.not_infix {text : List Char} (h : bracesApart text = true) : ¬mark <:+: text := by
  intro hinfix
  have hbraces := hmark.1.isInfix.trans hinfix
  clear hinfix
  induction text with
  | nil => simp at hbraces
  | cons c text ih =>
      simp only [bracesApart, Bool.and_eq_true, Bool.not_eq_true', Bool.and_eq_false_iff] at h
      rcases List.infix_cons_iff.mp hbraces with ⟨rest, hrest⟩ | hbraces
      · obtain ⟨rfl, rfl⟩ : '\x7b' = c ∧ '\x7b' :: rest = text := by simpa using hrest
        simp at h
      · exact ih h.2 hbraces

end Mark

theorem bracesApart_append {text : List Char} {c : Char} (hc : isMarkChar c = false)
    (rest : List Char) :
    bracesApart (text ++ c :: rest) = (bracesApart text && bracesApart rest) := by
  have hbrace : (c == '\x7b') = false := by
    rw [beq_eq_false_iff_ne]
    rintro rfl
    exact absurd hc (by decide)
  induction text with
  | nil => simp [bracesApart, hbrace]
  | cons d text ih =>
      cases text with
      | nil => simp [bracesApart, hbrace]
      | cons e text =>
          have hhead : (e :: text ++ c :: rest).head? = (e :: text).head? := rfl
          rw [List.cons_append, bracesApart, ih, hhead, ← Bool.and_assoc, ← bracesApart]

/-! ### Fixed pieces with texts between them -/

/-- Each text is followed by the fixed piece it is paired with. -/
def weave (lead : List Char) : List (List Char × List Char) → List Char
  | [] => lead
  | (text, piece) :: rest => lead ++ (text ++ weave piece rest)

theorem exists_weave_cons (c : Char) (lead : List Char) (pairs : List (List Char × List Char)) :
    ∃ rest, weave (c :: lead) pairs = c :: rest := by
  cases pairs with
  | nil => exact ⟨lead, rfl⟩
  | cons pair pairs => exact ⟨lead ++ (pair.1 ++ weave pair.2 pairs), rfl⟩

theorem replaceAll_weave {mark : List Char} (hmark : IsMark mark) (value : List Char)
    {lead : List Char} {pairs : List (List Char × List Char)} (hlead : IsFixed lead)
    (hpairs : ∀ pair ∈ pairs, IsFixed pair.2) :
    Text.replaceAll mark value (weave lead pairs) =
      weave lead (pairs.map fun pair => (Text.replaceAll mark value pair.1, pair.2)) := by
  have hne := hmark.ne_nil
  have hself : Text.replaceAll mark value lead = lead :=
    Text.replaceAll_eq_self (hmark.not_infix hlead.apart) value
  induction pairs generalizing lead with
  | nil => exact hself
  | cons pair pairs ih =>
      obtain ⟨text, piece⟩ := pair
      have hpiece : IsFixed piece := hpairs _ List.mem_cons_self
      have hrest := ih hpiece (fun later hlater => hpairs later (List.mem_cons_of_mem _ hlater))
        (Text.replaceAll_eq_self (hmark.not_infix hpiece.apart) value)
      obtain ⟨front, d, rfl, hd⟩ := hlead.last
      obtain ⟨c, back, rfl, hc⟩ := hpiece.first
      obtain ⟨tail, htail⟩ := exists_weave_cons c back pairs
      rw [weave, Text.replaceAll_append_of_last hne (hmark.not_mem hd), hself, htail,
        Text.replaceAll_append_of_head hne (hmark.not_mem hc), ← htail, hrest]
      rfl

/-! ### Slots -/

/-- The text of each slot after the later slots have been filled too. -/
def refilled : List Slot → List (List Char)
  | [] => []
  | slot :: later => later.foldl fill slot.text.toList :: refilled later

/-- No mark occurs in another one. -/
def Separate (slots : List Slot) : Prop :=
  slots.Pairwise fun earlier later => ¬earlier.mark.toList <:+: later.mark.toList

section Slots

variable {slots : List Slot} (hmarks : ∀ slot ∈ slots, IsMark slot.mark.toList)

include hmarks

theorem foldl_fill_weave {lead : List Char} {pairs : List (List Char × List Char)}
    (hlead : IsFixed lead) (hpairs : ∀ pair ∈ pairs, IsFixed pair.2) :
    slots.foldl fill (weave lead pairs) =
      weave lead (pairs.map fun pair => (slots.foldl fill pair.1, pair.2)) := by
  induction slots generalizing pairs with
  | nil => simp
  | cons slot later ih =>
      have hnext : ∀ pair ∈ pairs.map fun pair =>
          (Text.replaceAll slot.mark.toList slot.text.toList pair.1, pair.2), IsFixed pair.2 := by
        intro pair hpair
        obtain ⟨source, hsource, rfl⟩ := List.mem_map.mp hpair
        exact hpairs source hsource
      rw [List.foldl_cons, fill, replaceAll_weave (hmarks slot List.mem_cons_self) _ hlead hpairs,
        ih (fun next hnext => hmarks next (List.mem_cons_of_mem _ hnext)) hnext, List.map_map]
      rfl

theorem map_foldl_fill_mark (hseparate : Separate slots) :
    slots.map (fun slot => slots.foldl fill slot.mark.toList) = refilled slots := by
  induction slots with
  | nil => rfl
  | cons slot later ih =>
      have hmark := hmarks slot List.mem_cons_self
      obtain ⟨hfirst, hlater⟩ := List.pairwise_cons.mp hseparate
      have hothers : ∀ next ∈ later, fill next.mark.toList slot = next.mark.toList :=
        fun next hnext => Text.replaceAll_eq_self (hfirst next hnext) _
      have hself : fill slot.mark.toList slot = slot.text.toList :=
        Text.replaceAll_mark hmark.ne_nil _
      have hrest := ih (fun next hnext => hmarks next (List.mem_cons_of_mem _ hnext)) hlater
      rw [List.map_cons, List.foldl_cons, hself, refilled, ← hrest]
      congr 1
      apply List.map_congr_left
      intro next hnext
      rw [List.foldl_cons, hothers next hnext]

end Slots

/-! ### When a text stays as it is -/

/-- The texts part where the first one has an opening brace. -/
def Diverges (first second : List Char) : Prop :=
  ∃ lead c rest more, first = lead ++ '\x7b' :: rest ∧ second = lead ++ c :: more ∧
    isMarkChar c = false

theorem Diverges.append_ne {first second : List Char} (h : Diverges first second)
    (tail other : List Char) : first ++ tail ≠ second ++ other := by
  obtain ⟨lead, c, rest, more, rfl, rfl, hc⟩ := h
  intro heq
  rw [List.append_assoc, List.append_assoc, List.append_cancel_left_eq, List.cons_append,
    List.cons_append, List.cons.injEq] at heq
  rw [← heq.1] at hc
  exact absurd hc (by decide)

theorem Diverges.append_left {first second : List Char} (h : Diverges first second)
    (lead tail other : List Char) : Diverges (lead ++ (first ++ tail)) (lead ++ (second ++ other)) := by
  obtain ⟨start, c, rest, more, rfl, rfl, hc⟩ := h
  exact ⟨lead ++ start, c, rest ++ tail, more ++ other, by simp, by simp, hc⟩

/-- What a slot is filled with begins with a character that no mark holds. -/
structure Slot.IsProper (slot : Slot) : Prop where
  mark : IsMark slot.mark.toList
  text : ∃ c rest, slot.text.toList = c :: rest ∧ isMarkChar c = false

theorem diverges_fill {slot : Slot} (hslot : slot.IsProper) {text : List Char}
    (h : slot.mark.toList <:+: text) : Diverges text (fill text slot) := by
  obtain ⟨c, value, htext, hc⟩ := hslot.text
  induction text with
  | nil => exact absurd (List.eq_nil_of_infix_nil h) hslot.mark.ne_nil
  | cons d text ih =>
      by_cases hprefix : slot.mark.toList <+: d :: text
      · obtain ⟨tail, htail⟩ := hslot.mark.1.trans hprefix
        have hfill := Text.replaceAll_of_mark slot.text.toList hprefix
        exact ⟨[], c, '\x7b' :: tail, _, htail.symm, hfill.trans (congrArg (· ++ _) htext), hc⟩
      · have hrest := ih ((List.infix_cons_iff.mp h).resolve_left hprefix)
        obtain ⟨lead, e, rest, more, htext', hfill, he⟩ := hrest
        refine ⟨d :: lead, e, rest, more, by rw [htext']; rfl, ?_, he⟩
        rw [fill, Text.replaceAll_of_no_mark _ hprefix, ← fill, hfill]
        rfl

/-- Filling more slots does not bring the brace back. -/
theorem Diverges.fill {first second : List Char} (h : Diverges first second) {slot : Slot}
    (hslot : slot.IsProper) : Diverges first (Script.fill second slot) := by
  obtain ⟨lead, c, rest, more, rfl, rfl, hc⟩ := h
  have hcut := Text.replaceAll_append_separator hslot.mark.ne_nil (hslot.mark.not_mem hc)
    slot.text.toList lead more
  rw [Script.fill, hcut]
  by_cases hmark : slot.mark.toList <:+: lead
  · have hlead := (diverges_fill hslot hmark).append_left []
    exact hlead _ _
  · rw [Text.replaceAll_eq_self hmark]
    exact ⟨lead, c, rest, _, rfl, rfl, hc⟩

theorem foldl_fill_eq_self {slots : List Slot} {text : List Char}
    (h : ∀ slot ∈ slots, ¬slot.mark.toList <:+: text) : slots.foldl fill text = text := by
  induction slots with
  | nil => rfl
  | cons slot later ih =>
      rw [List.foldl_cons, fill, Text.replaceAll_eq_self (h slot List.mem_cons_self)]
      exact ih fun next hnext => h next (List.mem_cons_of_mem _ hnext)

theorem Diverges.foldl_fill {slots : List Slot} (hslots : ∀ slot ∈ slots, slot.IsProper)
    {first second : List Char} (h : Diverges first second) :
    Diverges first (slots.foldl Script.fill second) := by
  induction slots generalizing second with
  | nil => exact h
  | cons slot later ih =>
      exact ih (fun next hnext => hslots next (List.mem_cons_of_mem _ hnext))
        (h.fill (hslots slot List.mem_cons_self))

theorem diverges_foldl_fill {slots : List Slot} (hslots : ∀ slot ∈ slots, slot.IsProper)
    {text : List Char} (h : ∃ slot ∈ slots, slot.mark.toList <:+: text) :
    Diverges text (slots.foldl fill text) := by
  induction slots with
  | nil => simp at h
  | cons slot later ih =>
      have hlater : ∀ next ∈ later, next.IsProper :=
        fun next hnext => hslots next (List.mem_cons_of_mem _ hnext)
      have hslot := hslots slot List.mem_cons_self
      rw [List.foldl_cons]
      by_cases hmark : slot.mark.toList <:+: text
      · exact (diverges_fill hslot hmark).foldl_fill hlater
      · have hsame : fill text slot = text := Text.replaceAll_eq_self hmark _
        rw [hsame]
        apply ih hlater
        obtain ⟨found, hfound, hinfix⟩ := h
        rcases List.mem_cons.mp hfound with rfl | hfound
        · exact absurd hinfix hmark
        · exact ⟨found, hfound, hinfix⟩

/-- The first text that is filled again can be told from what the fixed pieces are woven with. -/
theorem weave_refilled_eq_iff {slots : List Slot} (hslots : ∀ slot ∈ slots, slot.IsProper)
    (lead : List Char) {pieces : List (List Char)} (hlength : slots.length ≤ pieces.length) :
    weave lead ((refilled slots).zip pieces) =
        weave lead ((slots.map fun slot => slot.text.toList).zip pieces) ↔
      slots.Pairwise fun earlier later => ¬later.mark.toList <:+: earlier.text.toList := by
  induction slots generalizing lead pieces with
  | nil => simp [refilled]
  | cons slot later ih =>
      obtain ⟨piece, pieces, rfl⟩ := List.exists_cons_of_length_pos
        (Nat.lt_of_lt_of_le (Nat.succ_pos _) hlength)
      have hlater : ∀ next ∈ later, next.IsProper :=
        fun next hnext => hslots next (List.mem_cons_of_mem _ hnext)
      have hrest := ih hlater piece (Nat.le_of_succ_le_succ hlength)
      rw [refilled, List.map_cons, List.zip_cons_cons, List.zip_cons_cons, weave, weave,
        List.append_cancel_left_eq, List.pairwise_cons]
      by_cases hmark : ∃ next ∈ later, next.mark.toList <:+: slot.text.toList
      · refine iff_of_false (Ne.symm ((diverges_foldl_fill hlater hmark).append_ne _ _)) ?_
        obtain ⟨next, hnext, hinfix⟩ := hmark
        exact fun h => h.1 next hnext hinfix
      · simp only [not_exists, not_and] at hmark
        rw [foldl_fill_eq_self hmark, List.append_cancel_left_eq, hrest]
        exact ⟨fun h => ⟨hmark, h⟩, fun h => h.2⟩

end BrowserFlow.Script
