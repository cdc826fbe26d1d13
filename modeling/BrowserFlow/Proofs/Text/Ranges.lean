import BrowserFlow.Text.Blank
import BrowserFlow.Text.Word
import Mathlib.Data.List.Chain
import Mathlib.Data.List.TakeWhile

/-!
# Tables of code points

The search in a sorted table finds the range that a number lies in. So what is said of a table can
be checked range by range, as here that decimal digits are word characters and blanks are not.
-/

namespace BrowserFlow.Text

/-- The first range ends before the second begins. -/
def IsBelow (first second : Nat × Nat) : Prop := first.1 ≤ first.2 ∧ first.2 < second.1

instance : DecidableRel IsBelow := fun _ _ => inferInstanceAs (Decidable (_ ∧ _))

instance : IsTrans (Nat × Nat) IsBelow where
  trans first second third hfirst hsecond := by
    unfold IsBelow at *
    omega

def Within (range : Nat × Nat) (n : Nat) : Prop := range.1 ≤ n ∧ n ≤ range.2

/-! ### The search -/

section Search

variable {ranges : Array (Nat × Nat)} {n : Nat}

theorem exists_of_searchRanges {fuel low high : Nat} (h : searchRanges ranges n fuel low high) :
    ∃ range ∈ ranges, Within range n := by
  fun_induction searchRanges ranges n fuel low high with
  | case1 => exact nomatch h
  | case2 => exact nomatch h
  | case3 fuel low high hlt middle first last hget hbelow ih => exact ih h
  | case4 fuel low high hlt middle first last hget hbelow habove ih => exact ih h
  | case5 fuel low high hlt middle first last hget hbelow habove =>
      exact ⟨(first, last), Array.mem_of_getElem? hget, Nat.le_of_not_lt hbelow,
        Nat.le_of_not_lt habove⟩
  | case6 => exact nomatch h

theorem isBelow_of_lt (hsorted : ranges.toList.Pairwise IsBelow) {i j : Nat}
    {first second : Nat × Nat} (hfirst : ranges[i]? = some first)
    (hsecond : ranges[j]? = some second) (hlt : i < j) : IsBelow first second := by
  obtain ⟨hi, rfl⟩ := Array.getElem?_eq_some_iff.mp hfirst
  obtain ⟨hj, rfl⟩ := Array.getElem?_eq_some_iff.mp hsecond
  exact List.pairwise_iff_getElem.mp hsorted i j hi hj hlt

/-- The range is never outside the part of the table that is still searched. -/
theorem searchRanges_of_within (hsorted : ranges.toList.Pairwise IsBelow) {i : Nat}
    {range : Nat × Nat} (hget : ranges[i]? = some range) (hwithin : Within range n)
    {fuel low high : Nat} (hlow : low ≤ i) (hhigh : i < high) (hsize : high ≤ ranges.size)
    (hfuel : high - low ≤ fuel) : searchRanges ranges n fuel low high := by
  obtain ⟨hfirst, hlast⟩ := hwithin
  fun_induction searchRanges ranges n fuel low high with
  | case1 => omega
  | case2 fuel low high hlt middle hnone =>
      have hbound := Array.getElem?_eq_none_iff.mp hnone
      omega
  | case3 fuel low high hlt middle first last hmiddle hbefore ih =>
      have hi : i < middle := by
        rcases Nat.lt_trichotomy i middle with h | rfl | h
        · exact h
        · obtain rfl := Option.some.inj (hget.symm.trans hmiddle)
          omega
        · obtain ⟨hrange, hnext⟩ := isBelow_of_lt hsorted hmiddle hget h
          omega
      exact ih hlow hi (by omega) (by omega)
  | case4 fuel low high hlt middle first last hmiddle hbefore hafter ih =>
      have hi : middle < i := by
        rcases Nat.lt_trichotomy i middle with h | rfl | h
        · obtain ⟨hrange, hnext⟩ := isBelow_of_lt hsorted hget hmiddle h
          omega
        · obtain rfl := Option.some.inj (hget.symm.trans hmiddle)
          omega
        · exact h
      exact ih hi hhigh hsize (by omega)
  | case5 => rfl
  | case6 fuel low high hle => omega

theorem exists_of_inRanges (h : inRanges ranges n) : ∃ range ∈ ranges, Within range n :=
  exists_of_searchRanges h

theorem inRanges_of_within (hsorted : ranges.toList.Pairwise IsBelow) {range : Nat × Nat}
    (hmem : range ∈ ranges) (hwithin : Within range n) : inRanges ranges n := by
  obtain ⟨i, hi, hget⟩ := Array.mem_iff_getElem.mp hmem
  have hget? : ranges[i]? = some range := Array.getElem?_eq_some_iff.mpr ⟨hi, hget⟩
  exact searchRanges_of_within hsorted hget? hwithin (Nat.zero_le i) hi le_rfl (Nat.sub_le _ _)

end Search

/-- Ranges that are passed over one by one, each together with what it covers at the front of the
rest, cover the whole list when nothing of it is left. -/
theorem exists_cover_of_foldl {covers : α → β → Bool} {ranges : List α} {rest : List β}
    (h : ranges.foldl (fun rest range => rest.dropWhile (covers range)) rest = []) :
    ∀ item ∈ rest, ∃ range ∈ ranges, covers range item := by
  induction ranges generalizing rest with
  | nil =>
      intro item hitem
      rw [List.foldl_nil] at h
      simp [h] at hitem
  | cons range ranges ih =>
      intro item hitem
      rw [← List.takeWhile_append_dropWhile (p := covers range) (l := rest)] at hitem
      rcases List.mem_append.mp hitem with hfront | hback
      · exact ⟨range, List.mem_cons_self, List.mem_takeWhile_imp hfront⟩
      · obtain ⟨other, hother, hcovers⟩ := ih h item hback
        exact ⟨other, List.mem_cons_of_mem _ hother, hcovers⟩

/-! ### ASCII letters -/

theorem isUpper_iff {c : Char} : c.isUpper ↔ 65 ≤ c.toNat ∧ c.toNat ≤ 90 := by
  have hbounds : c.isUpper = decide (c.val ≥ 'A'.val ∧ c.val ≤ 'Z'.val) := rfl
  rw [hbounds, decide_eq_true_iff, ge_iff_le, UInt32.le_iff_toNat_le, UInt32.le_iff_toNat_le]
  exact Iff.rfl

theorem isLower_iff {c : Char} : c.isLower ↔ 97 ≤ c.toNat ∧ c.toNat ≤ 122 := by
  have hbounds : c.isLower = (decide (c.val ≥ 'a'.val) && decide (c.val ≤ 'z'.val)) := rfl
  rw [hbounds, Bool.and_eq_true, decide_eq_true_iff, decide_eq_true_iff, ge_iff_le,
    UInt32.le_iff_toNat_le, UInt32.le_iff_toNat_le]
  exact Iff.rfl

theorem isAlphanum_iff {c : Char} : c.isAlphanum ↔ c.isUpper ∨ c.isLower ∨ c.isDigit := by
  have hcases : c.isAlphanum = (c.isUpper || c.isLower || c.isDigit) := rfl
  rw [hcases, Bool.or_eq_true, Bool.or_eq_true, or_assoc]

theorem toNat_of_isAlphanum {c : Char} (h : c.isAlphanum) : 48 ≤ c.toNat ∧ c.toNat < 128 := by
  rcases isAlphanum_iff.mp h with hupper | hlower | hdigit
  · have hcode := isUpper_iff.mp hupper
    omega
  · have hcode := isLower_iff.mp hlower
    omega
  · obtain ⟨hlow, hhigh⟩ := Char.isDigit_iff_toNat.mp hdigit
    exact ⟨hlow, Nat.lt_of_le_of_lt hhigh (by decide)⟩

/-- A letter is one of 26, counted from the first. -/
theorem exists_letter {c : Char} {first : Nat} (h : first ≤ c.toNat ∧ c.toNat ≤ first + 25) :
    ∃ i < 26, c = Char.ofNat (first + i) := by
  refine ⟨c.toNat - first, by omega, ?_⟩
  rw [Nat.add_sub_cancel' h.1, Char.ofNat_toNat]

/-! ### Word characters, decimal digits and blanks -/

theorem isWordChar_of_isAlphanum {c : Char} (h : c.isAlphanum) : isWordChar c := by
  simp [isWordChar, (toNat_of_isAlphanum h).2, h]

theorem pairwise_wordRanges : wordRanges.toList.Pairwise IsBelow := by
  rw [← List.isChain_iff_pairwise]
  decide +kernel

theorem isWordChar_of_isDecimalDigit {c : Char} (h : isDecimalDigit c) : isWordChar c := by
  rw [isDecimalDigit] at h
  rw [isWordChar]
  split_ifs at h ⊢
  · simp [isAlphanum_iff.mpr (.inr (.inr h))]
  · obtain ⟨digits, hdigits, hlow, hhigh⟩ := exists_of_inRanges h
    have hcovered : wordRanges.toList.foldl (fun rest word =>
        rest.dropWhile fun digits => word.1 ≤ digits.1 && digits.2 ≤ word.2)
          decimalRanges.toList = [] := by
      decide +kernel
    obtain ⟨word, hword, hcovers⟩ :=
      exists_cover_of_foldl hcovered digits (Array.mem_toList_iff.mpr hdigits)
    simp only [Bool.and_eq_true, decide_eq_true_eq] at hcovers
    exact inRanges_of_within pairwise_wordRanges (Array.mem_toList_iff.mp hword)
      ⟨hcovers.1.trans hlow, hhigh.trans hcovers.2⟩

/-- The blanks beyond ASCII. -/
def blankRanges : List (Nat × Nat) :=
  [(0x85, 0x85), (0xA0, 0xA0), (0x1680, 0x1680), (0x2000, 0x200A), (0x2028, 0x2029),
    (0x202F, 0x202F), (0x205F, 0x205F), (0x3000, 0x3000)]

theorem isBlank_cases {c : Char} (h : isBlank c) :
    c.toNat ≤ 0x20 ∨ ∃ blanks ∈ blankRanges, Within blanks c.toNat := by
  simp only [isBlank, Bool.or_eq_true, Bool.and_eq_true, decide_eq_true_eq, beq_iff_eq] at h
  simp only [blankRanges, Within, List.mem_cons, List.not_mem_nil, or_false, exists_eq_or_imp,
    exists_eq_left]
  omega

theorem not_isWordChar_of_isBlank {c : Char} (h : isBlank c) : ¬isWordChar c := by
  have hapart : ∀ blanks ∈ blankRanges, 128 ≤ blanks.1 ∧ ∀ word ∈ wordRanges.toList,
      blanks.2 < word.1 ∨ word.2 < blanks.1 := by
    decide +kernel
  intro hword
  rw [isWordChar] at hword
  split_ifs at hword with hascii
  · have hcode : 48 ≤ c.toNat := by
      rw [Bool.or_eq_true, beq_iff_eq] at hword
      rcases hword with halphanum | rfl
      · exact (toNat_of_isAlphanum halphanum).1
      · decide
    rcases isBlank_cases h with hcontrol | ⟨blanks, hblanks, hlow, -⟩
    · omega
    · have hbeyond := (hapart blanks hblanks).1
      omega
  · obtain ⟨word, hmem, hfirst, hlast⟩ := exists_of_inRanges hword
    rcases isBlank_cases h with hcontrol | ⟨blanks, hblanks, hlow, hhigh⟩
    · omega
    · have hdisjoint := (hapart blanks hblanks).2 word (Array.mem_toList_iff.mpr hmem)
      omega

end BrowserFlow.Text
