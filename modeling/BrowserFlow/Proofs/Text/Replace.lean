import BrowserFlow.Text.Split
import Mathlib.Data.List.Infix

/-!
# Replacing marks

A mark that no other mark overlaps is left where it is when the other is replaced. What a mark was
replaced by can be told from the text that results, if the mark was there at all.
-/

namespace BrowserFlow.Text

theorem replaceAll_nil (mark value : List Char) : replaceAll mark value [] = [] := rfl

theorem replaceAll_of_mark {mark : List Char} (value : List Char) {c : Char} {text : List Char}
    (h : mark <+: c :: text) :
    replaceAll mark value (c :: text) =
      value ++ replaceFrom mark value (mark.length - 1) text := by
  rw [replaceAll, replaceFrom, if_pos (List.isPrefixOf_iff_prefix.mpr h)]

theorem replaceAll_of_no_mark {mark : List Char} (value : List Char) {c : Char}
    {text : List Char} (h : ¬mark <+: c :: text) :
    replaceAll mark value (c :: text) = c :: replaceAll mark value text := by
  rw [replaceAll, replaceFrom, if_neg (by rwa [List.isPrefixOf_iff_prefix])]
  rfl

theorem replaceFrom_eq_drop (mark value : List Char) (skip : Nat) (text : List Char) :
    replaceFrom mark value skip text = replaceAll mark value (text.drop skip) := by
  induction text generalizing skip with
  | nil => cases skip <;> rfl
  | cons c text ih =>
      cases skip with
      | zero => rfl
      | succ skip => exact ih skip

/-! ### Marks beside each other -/

/-- An occurrence of `mark` and one of `other` never overlap. -/
def Apart (mark other : List Char) : Prop :=
  (∀ tail ∈ other.tails, tail ≠ [] → ¬mark <+: tail ∧ ¬tail <+: mark) ∧
    ∀ tail ∈ mark.tails, tail ≠ [] → ¬tail <+: other ∧ ¬other <+: tail

instance (mark other : List Char) : Decidable (Apart mark other) :=
  inferInstanceAs (Decidable (_ ∧ _))

variable {mark other : List Char}

theorem not_prefix_append {first second : List Char} (h : ¬first <+: second)
    (h' : ¬second <+: first) (text : List Char) : ¬first <+: second ++ text := by
  intro hprefix
  rcases List.prefix_or_prefix_of_prefix hprefix (List.prefix_append second text) with hlead | hlead
  · exact h hlead
  · exact h' hlead

theorem replaceAll_other_append (value : List Char) (happart : Apart mark other)
    (tail text : List Char) (htail : tail <:+ other) :
    replaceAll mark value (tail ++ text) = tail ++ replaceAll mark value text := by
  induction tail with
  | nil => rfl
  | cons c tail ih =>
      obtain ⟨hmark, htailMark⟩ :=
        happart.1 (c :: tail) ((List.mem_tails _ _).mpr htail) (List.cons_ne_nil c tail)
      have hnot : ¬mark <+: c :: (tail ++ text) := not_prefix_append hmark htailMark text
      rw [List.cons_append, replaceAll_of_no_mark value hnot,
        ih ((List.suffix_cons c tail).trans htail)]
      rfl

/-- A mark cannot start in front of the other one and end inside it. -/
theorem not_prefix_append_other (happart : Apart mark other) {lead : List Char}
    (h : ¬mark <+: lead) (text : List Char) : ¬mark <+: lead ++ (other ++ text) := by
  intro hmore
  rcases List.prefix_or_prefix_of_prefix hmore
    (List.prefix_append lead (other ++ text)) with hprefix | hprefix
  · exact h hprefix
  · obtain ⟨rest, hrest⟩ := hprefix
    have hne : rest ≠ [] := by
      rintro rfl
      rw [List.append_nil] at hrest
      exact h (hrest ▸ List.prefix_rfl)
    obtain ⟨hother, hotherRest⟩ :=
      happart.2 rest ((List.mem_tails _ _).mpr ⟨lead, hrest⟩) hne
    have hprefix : rest <+: other ++ text := by
      rw [← hrest] at hmore
      exact (List.prefix_append_right_inj lead).mp hmore
    exact not_prefix_append hother hotherRest text hprefix

/-- A mark stays where it is when one that it lies apart from is replaced. -/
theorem replaceAll_append_other (value : List Char) (happart : Apart mark other)
    (lead text : List Char) :
    replaceAll mark value (lead ++ (other ++ text)) =
      replaceAll mark value lead ++ (other ++ replaceAll mark value text) := by
  induction h : lead.length using Nat.strongRecOn generalizing lead with
  | ind n ih =>
      subst h
      cases lead with
      | nil => exact replaceAll_other_append value happart other text List.suffix_rfl
      | cons c lead =>
          have hshorter : ∀ skip, replaceAll mark value (lead.drop skip ++ (other ++ text)) =
              replaceAll mark value (lead.drop skip) ++ (other ++ replaceAll mark value text) := by
            intro skip
            have hlength : (lead.drop skip).length < (c :: lead).length := by
              rw [List.length_drop, List.length_cons]
              omega
            exact ih _ hlength _ rfl
          by_cases hmark : mark <+: c :: lead
          · have hmore : mark <+: c :: (lead ++ (other ++ text)) :=
              hmark.trans (List.prefix_append (c :: lead) _)
            have hlength : mark.length - 1 ≤ lead.length := by
              have := hmark.length_le
              simp at this
              omega
            have hdrop : (lead ++ (other ++ text)).drop (mark.length - 1) =
                lead.drop (mark.length - 1) ++ (other ++ text) :=
              List.drop_append_of_le_length hlength
            calc
              replaceAll mark value (c :: (lead ++ (other ++ text))) =
                  value ++ replaceAll mark value
                    (lead.drop (mark.length - 1) ++ (other ++ text)) := by
                rw [replaceAll_of_mark value hmore, replaceFrom_eq_drop, hdrop]
              _ = value ++ (replaceAll mark value (lead.drop (mark.length - 1)) ++
                  (other ++ replaceAll mark value text)) := by
                rw [hshorter]
              _ = replaceAll mark value (c :: lead) ++
                  (other ++ replaceAll mark value text) := by
                rw [replaceAll_of_mark value hmark, replaceFrom_eq_drop, List.append_assoc]
          · have hnot : ¬mark <+: c :: (lead ++ (other ++ text)) :=
              not_prefix_append_other happart hmark text
            rw [List.cons_append, replaceAll_of_no_mark value hnot,
              replaceAll_of_no_mark value hmark]
            exact congrArg (c :: ·) (hshorter 0)

/-! ### Characters that no mark holds -/

theorem apart_singleton (hne : mark ≠ []) {c : Char} (hc : c ∉ mark) : Apart mark [c] := by
  have hmark : ¬mark <+: [c] := by
    intro h
    obtain ⟨first, rest, rfl⟩ := List.exists_cons_of_ne_nil hne
    obtain rfl := List.mem_singleton.mp (h.subset List.mem_cons_self)
    exact hc List.mem_cons_self
  refine ⟨?_, ?_⟩
  · intro tail htail htailNe
    have hsame : tail = [c] := by
      simpa [htailNe] using htail
    subst hsame
    exact ⟨hmark, fun h => hc (h.subset List.mem_cons_self)⟩
  · intro tail htail htailNe
    have hmem : c ∉ tail := fun h => hc (((List.mem_tails _ _).mp htail).subset h)
    refine ⟨?_, fun h => hmem (h.subset List.mem_cons_self)⟩
    intro h
    obtain ⟨first, rest, rfl⟩ := List.exists_cons_of_ne_nil htailNe
    obtain rfl := List.mem_singleton.mp (h.subset List.mem_cons_self)
    exact hmem List.mem_cons_self

/-- At a character that is not in the mark a text can be cut. -/
theorem replaceAll_append_separator (hne : mark ≠ []) {c : Char} (hc : c ∉ mark)
    (value lead text : List Char) :
    replaceAll mark value (lead ++ c :: text) =
      replaceAll mark value lead ++ c :: replaceAll mark value text :=
  replaceAll_append_other value (apart_singleton hne hc) lead text

theorem replaceAll_append_of_last (hne : mark ≠ []) {c : Char} (hc : c ∉ mark)
    (value lead text : List Char) :
    replaceAll mark value ((lead ++ [c]) ++ text) =
      replaceAll mark value (lead ++ [c]) ++ replaceAll mark value text := by
  have hlead := replaceAll_append_separator hne hc value lead []
  rw [hlead, List.append_assoc, List.singleton_append, replaceAll_append_separator hne hc]
  simp [replaceAll_nil]

theorem replaceAll_append_of_head (hne : mark ≠ []) {c : Char} (hc : c ∉ mark)
    (value lead text : List Char) :
    replaceAll mark value (lead ++ c :: text) =
      replaceAll mark value lead ++ replaceAll mark value (c :: text) := by
  have htext := replaceAll_append_separator hne hc value [] text
  rw [List.nil_append] at htext
  rw [htext, replaceAll_append_separator hne hc]
  rfl

/-! ### Texts without the mark, and the mark alone -/

theorem replaceAll_eq_self {text : List Char} (h : ¬mark <:+: text) (value : List Char) :
    replaceAll mark value text = text := by
  induction text with
  | nil => rfl
  | cons c text ih =>
      rw [List.infix_cons_iff, not_or] at h
      rw [replaceAll_of_no_mark value h.1, ih h.2]

theorem replaceAll_mark (hne : mark ≠ []) (value : List Char) :
    replaceAll mark value mark = value := by
  obtain ⟨c, rest, rfl⟩ := List.exists_cons_of_ne_nil hne
  rw [replaceAll_of_mark value List.prefix_rfl, replaceFrom_eq_drop, List.length_cons,
    Nat.add_sub_cancel, List.drop_length, replaceAll_nil, List.append_nil]

/-! ### What a mark was replaced by -/

/-- The length of the result grows evenly with the length of the value. -/
theorem exists_length_replaceAll (mark text : List Char) :
    ∃ fixed count, ∀ value, (replaceAll mark value text).length = fixed + count * value.length := by
  induction h : text.length using Nat.strongRecOn generalizing text with
  | ind n ih =>
      subst h
      cases text with
      | nil => exact ⟨0, 0, fun _ => by simp [replaceAll_nil]⟩
      | cons c text =>
          by_cases hmark : mark <+: c :: text
          · obtain ⟨fixed, count, hlength⟩ :=
              ih _ (by rw [List.length_drop, List.length_cons]; omega)
                (text.drop (mark.length - 1)) rfl
            refine ⟨fixed, count + 1, ?_⟩
            intro value
            rw [replaceAll_of_mark value hmark, replaceFrom_eq_drop, List.length_append, hlength,
              Nat.succ_mul]
            omega
          · obtain ⟨fixed, count, hlength⟩ := ih _ (by simp) text rfl
            refine ⟨fixed + 1, count, ?_⟩
            intro value
            rw [replaceAll_of_no_mark value hmark, List.length_cons, hlength]
            omega

/-- Up to the first mark the text stays as it is. -/
theorem exists_first_mark {text : List Char} (hne : mark ≠ []) (h : mark <:+: text) :
    ∃ lead rest, ∀ value,
      replaceAll mark value text = lead ++ (value ++ replaceAll mark value rest) := by
  induction text with
  | nil => exact absurd (List.eq_nil_of_infix_nil h) hne
  | cons c text ih =>
      by_cases hmark : mark <+: c :: text
      · refine ⟨[], text.drop (mark.length - 1), fun value => ?_⟩
        rw [replaceAll_of_mark value hmark, replaceFrom_eq_drop]
        rfl
      · obtain ⟨lead, rest, hfirst⟩ := ih ((List.infix_cons_iff.mp h).resolve_left hmark)
        refine ⟨c :: lead, rest, ?_⟩
        intro value
        rw [replaceAll_of_no_mark value hmark, hfirst]
        rfl

theorem replaceAll_inj {text : List Char} (hne : mark ≠ []) (h : mark <:+: text)
    {first second : List Char} :
    replaceAll mark first text = replaceAll mark second text ↔ first = second := by
  refine ⟨?_, fun heq => by rw [heq]⟩
  intro heq
  obtain ⟨lead, rest, hfirst⟩ := exists_first_mark hne h
  obtain ⟨fixed, count, hlength⟩ := exists_length_replaceAll mark rest
  rw [hfirst, hfirst] at heq
  have happend := List.append_cancel_left heq
  have htotal := congrArg List.length happend
  rw [List.length_append, List.length_append, hlength, hlength] at htotal
  have hsame : first.length = second.length := by
    rcases Nat.lt_trichotomy first.length second.length with hlt | heq | hgt
    · have := Nat.mul_le_mul_left count hlt.le
      omega
    · exact heq
    · have := Nat.mul_le_mul_left count hgt.le
      omega
  exact (List.append_inj happend hsame).1

end BrowserFlow.Text
