import BrowserFlow.Text.Split
import Mathlib.Data.List.Basic

/-!
Beginnings and ends of a text, and what cutting them off leaves; a text cut at its first separator.
-/

namespace BrowserFlow.Text

theorem after?_eq_some_iff {lead text rest : List Char} :
    after? lead text = some rest ↔ text = lead ++ rest := by
  rw [after?, List.isPrefixOf?_eq_some_iff_append_eq]
  exact eq_comm

theorem after?_append (lead rest : List Char) : after? lead (lead ++ rest) = some rest :=
  after?_eq_some_iff.mpr rfl

theorem after?_eq_none_iff {lead text : List Char} :
    after? lead text = none ↔ ∀ rest, text ≠ lead ++ rest := by
  rw [Option.eq_none_iff_forall_ne_some]
  exact forall_congr' fun rest => not_congr after?_eq_some_iff

theorem before?_eq_some_iff {tail text head : List Char} :
    before? tail text = some head ↔ text = head ++ tail := by
  have hafter := @after?_eq_some_iff tail.reverse text.reverse head.reverse
  rw [← List.reverse_append, List.reverse_inj] at hafter
  rw [← hafter, before?, Option.map_eq_some_iff]
  constructor
  · rintro ⟨rest, hrest, rfl⟩
    rw [List.reverse_reverse]
    exact hrest
  · exact fun h => ⟨head.reverse, h, List.reverse_reverse head⟩

theorem before?_append (head tail : List Char) : before? tail (head ++ tail) = some head :=
  before?_eq_some_iff.mpr rfl

theorem cut?_append {separator : Char} {head : List Char} (h : separator ∉ head)
    (tail : List Char) : cut? separator (head ++ separator :: tail) = some (head, tail) := by
  induction head with
  | nil => exact if_pos rfl
  | cons c head ih =>
      rw [List.mem_cons, not_or] at h
      rw [List.cons_append, cut?, if_neg (Ne.symm h.1), ih h.2]
      rfl

theorem cut?_eq_none_iff {separator : Char} {text : List Char} :
    cut? separator text = none ↔ separator ∉ text := by
  induction text with
  | nil => simp [cut?]
  | cons c text ih =>
      rw [cut?]
      split
      · next heq => simp [heq]
      · next hne => simp [ih, Ne.symm hne]

theorem contains_iff_infix {piece text : List Char} : contains piece text ↔ piece <:+: text := by
  induction text with
  | nil => simp [contains]
  | cons c text ih =>
      rw [contains, Bool.or_eq_true, List.isPrefixOf_iff_prefix, ih, List.infix_cons_iff]

end BrowserFlow.Text
