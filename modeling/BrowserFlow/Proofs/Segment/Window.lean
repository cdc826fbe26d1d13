import BrowserFlow.Proofs.Segment.History
import Mathlib.Data.Finset.Card

/-!
# What a window says of the end of a form

The name that a window gives to the end of a form depends on the set of its entries only, and more
entries never take a form or a password away. So whatever changes the last entries of a recording
can be compared by inclusion.
-/

namespace BrowserFlow

/-- How much the name of the end of a form says: nothing, that it is a form, that it is a login. -/
def StepType.formRank : StepType → Nat
  | .login => 2
  | .fillForm => 1
  | _ => 0

/-- The name of the end of a form when it is not named after the form. -/
def EventType.plainEnd (type : EventType) : StepType :=
  if type = .submit then .submit else .keydown

theorem baseType_of_terminal (config : SegmentConfig) {event : Event} (h : event.type.isTerminal) :
    event.baseType config = event.type.plainEnd := by
  cases htype : event.type with
  | submit | keydown => simp [Event.baseType, htype, EventType.plainEnd]
  | _ => simp [htype, EventType.isTerminal] at h

theorem formRank_plainEnd (type : EventType) : type.plainEnd.formRank = 0 := by
  cases type <;> rfl

theorem plainEnd_ne {type : EventType} {name : StepType} (h : name.formRank ≠ 0) :
    type.plainEnd ≠ name := by
  rintro rfl
  exact h (formRank_plainEnd type)

namespace InputWindow

theorem nodup_foldr_insert (keys : List String) :
    (keys.foldr (fun key seen => if key ∈ seen then seen else key :: seen) []).Nodup := by
  induction keys with
  | nil => exact .nil
  | cons key keys ih =>
      rw [List.foldr_cons]
      split_ifs with hseen
      · exact ih
      · exact List.nodup_cons.mpr ⟨hseen, ih⟩

theorem mem_foldr_insert (keys : List String) (key : String) :
    key ∈ keys.foldr (fun key seen => if key ∈ seen then seen else key :: seen) [] ↔
      key ∈ keys := by
  induction keys with
  | nil => rfl
  | cons first keys ih =>
      rw [List.foldr_cons, List.mem_cons, ← ih]
      split_ifs with hseen
      · refine ⟨Or.inr, ?_⟩
        rintro (rfl | hmem)
        · exact hseen
        · exact hmem
      · exact List.mem_cons

theorem distinctFields_eq_card (window : InputWindow) :
    window.distinctFields = (window.entries.map (·.fieldKey)).toFinset.card := by
  rw [distinctFields, ← List.toFinset_card_of_nodup (nodup_foldr_insert _)]
  congr 1
  ext key
  rw [List.mem_toFinset, List.mem_toFinset, mem_foldr_insert]

theorem distinctFields_lt_two_iff (window : InputWindow) :
    window.distinctFields < 2 ↔
      ∀ first ∈ window.entries, ∀ second ∈ window.entries, first.fieldKey = second.fieldKey := by
  rw [distinctFields_eq_card, Nat.lt_succ_iff, Finset.card_le_one]
  simp only [List.mem_toFinset, List.forall_mem_map]

section Subset

variable {window other : InputWindow} (h : window.entries ⊆ other.entries)

include h

theorem distinctFields_mono : window.distinctFields ≤ other.distinctFields := by
  rw [distinctFields_eq_card, distinctFields_eq_card]
  apply Finset.card_le_card
  intro key hkey
  rw [List.mem_toFinset] at hkey ⊢
  exact List.map_subset _ h hkey

theorem any_isPassword_mono (hpassword : window.entries.any (·.isPassword)) :
    other.entries.any (·.isPassword) := by
  obtain ⟨entry, hentry, hpassword⟩ := List.any_eq_true.mp hpassword
  exact List.any_eq_true.mpr ⟨entry, h hentry, hpassword⟩

theorem formRank_terminalType_mono {base : StepType} (hbase : base.formRank = 0) :
    (window.terminalType base).formRank ≤ (other.terminalType base).formRank := by
  have hfields := distinctFields_mono h
  by_cases hfew : window.distinctFields < 2
  · rw [terminalType, if_pos hfew, hbase]
    exact Nat.zero_le _
  · have hmany : ¬other.distinctFields < 2 := by omega
    by_cases hpassword : window.entries.any (·.isPassword)
    · rw [terminalType, if_neg hfew, if_pos hpassword, terminalType, if_neg hmany,
        if_pos (any_isPassword_mono h hpassword)]
    · rw [terminalType, if_neg hfew, if_neg hpassword, terminalType, if_neg hmany]
      split_ifs <;> decide

theorem terminalType_eq_of_subset (hother : other.entries ⊆ window.entries) (base : StepType) :
    window.terminalType base = other.terminalType base := by
  have hfields : window.distinctFields = other.distinctFields :=
    Nat.le_antisymm (distinctFields_mono h) (distinctFields_mono hother)
  have hpassword : window.entries.any (·.isPassword) = other.entries.any (·.isPassword) :=
    Bool.eq_iff_iff.mpr ⟨any_isPassword_mono h, any_isPassword_mono hother⟩
  rw [terminalType, terminalType, hfields, hpassword]

end Subset

end InputWindow

/-! ### The last entries of a list -/

theorem rtake_append (front back : List α) (n : Nat) :
    (front ++ back).rtake n = front.rtake (n - back.length) ++ back.rtake n := by
  simp only [List.rtake_eq_reverse_take_reverse, List.reverse_append, List.take_append,
    List.length_reverse]

theorem rtake_eq_self {list : List α} {n : Nat} (h : list.length ≤ n) : list.rtake n = list := by
  rw [List.rtake, Nat.sub_eq_zero_of_le h, List.drop_zero]

theorem rtake_subset_of_le (list : List α) {n m : Nat} (h : n ≤ m) :
    list.rtake n ⊆ list.rtake m :=
  List.drop_subset_drop_left list (Nat.sub_le_sub_left h _)

/-- An element said twice takes the place of an older one. -/
theorem rtake_twice_subset (front back : List α) (x : α) (n : Nat) :
    (front ++ x :: x :: back).rtake n ⊆ (front ++ x :: back).rtake n := by
  have hsplit : front ++ x :: x :: back = (front ++ [x]) ++ x :: back := by simp
  rw [hsplit, rtake_append (front ++ [x]) (x :: back), rtake_append front (x :: back)]
  apply List.append_subset.mpr ⟨?_, List.subset_append_right _ _⟩
  cases hroom : n - (x :: back).length with
  | zero => simp
  | succ room =>
      have hwhole : (x :: back).rtake n = x :: back := rtake_eq_self (by omega)
      rw [List.rtake_concat_succ, hwhole]
      apply List.append_subset.mpr ⟨?_, by simp⟩
      exact List.Subset.trans (rtake_subset_of_le front (Nat.le_succ room))
        (List.subset_append_left _ _)

theorem rtake_twice_of_le (front back : List α) (x : α) {n : Nat} (h : n ≤ back.length + 1) :
    (front ++ x :: x :: back).rtake n = (front ++ x :: back).rtake n := by
  have hsplit : front ++ x :: x :: back = (front ++ [x]) ++ x :: back := by simp
  have hroom : n - (x :: back).length = 0 := Nat.sub_eq_zero_of_le h
  rw [hsplit, rtake_append (front ++ [x]) (x :: back), rtake_append front (x :: back), hroom,
    List.rtake_zero, List.rtake_zero]

end BrowserFlow
