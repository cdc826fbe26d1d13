/-!
Blank characters: those with the Unicode property `White_Space`.
-/

namespace BrowserFlow.Text

/-- The 25 characters with the property `White_Space`. -/
def isBlank (c : Char) : Bool :=
  let n := c.toNat
  (9 ≤ n && n ≤ 13) || n == 0x20 || n == 0x85 || n == 0xA0 || n == 0x1680 ||
    (0x2000 ≤ n && n ≤ 0x200A) || n == 0x2028 || n == 0x2029 || n == 0x202F ||
    n == 0x205F || n == 0x3000

def trimLeft (text : List Char) : List Char := text.dropWhile isBlank

def trimRight (text : List Char) : List Char := (text.reverse.dropWhile isBlank).reverse

def trim (text : List Char) : List Char := trimRight (trimLeft text)

def IsBlank (text : List Char) : Prop := ∀ c ∈ text, isBlank c = true

instance (text : List Char) : Decidable (IsBlank text) :=
  inferInstanceAs (Decidable (∀ c ∈ text, isBlank c = true))

theorem isBlank_iff_trimLeft_eq_nil (text : List Char) : IsBlank text ↔ trimLeft text = [] := by
  induction text with
  | nil => simp [IsBlank, trimLeft]
  | cons c rest ih =>
    unfold IsBlank trimLeft at *
    by_cases hc : isBlank c = true
    · rw [List.dropWhile_cons_of_pos hc, ← ih]
      simp [hc]
    · rw [List.dropWhile_cons_of_neg hc]
      simp [hc]

end BrowserFlow.Text
