import BrowserFlow.Json.Draft
import Mathlib.Algebra.Group.Int.Defs
import Mathlib.Algebra.Group.Nat.Defs
import Mathlib.Data.List.Basic

/-!
# Strings and integers read back

A quoted text is read as the text that was quoted. The digits of an integer stand for that integer
when it fits in 64 bits.
-/

namespace BrowserFlow.Json

/-! ### Quoted text -/

theorem hexValue?_digitChar : ∀ n < 16, hexValue? (Nat.digitChar n) = some n := by decide

theorem hexUnit?_of_lt {n : Nat} (h : n < 32) :
    hexUnit? '0' '0' (hexDigit (n / 16)) (hexDigit (n % 16)) = some n := by
  have hzero : hexValue? '0' = some 0 := rfl
  have hhigh : hexValue? (hexDigit (n / 16)) = some (n / 16) := hexValue?_digitChar _ (by omega)
  have hlow : hexValue? (hexDigit (n % 16)) = some (n % 16) := hexValue?_digitChar _ (by omega)
  have hsum : 0 * 4096 + 0 * 256 + n / 16 * 16 + n % 16 = n := by omega
  simp only [hexUnit?, hzero, hhigh, hlow, Option.bind_eq_bind, Option.bind_some, Option.pure_def,
    hsum]

theorem readText_cons {c : Char} (hquote : c ≠ '"') (hslash : c ≠ '\\') (hprinted : 32 ≤ c.toNat)
    (tail : List Char) : readText (c :: tail) = consChar c (readText tail) := by
  have hcontrol : ¬c.toNat < 32 := by omega
  rw [readText]
  · exact if_neg hcontrol
  all_goals simp [hquote, hslash]

theorem readText_unit {n : Nat} (h : n < 32) (tail : List Char) :
    readText ('\\' :: 'u' :: '0' :: '0' :: hexDigit (n / 16) :: hexDigit (n % 16) :: tail) =
      consChar (Char.ofNat n) (readText tail) := by
  have hlow : isLowSurrogate n = false := by simp [isLowSurrogate]; omega
  have hhigh : isHighSurrogate n = false := by simp [isHighSurrogate]; omega
  rw [readText, hexUnit?_of_lt h]
  simp [hlow, hhigh]

theorem readText_escapeChar (c : Char) (tail : List Char) :
    readText (escapeChar c ++ tail) = consChar c (readText tail) := by
  by_cases hquote : c = '"'
  · subst hquote
    rfl
  by_cases hslash : c = '\\'
  · subst hslash
    rfl
  by_cases hfeed : c = '\n'
  · subst hfeed
    rfl
  by_cases hreturn : c = '\r'
  · subst hreturn
    rfl
  by_cases htab : c = '\t'
  · subst htab
    rfl
  by_cases hback : c.toNat = 8
  · obtain rfl : c = Char.ofNat 8 := by rw [← hback, Char.ofNat_toNat]
    rfl
  by_cases hform : c.toNat = 12
  · obtain rfl : c = Char.ofNat 12 := by rw [← hform, Char.ofNat_toNat]
    rfl
  by_cases hcontrol : c.toNat < 32
  · have hescape : escapeChar c =
        ['\\', 'u', '0', '0', hexDigit (c.toNat / 16), hexDigit (c.toNat % 16)] := by
      simp [escapeChar, hquote, hslash, hfeed, hreturn, htab, hback, hform, hcontrol]
    have hread := readText_unit hcontrol tail
    rw [Char.ofNat_toNat] at hread
    rw [hescape]
    exact hread
  · have hescape : escapeChar c = [c] := by
      simp [escapeChar, hquote, hslash, hfeed, hreturn, htab, hback, hform, hcontrol]
    rw [hescape]
    exact readText_cons hquote hslash (by omega) tail

theorem readText_escaped (text tail : List Char) :
    readText (text.flatMap escapeChar ++ '"' :: tail) = .ok (text, tail) := by
  induction text with
  | nil => rfl
  | cons c text ih =>
      rw [List.flatMap_cons, List.append_assoc, readText_escapeChar, ih]
      rfl

theorem readString_escaped (s : String) (tail : List Char) :
    readString (s.toList.flatMap escapeChar ++ '"' :: tail) =
      (.string (.ok s) none, some tail) := by
  simp only [readString, readText_escaped, String.ofList_toList]

/-- A quoted text ends by itself. -/
theorem quoteChars_append_inj {first second rest rest' : List Char}
    (h : quoteChars first ++ rest = quoteChars second ++ rest') :
    first = second ∧ rest = rest' := by
  have hread : ∀ text tail : List Char,
      readText ((quoteChars text ++ tail).tail) = .ok (text, tail) := by
    intro text tail
    rw [quoteChars, List.cons_append, List.cons_append, List.tail_cons, List.append_assoc]
    exact readText_escaped text tail
  have hsame := hread first rest
  rw [h, hread second rest', Except.ok.injEq, Prod.mk.injEq] at hsame
  exact ⟨hsame.1.symm, hsame.2.symm⟩

/-! ### Integers -/

/-- Integers of 64 bits, with a sign or without. -/
def Number.IsExact : Number → Prop
  | .integer n => -2 ^ 63 ≤ n ∧ n < 2 ^ 64
  | .real _ => False

theorem head?_toDigits_ne_zero {n : Nat} (h : n ≠ 0) : (Nat.toDigits 10 n).head? ≠ some '0' := by
  induction n using Nat.strongRecOn with
  | ind n ih =>
      by_cases hsmall : n < 10
      · have hdigit : ∀ k < 10, k ≠ 0 → [Nat.digitChar k].head? ≠ some '0' := by decide
        rw [Nat.toDigits_of_lt_base hsmall]
        exact hdigit n hsmall h
      · have hne : Nat.toDigits 10 (n / 10) ≠ [] := Nat.toDigits_ne_nil
        rw [Nat.toDigits_of_base_le (by decide) (by omega), List.head?_append_of_ne_nil _ hne]
        exact ih (n / 10) (by omega) (by omega)

theorem takeDigits_of_le {digits count : Nat} {cs : List Char}
    (h : Nat.ofDigitChars 10 cs digits ≤ Numeral.maxDigits) :
    Numeral.takeDigits digits count cs =
      (Nat.ofDigitChars 10 cs digits, count + cs.length) := by
  induction cs generalizing digits count with
  | nil => rfl
  | cons c cs ih =>
      have hnext : digits * 10 + Numeral.digitValue c = 10 * digits + (c.toNat - '0'.toNat) := by
        rw [Numeral.digitValue, Nat.mul_comm]
      rw [Nat.ofDigitChars_cons, ← hnext] at h ⊢
      have hle : digits * 10 + Numeral.digitValue c ≤ Numeral.maxDigits := by
        rw [Nat.ofDigitChars_eq_ofDigitChars_zero] at h
        calc
          digits * 10 + Numeral.digitValue c ≤
              10 ^ cs.length * (digits * 10 + Numeral.digitValue c) :=
            Nat.le_mul_of_pos_left _ (Nat.pow_pos (by decide))
          _ ≤ 10 ^ cs.length * (digits * 10 + Numeral.digitValue c) +
              Nat.ofDigitChars 10 cs 0 := Nat.le_add_right _ _
          _ ≤ Numeral.maxDigits := h
      rw [Numeral.takeDigits, if_pos hle, ih h, List.length_cons]
      simp only [Prod.mk.injEq, true_and]
      omega

theorem takeDigits_toDigits {n : Nat} (h : n ≤ Numeral.maxDigits) :
    Numeral.takeDigits 0 0 (Nat.toDigits 10 n) = (n, (Nat.toDigits 10 n).length) := by
  rw [takeDigits_of_le (by rwa [Nat.ofDigitChars_ten_toDigits]), Nat.ofDigitChars_ten_toDigits,
    Nat.zero_add]

theorem value_toDigits {n : Nat} (h : n < 2 ^ 64) :
    Numeral.value ⟨false, Nat.toDigits 10 n, none, none⟩ = .ok (.integer n) := by
  have htake := takeDigits_toDigits (n := n) (by simp only [Numeral.maxDigits]; omega)
  simp [Numeral.value, htake]

theorem value_minus {n : Nat} (hpos : 1 ≤ n) (h : n ≤ 2 ^ 63) :
    Numeral.value ⟨true, Nat.toDigits 10 n, none, none⟩ = .ok (.integer (-n)) := by
  have htake := takeDigits_toDigits (n := n) (by simp only [Numeral.maxDigits]; omega)
  have hlimit : n ≤ 0x8000000000000000 := h
  have hrange : (decide (1 ≤ n) && decide (n ≤ 0x8000000000000000)) = true := by
    rw [decide_eq_true hpos, decide_eq_true hlimit]
    rfl
  simp only [Numeral.value, htake, hrange]
  simp

theorem toList_toString_of_nonneg {n : Int} (h : 0 ≤ n) :
    (toString n).toList = Nat.toDigits 10 n.toNat := by
  rw [Int.toString_eq_repr, Int.repr_eq_if, if_pos h, Nat.toList_repr]

theorem toList_toString_of_neg {n : Int} (h : n < 0) :
    (toString n).toList = '-' :: Nat.toDigits 10 (-n).toNat := by
  rw [Int.toString_eq_repr, Int.repr_eq_if, if_neg (by omega), String.toList_append,
    Nat.toList_repr]
  rfl

end BrowserFlow.Json
