import BrowserFlow.Proofs.Json.Scalars

/-!
# Numerals

A numeral is read by its parts whatever follows it, as long as that cannot be a part of it. The text
of an integer is one, and so is the text of a real number: its shortest digits, which never start
with a zero, with the point wherever it belongs. So the text of a number always stands for some
number, and for the same one when the number is exact.
-/

namespace BrowserFlow.Json

/-- Some digits. -/
structure IsDigits (text : List Char) : Prop where
  ne_nil : text ≠ []
  isDigit : ∀ c ∈ text, c.isDigit = true

theorem isDigits_toDigits (n : Nat) : IsDigits (Nat.toDigits 10 n) where
  ne_nil := Nat.toDigits_ne_nil
  isDigit _ hc := Nat.isDigit_of_mem_toDigits (by decide) (by decide) hc

theorem isDigits_zero : IsDigits ['0'] := isDigits_toDigits 0

/-- No more digits can follow. -/
def EndsDigits (rest : List Char) : Prop := ∀ c ∈ rest.head?, c.isDigit = false

/-- No more of a numeral can follow. -/
def EndsNumeral (rest : List Char) : Prop :=
  ∀ c ∈ rest.head?, c.isDigit = false ∧ c ≠ '.' ∧ c ≠ 'e' ∧ c ≠ 'E'

theorem EndsNumeral.endsDigits {rest : List Char} (h : EndsNumeral rest) : EndsDigits rest :=
  fun c hc => (h c hc).1

theorem IsDigits.split {digits rest : List Char} (h : IsDigits digits) (hrest : EndsDigits rest) :
    (digits ++ rest).takeWhile Char.isDigit = digits ∧
      (digits ++ rest).dropWhile Char.isDigit = rest := by
  rw [List.takeWhile_append_of_pos h.isDigit, List.dropWhile_append_of_pos h.isDigit]
  cases rest with
  | nil => simp
  | cons c rest =>
      have hc : c.isDigit = false := hrest c rfl
      simp [hc]

/-! ### The parts of a numeral -/

namespace Numeral

def fractionChars : Option (List Char) → List Char
  | none => []
  | some digits => '.' :: digits

def exponentChars : Option (Bool × List Char) → List Char
  | none => []
  | some (negative, digits) => 'e' :: (if negative then '-' else '+') :: digits

/-- The numeral as it is written. -/
def chars (n : Numeral) : List Char :=
  (if n.negative then ['-'] else []) ++
    (n.whole ++ (fractionChars n.fraction ++ exponentChars n.exponent))

/-- Each part has digits, and the whole part has a leading zero only when it is zero. -/
structure IsSound (n : Numeral) : Prop where
  whole : IsDigits n.whole
  leading : n.whole = ['0'] ∨ n.whole.head? ≠ some '0'
  fraction : ∀ digits ∈ n.fraction, IsDigits digits
  exponent : ∀ e ∈ n.exponent, IsDigits e.2

variable {rest : List Char}

theorem readWhole_append {whole : List Char} (hdigits : IsDigits whole)
    (hleading : whole = ['0'] ∨ whole.head? ≠ some '0') (hrest : EndsDigits rest) :
    readWhole (whole ++ rest) = .ok (whole, rest) := by
  rcases hleading with rfl | hleading
  · cases rest with
    | nil => rfl
    | cons c rest =>
        have hc : c.isDigit = false := hrest c rfl
        simp [readWhole, hc]
  · obtain ⟨htake, hdrop⟩ := hdigits.split hrest
    unfold readWhole
    split
    · next rest' heq =>
        rw [← List.head?_append_of_ne_nil _ hdigits.ne_nil, heq] at hleading
        exact absurd rfl hleading
    · simp only [htake, hdrop]
      simp [hdigits.ne_nil]

theorem readFraction_append {fraction : Option (List Char)}
    (hdigits : ∀ digits ∈ fraction, IsDigits digits) (hrest : EndsDigits rest)
    (hpoint : ∀ c ∈ rest.head?, c ≠ '.') :
    readFraction (fractionChars fraction ++ rest) = .ok (fraction, rest) := by
  cases fraction with
  | none =>
      rw [fractionChars, List.nil_append]
      unfold readFraction
      split
      · exact absurd rfl (hpoint _ rfl)
      · rfl
  | some digits =>
      obtain ⟨htake, hdrop⟩ := (hdigits digits rfl).split hrest
      rw [fractionChars, List.cons_append]
      simp only [readFraction, htake, hdrop]
      simp [(hdigits digits rfl).ne_nil]

theorem readExponent_append {exponent : Option (Bool × List Char)}
    (hdigits : ∀ e ∈ exponent, IsDigits e.2) (hrest : EndsNumeral rest) :
    readExponent (exponentChars exponent ++ rest) = .ok (exponent, rest) := by
  rcases exponent with _ | ⟨negative, digits⟩
  · rw [exponentChars, List.nil_append]
    unfold readExponent
    split
    · next c rest =>
        obtain ⟨-, -, hsmall, hlarge⟩ := hrest c rfl
        simp [hsmall, hlarge]
    · rfl
  · have hsome : IsDigits digits := hdigits _ rfl
    obtain ⟨htake, hdrop⟩ := hsome.split hrest.endsDigits
    rw [exponentChars, List.cons_append, List.cons_append]
    cases negative <;> simp [readExponent, htake, hdrop, hsome.ne_nil]

/-- Neither digits nor a point stand where an exponent may. -/
theorem head_exponentChars_append (exponent : Option (Bool × List Char))
    (hrest : EndsNumeral rest) :
    ∀ c ∈ (exponentChars exponent ++ rest).head?, c.isDigit = false ∧ c ≠ '.' := by
  intro c hc
  rcases exponent with _ | ⟨negative, digits⟩
  · exact ⟨(hrest c hc).1, (hrest c hc).2.1⟩
  · obtain rfl : 'e' = c := Option.some.inj hc
    decide

theorem endsDigits_fractionChars_append (fraction : Option (List Char))
    (hrest : EndsDigits rest) : EndsDigits (fractionChars fraction ++ rest) := by
  intro c hc
  cases fraction with
  | none => exact hrest c hc
  | some digits =>
      obtain rfl : '.' = c := Option.some.inj hc
      decide

theorem readNumeral_chars {n : Numeral} (hn : n.IsSound) (hrest : EndsNumeral rest) :
    readNumeral (n.chars ++ rest) = .ok (n, rest) := by
  obtain ⟨negative, whole, fraction, exponent⟩ := n
  have hexponent := readExponent_append hn.exponent hrest
  have hafter := head_exponentChars_append exponent hrest
  have hends : EndsDigits (exponentChars exponent ++ rest) := fun c hc => (hafter c hc).1
  have hfraction := readFraction_append hn.fraction hends fun c hc => (hafter c hc).2
  have hwhole := readWhole_append hn.whole hn.leading
    (endsDigits_fractionChars_append fraction hends)
  cases negative with
  | true =>
      simp only [readNumeral, chars, if_true, List.cons_append, List.nil_append,
        List.append_assoc, hwhole, bind, Except.bind, hfraction, hexponent]
      rfl
  | false =>
      have hsign : ∀ tail, whole ++ (fractionChars fraction ++ (exponentChars exponent ++ rest)) ≠
          '-' :: tail := by
        intro tail heq
        have hhead : whole.head? = some '-' := by
          rw [← List.head?_append_of_ne_nil _ hn.whole.ne_nil, heq]
          rfl
        exact absurd (hn.whole.isDigit _ (List.mem_of_mem_head? hhead)) (by decide)
      simp only [chars, Bool.false_eq_true, if_false, List.nil_append, List.append_assoc]
      unfold readNumeral
      split
      next negative cs heq =>
        split at heq
        · next tail htail => exact absurd htail (hsign tail)
        · obtain ⟨rfl, rfl⟩ := Prod.mk.inj heq
          rw [hwhole]
          simp only [bind, Except.bind, hfraction, hexponent]
          rfl

/-- A numeral starts with a digit or a sign. -/
theorem exists_chars_eq_cons {n : Numeral} (hn : n.IsSound) :
    ∃ c rest, n.chars = c :: rest ∧ (c = '-' ∨ c.isDigit = true) := by
  obtain ⟨negative, whole, fraction, exponent⟩ := n
  cases negative with
  | true => exact ⟨'-', _, rfl, .inl rfl⟩
  | false =>
      obtain ⟨c, whole, rfl⟩ := List.exists_cons_of_ne_nil hn.whole.ne_nil
      exact ⟨c, _, rfl, .inr (hn.whole.isDigit c List.mem_cons_self)⟩

theorem isSound_integer (negative : Bool) (n : Nat) :
    IsSound ⟨negative, Nat.toDigits 10 n, none, none⟩ where
  whole := isDigits_toDigits n
  leading := by
    by_cases hzero : n = 0
    · exact .inl (hzero ▸ rfl)
    · exact .inr (head?_toDigits_ne_zero hzero)
  fraction _ h := nomatch h
  exponent _ h := nomatch h

end Numeral

end BrowserFlow.Json
