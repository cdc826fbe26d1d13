import BrowserFlow.Proofs.Json.Numerals
import Mathlib.Data.List.TakeWhile

/-!
# Numbers read back

The text of a real number is a numeral: its shortest digits never start with a zero, since zero is
not among the numbers that round to it, and the point leaves digits on both sides. So the text of
every number stands for a number or is too large for one, and for an exact number it is the same.
-/

namespace BrowserFlow.Json

namespace Double

/-! ### Shortest digits -/

theorem Ratio.num_scaled_pos {n base : Nat} (hn : 0 < n) (hbase : 0 < base) (exponent : Int) :
    0 < (Ratio.scaled n base exponent).num := by
  rw [Ratio.scaled]
  split
  · exact Nat.mul_pos hn (Nat.pow_pos hbase)
  · exact hn

theorem Ratio.num_scaled_zero (base : Nat) (exponent : Int) :
    (Ratio.scaled 0 base exponent).num = 0 := by
  rw [Ratio.scaled]
  split
  · exact Nat.zero_mul _
  · rfl

theorem Ratio.den_scaled_pos (n : Nat) {base : Nat} (hbase : 0 < base) (exponent : Int) :
    0 < (Ratio.scaled n base exponent).den := by
  rw [Ratio.scaled]
  split
  · exact Nat.one_pos
  · exact Nat.pow_pos hbase

variable {i : Interval}

theorem Interval.contains_zero (hlow : 0 < i.low.num) (exponent : Int) :
    i.contains (Ratio.scaled 0 10 exponent) = false := by
  have hnum := Ratio.num_scaled_zero 10 exponent
  have hden : 0 < (Ratio.scaled 0 10 exponent).den := Ratio.den_scaled_pos 0 (by decide) exponent
  have hle : i.low.le (Ratio.scaled 0 10 exponent) = false := by
    rw [Ratio.le, hnum, Nat.zero_mul, decide_eq_false_iff_not]
    exact Nat.not_le.mpr (Nat.mul_pos hlow hden)
  have hge : (Ratio.scaled 0 10 exponent).le i.low = true := by
    rw [Ratio.le, hnum, Nat.zero_mul, decide_eq_true_eq]
    exact Nat.zero_le _
  rw [Interval.contains, hle, hge]
  cases i.closed <;> rfl

theorem Interval.contains_of_nearest? {exponent : Int} {n : Nat}
    (h : i.nearest? exponent = some n) : i.contains (Ratio.scaled n 10 exponent) = true := by
  simp only [Interval.nearest?] at h
  split at h
  · next hbelow habove =>
      split at h
      · exact Option.some.inj h ▸ hbelow
      · split at h
        · exact Option.some.inj h ▸ habove
        · split at h
          · exact Option.some.inj h ▸ hbelow
          · exact Option.some.inj h ▸ habove
  · next hbelow _ => exact Option.some.inj h ▸ hbelow
  · next _ habove => exact Option.some.inj h ▸ habove
  · exact nomatch h

theorem Interval.ne_zero_of_nearest? (hlow : 0 < i.low.num) {exponent : Int} {n : Nat}
    (h : i.nearest? exponent = some n) : n ≠ 0 := by
  rintro rfl
  have hfits := Interval.contains_of_nearest? h
  rw [Interval.contains_zero hlow exponent] at hfits
  exact nomatch hfits

/-- The search comes to a number that is not zero, or to its end. -/
theorem shortestFrom_cases (hlow : 0 < i.low.num) (leading : Int) (fuel count : Nat) :
    shortestFrom i leading fuel count = (0, 0) ∨ (shortestFrom i leading fuel count).1 ≠ 0 := by
  induction fuel generalizing count with
  | zero => exact .inl rfl
  | succ fuel ih =>
      rw [shortestFrom]
      cases hnearest : i.nearest? (leading - count) with
      | none => exact ih (count + 1)
      | some n => exact .inr (Interval.ne_zero_of_nearest? hlow hnearest)

theorem significand_pos {x : Double} (hx : x.isZero = false) : 0 < x.significand := by
  rw [isZero, beq_eq_false_iff_ne] at hx
  rw [significand]
  split
  · next hsmall =>
      rw [Nat.mod_eq_of_lt hsmall]
      omega
  · exact Nat.add_pos_right _ (by decide)

theorem low_interval_pos {x : Double} (hx : x.isZero = false) : 0 < x.interval.low.num := by
  have hpos := significand_pos hx
  rw [interval]
  refine Ratio.num_scaled_pos ?_ (by decide) _
  split <;> omega

theorem isDigits_kept {n : Nat} (hn : n ≠ 0) :
    IsDigits ((Nat.toDigits 10 n).reverse.dropWhile (· == '0')).reverse ∧
      ((Nat.toDigits 10 n).reverse.dropWhile (· == '0')).reverse.head? ≠ some '0' := by
  have hhead := head?_toDigits_ne_zero hn
  obtain ⟨zeros, hsplit⟩ : ∃ zeros, Nat.toDigits 10 n =
      ((Nat.toDigits 10 n).reverse.dropWhile (· == '0')).reverse ++ zeros ∧
        ∀ c ∈ zeros, c = '0' := by
    refine ⟨((Nat.toDigits 10 n).reverse.takeWhile (· == '0')).reverse, ?_, fun c hc => ?_⟩
    · rw [← List.reverse_append, List.takeWhile_append_dropWhile, List.reverse_reverse]
    · simpa using List.mem_takeWhile_imp (List.mem_reverse.mp hc)
  generalize ((Nat.toDigits 10 n).reverse.dropWhile (· == '0')).reverse = kept at *
  obtain ⟨hsplit, hzeros⟩ := hsplit
  have hne : kept ≠ [] := by
    rintro rfl
    obtain ⟨c, rest, hcons⟩ := List.exists_cons_of_ne_nil (Nat.toDigits_ne_nil (n := n) (b := 10))
    rw [hcons, List.nil_append] at hsplit
    rw [hcons] at hhead
    exact hhead (congrArg some (hzeros c (hsplit ▸ List.mem_cons_self)))
  refine ⟨⟨hne, fun c hc => (isDigits_toDigits n).isDigit c ?_⟩, ?_⟩
  · rw [hsplit]
    exact List.mem_append_left _ hc
  · rwa [hsplit, List.head?_append_of_ne_nil _ hne] at hhead

theorem shortest_cases {x : Double} (hx : x.isZero = false) :
    x.shortest = ([], 1) ∨
      (IsDigits x.shortest.1 ∧ x.shortest.1.head? ≠ some '0') := by
  have hsearch := shortestFrom_cases (low_interval_pos hx) x.interval.value.leadingExponent 18 0
  rw [shortest]
  rcases hsearch with hend | hfound
  · left
    simp only [hend]
    rfl
  · exact .inr (isDigits_kept hfound)

/-! ### The place of the point -/

/-- A numeral without a sign. -/
def IsMagnitude (text : List Char) : Prop :=
  ∃ n : Numeral, n.IsSound ∧ n.negative = false ∧ text = n.chars

theorem isMagnitude_pointed (whole fraction : List Char) (hwhole : IsDigits whole)
    (hleading : whole = ['0'] ∨ whole.head? ≠ some '0') (hfraction : IsDigits fraction) :
    IsMagnitude (whole ++ '.' :: fraction) := by
  refine ⟨⟨false, whole, some fraction, none⟩, ⟨hwhole, hleading, ?_, nofun⟩, rfl, ?_⟩
  · rintro _ ⟨⟩
    exact hfraction
  · simp [Numeral.chars, Numeral.fractionChars, Numeral.exponentChars]

/-- The digits with the point after the first, if there are more. -/
def mantissaChars : List Char → List Char
  | [] => ['0']
  | [d] => [d]
  | d :: rest => d :: '.' :: rest

theorem isMagnitude_scientific {digits : List Char} (hdigits : IsDigits digits)
    (hhead : digits.head? ≠ some '0') (leading : Int) :
    IsMagnitude (mantissaChars digits ++
      'e' :: (if leading < 0 then '-' else '+') :: (toString leading.natAbs).toList) := by
  have hexponent : (toString leading.natAbs).toList = Nat.toDigits 10 leading.natAbs :=
    Nat.toList_repr
  have hsize : ∀ e ∈ some (decide (leading < 0), Nat.toDigits 10 leading.natAbs), IsDigits e.2 := by
    rintro _ ⟨⟩
    exact isDigits_toDigits _
  obtain ⟨d, rest, rfl⟩ := List.exists_cons_of_ne_nil hdigits.ne_nil
  have hfirst : IsDigits [d] := by
    refine ⟨List.cons_ne_nil _ _, fun c hc => ?_⟩
    rw [List.mem_singleton.mp hc]
    exact hdigits.isDigit d List.mem_cons_self
  rw [hexponent]
  cases rest with
  | nil =>
      refine ⟨⟨false, [d], none, _⟩, ⟨hfirst, .inr hhead, nofun, hsize⟩, rfl, ?_⟩
      simp [mantissaChars, Numeral.chars, Numeral.fractionChars, Numeral.exponentChars]
  | cons d' rest =>
      refine ⟨⟨false, [d], some (d' :: rest), _⟩, ⟨hfirst, .inr hhead, ?_, hsize⟩, rfl, ?_⟩
      · rintro _ ⟨⟩
        exact ⟨List.cons_ne_nil _ _, fun c hc => hdigits.isDigit c (List.mem_cons_of_mem _ hc)⟩
      · simp [mantissaChars, Numeral.chars, Numeral.fractionChars, Numeral.exponentChars]

/-- The point between the digits. -/
theorem isMagnitude_split {digits : List Char} (hdigits : IsDigits digits)
    (hhead : digits.head? ≠ some '0') {count : Nat} (hpos : 0 < count)
    (hcount : count < digits.length) :
    IsMagnitude (digits.take count ++ '.' :: digits.drop count) := by
  have htake : digits.take count ≠ [] := by
    rw [ne_eq, List.take_eq_nil_iff, not_or]
    exact ⟨hpos.ne', hdigits.ne_nil⟩
  have hdrop : digits.drop count ≠ [] := by
    rw [ne_eq, List.drop_eq_nil_iff]
    omega
  refine isMagnitude_pointed _ _ ⟨htake, fun c hc => hdigits.isDigit c (List.mem_of_mem_take hc)⟩
    (.inr ?_) ⟨hdrop, fun c hc => hdigits.isDigit c (List.mem_of_mem_drop hc)⟩
  rw [List.head?_take, if_neg hpos.ne']
  exact hhead

theorem isDigit_of_mem_zeros {count : Nat} {c : Char} (h : c ∈ List.replicate count '0') :
    c.isDigit = true := by
  rw [List.eq_of_mem_replicate h]
  rfl

theorem magnitudeText_eq (digits : List Char) (exponent leading : Int)
    (h : exponent + (digits.length : Int) - 1 = leading) :
    magnitudeText digits exponent =
      if (leading < -5 || leading > 15) = true then
        mantissaChars digits ++
          'e' :: (if leading < 0 then '-' else '+') :: (toString leading.natAbs).toList
      else if exponent ≥ 0 then digits ++ List.replicate exponent.toNat '0' ++ ['.', '0']
      else if leading ≥ 0 then
        digits.take (leading + 1).toNat ++ '.' :: digits.drop (leading + 1).toNat
      else ['0', '.'] ++ List.replicate (-leading - 1).toNat '0' ++ digits := by
  subst h
  rfl

theorem isMagnitude_magnitudeText {digits : List Char} (hdigits : IsDigits digits)
    (hhead : digits.head? ≠ some '0') (exponent : Int) :
    IsMagnitude (magnitudeText digits exponent) := by
  have hpos : 0 < digits.length := List.length_pos_iff.mpr hdigits.ne_nil
  obtain ⟨leading, hleading⟩ : ∃ leading, exponent + (digits.length : Int) - 1 = leading := ⟨_, rfl⟩
  rw [magnitudeText_eq digits exponent leading hleading]
  split
  · exact isMagnitude_scientific hdigits hhead leading
  · split
    · refine isMagnitude_pointed _ ['0'] ⟨?_, fun c hc => ?_⟩ (.inr ?_) isDigits_zero
      · exact fun hnil => hdigits.ne_nil (List.append_eq_nil_iff.mp hnil).1
      · exact (List.mem_append.mp hc).elim (hdigits.isDigit c) isDigit_of_mem_zeros
      · rwa [List.head?_append_of_ne_nil _ hdigits.ne_nil]
    · split
      · exact isMagnitude_split hdigits hhead (by omega) (by omega)
      · refine isMagnitude_pointed ['0'] _ isDigits_zero (.inl rfl)
          ⟨fun hnil => hdigits.ne_nil (List.append_eq_nil_iff.mp hnil).2, fun c hc => ?_⟩
        exact (List.mem_append.mp hc).elim isDigit_of_mem_zeros (hdigits.isDigit c)

theorem exists_numeral_text (x : Double) : ∃ n : Numeral, n.IsSound ∧ x.text = n.chars := by
  have hzero : IsMagnitude ['0', '.', '0'] :=
    isMagnitude_pointed ['0'] ['0'] isDigits_zero (.inl rfl) isDigits_zero
  have hmagnitude : IsMagnitude
      (if x.isZero then ['0', '.', '0'] else magnitudeText x.shortest.1 x.shortest.2) := by
    cases hx : x.isZero with
    | true => exact hzero
    | false =>
        rcases shortest_cases hx with hend | ⟨hdigits, hhead⟩
        · rw [hend]
          exact hzero
        · exact isMagnitude_magnitudeText hdigits hhead _
  obtain ⟨⟨negative, whole, fraction, exponent⟩, hsound, hpositive, htext⟩ := hmagnitude
  obtain rfl : negative = false := hpositive
  rw [text]
  split
  · exact ⟨⟨true, whole, fraction, exponent⟩,
      ⟨hsound.whole, hsound.leading, hsound.fraction, hsound.exponent⟩, congrArg ('-' :: ·) htext⟩
  · exact ⟨_, hsound, htext⟩

end Double

/-! ### The text of a number -/

namespace Number

theorem text_integer_of_nonneg {n : Int} (h : 0 ≤ n) :
    (integer n).text = (⟨false, Nat.toDigits 10 n.toNat, none, none⟩ : Numeral).chars := by
  rw [text, toList_toString_of_nonneg h]
  simp [Numeral.chars, Numeral.fractionChars, Numeral.exponentChars]

theorem text_integer_of_neg {n : Int} (h : n < 0) :
    (integer n).text = (⟨true, Nat.toDigits 10 (-n).toNat, none, none⟩ : Numeral).chars := by
  rw [text, toList_toString_of_neg h]
  simp [Numeral.chars, Numeral.fractionChars, Numeral.exponentChars]

theorem exists_numeral (n : Number) :
    ∃ numeral : Numeral, numeral.IsSound ∧ n.text = numeral.chars := by
  cases n with
  | real x => exact x.exists_numeral_text
  | integer n =>
      by_cases hsign : 0 ≤ n
      · exact ⟨_, Numeral.isSound_integer _ _, text_integer_of_nonneg hsign⟩
      · exact ⟨_, Numeral.isSound_integer _ _, text_integer_of_neg (by omega)⟩

theorem exists_text_eq_cons (n : Number) :
    ∃ c rest, n.text = c :: rest ∧ (c = '-' ∨ c.isDigit = true) := by
  obtain ⟨numeral, hsound, htext⟩ := n.exists_numeral
  rw [htext]
  exact Numeral.exists_chars_eq_cons hsound

/-- The number that the text of a number stands for. -/
def reread (n : Number) : Except Fault Number :=
  match readNumeral n.text with
  | .ok (numeral, _) => numeral.value
  | .error e => .error e.read

theorem reread_eq_value {n : Number} {numeral : Numeral} (hsound : numeral.IsSound)
    (htext : n.text = numeral.chars) : n.reread = numeral.value := by
  have hread : readNumeral (numeral.chars ++ []) = .ok (numeral, []) :=
    Numeral.readNumeral_chars hsound nofun
  rw [List.append_nil] at hread
  rw [reread, htext, hread]

theorem readNumber_text (n : Number) {rest : List Char} (hrest : EndsNumeral rest) :
    readNumber (n.text ++ rest) = (.number n.reread, some rest) := by
  obtain ⟨numeral, hsound, htext⟩ := n.exists_numeral
  rw [reread_eq_value hsound htext, htext, readNumber, Numeral.readNumeral_chars hsound hrest]

theorem reread_of_isExact {n : Number} (hn : n.IsExact) : n.reread = .ok n := by
  cases n with
  | real x => exact hn.elim
  | integer n =>
      obtain ⟨hlow, hhigh⟩ := hn
      by_cases hsign : 0 ≤ n
      · rw [reread_eq_value (Numeral.isSound_integer _ _) (text_integer_of_nonneg hsign),
          value_toDigits (by omega), Int.toNat_of_nonneg hsign]
      · have hnat : -((-n).toNat : Int) = n := by omega
        rw [reread_eq_value (Numeral.isSound_integer _ _) (text_integer_of_neg (by omega)),
          value_minus (by omega) (by omega), hnat]

end Number

end BrowserFlow.Json
