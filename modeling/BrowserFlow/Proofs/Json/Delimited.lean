import BrowserFlow.Proofs.Json.Pretty
import Mathlib.Data.List.Forall2

/-!
# Texts that end by themselves

Where an entry of a container ends can be told from its text, whatever the numbers in it are. So two
values with one text differ at most in numbers that are written the same.
-/

namespace BrowserFlow.Json

/-! ### Numbers -/

def isNumeralChar (c : Char) : Bool :=
  c.isDigit || c == '-' || c == '+' || c == '.' || c == 'e'

theorem isNumeralChar_of_isDigits {digits : List Char} (h : IsDigits digits) :
    ∀ c ∈ digits, isNumeralChar c := by
  intro c hc
  simp [isNumeralChar, h.isDigit c hc]

theorem Numeral.isNumeralChar_of_mem_chars {n : Numeral} (hn : n.IsSound) {c : Char}
    (h : c ∈ n.chars) : isNumeralChar c := by
  obtain ⟨negative, whole, fraction, exponent⟩ := n
  simp only [chars, List.mem_append] at h
  rcases h with h | h | h | h
  · cases negative with
    | true =>
        obtain rfl := List.mem_singleton.mp h
        rfl
    | false => exact (List.not_mem_nil h).elim
  · exact isNumeralChar_of_isDigits hn.whole c h
  · cases fraction with
    | none => exact (List.not_mem_nil h).elim
    | some digits =>
        rcases List.mem_cons.mp h with rfl | h
        · rfl
        · exact isNumeralChar_of_isDigits (hn.fraction digits rfl) c h
  · rcases exponent with _ | ⟨negative, digits⟩
    · exact (List.not_mem_nil h).elim
    · rcases List.mem_cons.mp h with rfl | h
      · rfl
      · rcases List.mem_cons.mp h with rfl | h
        · cases negative <;> rfl
        · exact isNumeralChar_of_isDigits (hn.exponent _ rfl) c h

theorem isNumeralChar_of_mem_text {n : Number} {c : Char} (h : c ∈ n.text) : isNumeralChar c := by
  obtain ⟨numeral, hsound, htext⟩ := n.exists_numeral
  exact Numeral.isNumeralChar_of_mem_chars hsound (htext ▸ h)

/-! ### Entries -/

/-- A member up to its value. -/
def memberChars (name : String) (text : List Char) : List Char :=
  quoteChars name.toList ++ ':' :: ' ' :: text

theorem prettyFields_cons (depth : Nat) (name : String) (value : Value)
    (fields : List (String × Value)) :
    prettyFields depth ((name, value) :: fields) =
      memberChars name (value.prettyChars depth) :: prettyFields depth fields := rfl

def bodyChars (depth : Nat) (entries : List (List Char)) : List Char :=
  separated (',' :: newline depth) entries

theorem bodyChars_cons_cons (depth : Nat) (first second : List Char) (rest : List (List Char)) :
    bodyChars depth (first :: second :: rest) =
      first ++ ',' :: (newline depth ++ bodyChars depth (second :: rest)) := by
  simp [bodyChars, separated]

theorem bracketed_of_ne_nil (opening closing : Char) (depth : Nat) {entries : List (List Char)}
    (h : entries ≠ []) :
    bracketed opening closing depth entries =
      opening :: newline (depth + 1) ++ separated (',' :: newline (depth + 1)) entries ++
        newline depth ++ [closing] := by
  rw [bracketed, if_neg (by simpa using h)]

/-- What follows an entry: the end of the text, the next entry, or the line of the bracket. -/
def EndsEntry (rest : List Char) : Prop := ∀ c ∈ rest.head?, c = ',' ∨ c = '\n'

theorem endsEntry_nil : EndsEntry [] := nofun

theorem endsEntry_comma (rest : List Char) : EndsEntry (',' :: rest) := by
  rintro c ⟨⟩
  exact .inl rfl

theorem endsEntry_newline (depth : Nat) (rest : List Char) : EndsEntry (newline depth ++ rest) := by
  rintro c ⟨⟩
  exact .inr rfl

theorem number_append_inj {m n : Number} {rest rest' : List Char} (hrest : EndsEntry rest)
    (hrest' : EndsEntry rest') (h : m.text ++ rest = n.text ++ rest') :
    m.text = n.text ∧ rest = rest' := by
  have htake : ∀ (n : Number) {rest : List Char}, EndsEntry rest →
      (n.text ++ rest).takeWhile isNumeralChar = n.text := by
    intro n rest hrest
    rw [List.takeWhile_append_of_pos fun c => isNumeralChar_of_mem_text]
    cases rest with
    | nil => simp
    | cons c rest =>
        have hc : isNumeralChar c = false := by
          rcases hrest c rfl with rfl | rfl <;> rfl
        simp [hc]
  have htext : m.text = n.text := by
    rw [← htake m hrest, h, htake n hrest']
  rw [htext] at h
  exact ⟨htext, List.append_cancel_left h⟩

/-- Entries that end by themselves make bodies that do. -/
theorem bodyChars_append_inj {entry : α → List Char} {related : α → α → Prop}
    {items others : List α} {depth closing : Nat} {tail tail' : List Char}
    (hentry : ∀ a ∈ items, ∀ b rest rest', EndsEntry rest → EndsEntry rest' →
      entry a ++ rest = entry b ++ rest' → related a b ∧ rest = rest')
    (hitems : items ≠ []) (hothers : others ≠ [])
    (h : bodyChars depth (items.map entry) ++ (newline closing ++ tail) =
      bodyChars depth (others.map entry) ++ (newline closing ++ tail')) :
    List.Forall₂ related items others ∧ tail = tail' := by
  -- An entry is followed by a comma or by the line of the bracket, which tells a last one apart.
  induction items generalizing others with
  | nil => exact absurd rfl hitems
  | cons a items ih =>
      obtain ⟨b, others, rfl⟩ := List.exists_cons_of_ne_nil hothers
      have hhead := hentry a List.mem_cons_self b
      cases items with
      | nil =>
          cases others with
          | nil =>
              obtain ⟨hab, htail⟩ :=
                hhead _ _ (endsEntry_newline closing _) (endsEntry_newline closing _) h
              exact ⟨.cons hab .nil, List.append_cancel_left htail⟩
          | cons b' others =>
              simp only [List.map_cons, bodyChars_cons_cons, List.append_assoc,
                List.cons_append] at h
              exact nomatch
                (hhead _ _ (endsEntry_newline closing _) (endsEntry_comma _) h).2
      | cons a' items =>
          cases others with
          | nil =>
              simp only [List.map_cons, bodyChars_cons_cons, List.append_assoc,
                List.cons_append] at h
              exact nomatch
                (hhead _ _ (endsEntry_comma _) (endsEntry_newline closing _) h).2
          | cons b' others =>
              simp only [List.map_cons, bodyChars_cons_cons, List.append_assoc,
                List.cons_append] at h
              obtain ⟨hab, hmore⟩ := hhead _ _ (endsEntry_comma _) (endsEntry_comma _) h
              obtain ⟨hrelated, htail⟩ := ih
                (fun a ha => hentry a (List.mem_cons_of_mem _ ha)) (List.cons_ne_nil _ _)
                (List.cons_ne_nil _ _)
                (List.append_cancel_left (List.cons.inj hmore).2)
              exact ⟨.cons hab hrelated, htail⟩

/-! ### Values -/

/-- The same value, but for numbers, which are only written the same. -/
inductive Value.WrittenAlike : Value → Value → Prop
  | null : WrittenAlike .null .null
  | bool (b : Bool) : WrittenAlike (.bool b) (.bool b)
  | string (s : String) : WrittenAlike (.string s) (.string s)
  | number {m n : Number} (h : m.text = n.text) : WrittenAlike (.number m) (.number n)
  | array {items others : List Value} (h : List.Forall₂ WrittenAlike items others) :
      WrittenAlike (.array items) (.array others)
  | object {fields others : List (String × Value)}
      (hnames : fields.map Prod.fst = others.map Prod.fst)
      (hvalues : List.Forall₂ WrittenAlike (fields.map Prod.snd) (others.map Prod.snd)) :
      WrittenAlike (.object fields) (.object others)

namespace Value

theorem writtenAlike_number_iff {m n : Number} :
    (number m).WrittenAlike (number n) ↔ m.text = n.text := by
  refine ⟨fun h => ?_, .number⟩
  cases h with
  | number h => exact h

theorem writtenAlike_array_iff {items others : List Value} :
    (array items).WrittenAlike (array others) ↔ List.Forall₂ WrittenAlike items others := by
  refine ⟨fun h => ?_, .array⟩
  cases h with
  | array h => exact h

theorem writtenAlike_object_iff {fields others : List (String × Value)} :
    (object fields).WrittenAlike (object others) ↔
      fields.map Prod.fst = others.map Prod.fst ∧
        List.Forall₂ WrittenAlike (fields.map Prod.snd) (others.map Prod.snd) := by
  refine ⟨fun h => ?_, fun h => .object h.1 h.2⟩
  cases h with
  | object hnames hvalues => exact ⟨hnames, hvalues⟩

end Value

/-- The first character of a text, unless it is a number. -/
def Value.opening : Value → Option Char
  | .null => some 'n'
  | .bool b => some (if b then 't' else 'f')
  | .number _ => none
  | .string _ => some '"'
  | .array _ => some '['
  | .object _ => some '{'

theorem exists_bracketed (opening closing : Char) (depth : Nat) (entries : List (List Char)) :
    ∃ rest, bracketed opening closing depth entries = opening :: rest := by
  rw [bracketed]
  split
  · exact ⟨_, rfl⟩
  · exact ⟨_, rfl⟩

theorem exists_prettyChars (v : Value) (depth : Nat) :
    ∃ c rest, v.prettyChars depth = c :: rest ∧
      v.opening = if isNumeralChar c then none else some c := by
  cases v with
  | null => exact ⟨'n', _, rfl, rfl⟩
  | bool b =>
      cases b with
      | false => exact ⟨'f', _, rfl, rfl⟩
      | true => exact ⟨'t', _, rfl, rfl⟩
  | string s => exact ⟨'"', _, rfl, rfl⟩
  | number n =>
      obtain ⟨c, rest, htext, -⟩ := n.exists_text_eq_cons
      have hc : isNumeralChar c := isNumeralChar_of_mem_text (htext ▸ List.mem_cons_self)
      exact ⟨c, rest, htext, (if_pos hc).symm⟩
  | array items =>
      obtain ⟨rest, hrest⟩ := exists_bracketed '[' ']' depth (prettyItems (depth + 1) items)
      exact ⟨'[', rest, hrest, rfl⟩
  | object fields =>
      obtain ⟨rest, hrest⟩ := exists_bracketed '{' '}' depth (prettyFields (depth + 1) fields)
      exact ⟨'{', rest, hrest, rfl⟩

theorem opening_eq_of_append_eq {v w : Value} {depth : Nat} {tail tail' : List Char}
    (h : v.prettyChars depth ++ tail = w.prettyChars depth ++ tail') : v.opening = w.opening := by
  obtain ⟨c, rest, hv, hopening⟩ := exists_prettyChars v depth
  obtain ⟨c', rest', hw, hopening'⟩ := exists_prettyChars w depth
  rw [hv, hw] at h
  rw [hopening, hopening', (List.cons.inj h).1]

theorem prettyItems_eq_map (depth : Nat) (items : List Value) :
    prettyItems depth items = items.map (Value.prettyChars depth) := by
  induction items with
  | nil => rfl
  | cons item items ih => rw [prettyItems, ih, List.map_cons]

theorem prettyFields_eq_map (depth : Nat) (fields : List (String × Value)) :
    prettyFields depth fields =
      fields.map fun field => memberChars field.1 (field.2.prettyChars depth) := by
  induction fields with
  | nil => rfl
  | cons field fields ih => rw [prettyFields_cons, ih, List.map_cons]

theorem memberChars_append_inj {name name' : String} {text text' rest rest' : List Char}
    (h : memberChars name text ++ rest = memberChars name' text' ++ rest') :
    name = name' ∧ text ++ rest = text' ++ rest' := by
  rw [memberChars, memberChars, List.append_assoc, List.append_assoc] at h
  obtain ⟨hname, htail⟩ := quoteChars_append_inj h
  exact ⟨String.toList_inj.mp hname, (List.cons.inj (List.cons.inj htail).2).2⟩

theorem bracketed_append_inj {entry : α → List Char} {related : α → α → Prop}
    {items others : List α} {opening closing : Char} {depth : Nat} {tail tail' : List Char}
    (hclosing : closing ≠ '\n')
    (hentry : ∀ a ∈ items, ∀ b rest rest', EndsEntry rest → EndsEntry rest' →
      entry a ++ rest = entry b ++ rest' → related a b ∧ rest = rest')
    (h : bracketed opening closing depth (items.map entry) ++ tail =
      bracketed opening closing depth (others.map entry) ++ tail') :
    List.Forall₂ related items others ∧ tail = tail' := by
  have hbody : ∀ (entries : List (List Char)) (tail : List Char), entries ≠ [] →
      bracketed opening closing depth entries ++ tail =
        opening :: (newline (depth + 1) ++
          (bodyChars (depth + 1) entries ++ (newline depth ++ closing :: tail))) := by
    intro entries tail hne
    simp [bracketed_of_ne_nil opening closing depth hne, bodyChars]
  cases items with
  | nil =>
      cases others with
      | nil => exact ⟨.nil, List.append_cancel_left h⟩
      | cons b others =>
          rw [hbody ((b :: others).map entry) tail' (by simp)] at h
          exact absurd (List.cons.inj (List.cons.inj h).2).1 hclosing
  | cons a items =>
      cases others with
      | nil =>
          rw [hbody ((a :: items).map entry) tail (by simp)] at h
          exact absurd (List.cons.inj (List.cons.inj h).2).1.symm hclosing
      | cons b others =>
          rw [hbody ((a :: items).map entry) tail (by simp),
            hbody ((b :: others).map entry) tail' (by simp)] at h
          obtain ⟨hrelated, htail⟩ := bodyChars_append_inj hentry (List.cons_ne_nil _ _)
            (List.cons_ne_nil _ _) (List.append_cancel_left (List.cons.inj h).2)
          exact ⟨hrelated, (List.cons.inj htail).2⟩

theorem Value.induction {motive : Value → Prop} (null : motive .null)
    (bool : ∀ b, motive (.bool b)) (number : ∀ n, motive (.number n))
    (string : ∀ s, motive (.string s))
    (array : ∀ items, (∀ item ∈ items, motive item) → motive (.array items))
    (object : ∀ fields, (∀ field ∈ fields, motive field.2) → motive (.object fields)) :
    ∀ v, motive v
  | .null => null
  | .bool b => bool b
  | .number n => number n
  | .string s => string s
  | .array items => array items fun item _ => induction null bool number string array object item
  | .object fields =>
      object fields fun field _ => induction null bool number string array object field.2
termination_by v => sizeOf v
decreasing_by
  · have hitem := List.sizeOf_lt_of_mem ‹item ∈ items›
    simp only [Value.array.sizeOf_spec]
    omega
  · obtain ⟨name, value⟩ := field
    have hfield := List.sizeOf_lt_of_mem ‹(name, value) ∈ fields›
    simp only [Value.object.sizeOf_spec, Prod.mk.sizeOf_spec] at hfield ⊢
    omega

/-- A written value ends by itself, and tells all of itself but what its numbers are. -/
theorem Value.prettyChars_append_inj {v w : Value} {depth : Nat} {tail tail' : List Char}
    (htail : EndsEntry tail) (htail' : EndsEntry tail')
    (h : v.prettyChars depth ++ tail = w.prettyChars depth ++ tail') :
    v.WrittenAlike w ∧ tail = tail' := by
  have hopening := opening_eq_of_append_eq h
  induction v using Value.induction generalizing w depth tail tail' with
  | null =>
      cases w with
      | null => exact ⟨.null, List.append_cancel_left h⟩
      | _ => exact absurd hopening (by simp [opening, eq_ite_iff])
  | bool b =>
      cases w with
      | bool b' =>
          obtain rfl : b = b' := by
            cases b <;> cases b' <;> first | rfl | exact absurd hopening (by decide)
          exact ⟨.bool b, List.append_cancel_left h⟩
      | _ => exact absurd hopening (by simp [opening, ite_eq_iff])
  | string s =>
      cases w with
      | string s' =>
          obtain ⟨hs, hrest⟩ := quoteChars_append_inj h
          rw [String.toList_inj.mp hs]
          exact ⟨.string s', hrest⟩
      | _ => exact absurd hopening (by simp [opening, eq_ite_iff])
  | number m =>
      cases w with
      | number n =>
          obtain ⟨htext, hrest⟩ := number_append_inj htail htail' h
          exact ⟨.number htext, hrest⟩
      | _ => exact absurd hopening (by simp [opening])
  | array items ih =>
      cases w with
      | array others =>
          rw [prettyChars, prettyChars, prettyItems_eq_map, prettyItems_eq_map] at h
          obtain ⟨hitems, hrest⟩ := bracketed_append_inj (by decide)
            (fun item hitem other rest rest' hends hends' heq =>
              ih item hitem hends hends' heq (opening_eq_of_append_eq heq)) h
          exact ⟨.array hitems, hrest⟩
      | _ => exact absurd hopening (by simp [opening, eq_ite_iff])
  | object fields ih =>
      cases w with
      | object others =>
          rw [prettyChars, prettyChars, prettyFields_eq_map, prettyFields_eq_map] at h
          have hentry : ∀ field ∈ fields, ∀ (other : String × Value) (rest rest' : List Char),
              EndsEntry rest → EndsEntry rest' →
              memberChars field.1 (field.2.prettyChars (depth + 1)) ++ rest =
                memberChars other.1 (other.2.prettyChars (depth + 1)) ++ rest' →
              (field.1 = other.1 ∧ field.2.WrittenAlike other.2) ∧ rest = rest' := by
            intro field hfield other rest rest' hends hends' heq
            obtain ⟨hname, hvalue⟩ := memberChars_append_inj heq
            obtain ⟨halike, hrest⟩ :=
              ih field hfield hends hends' hvalue (opening_eq_of_append_eq hvalue)
            exact ⟨⟨hname, halike⟩, hrest⟩
          obtain ⟨hfields, hrest⟩ := bracketed_append_inj (by decide) hentry h
          have hnames : List.Forall₂ (· = ·) (fields.map Prod.fst) (others.map Prod.fst) := by
            rw [List.forall₂_map_left_iff, List.forall₂_map_right_iff]
            exact hfields.imp fun _ _ h => h.1
          have hvalues : List.Forall₂ WrittenAlike (fields.map Prod.snd) (others.map Prod.snd) := by
            rw [List.forall₂_map_left_iff, List.forall₂_map_right_iff]
            exact hfields.imp fun _ _ h => h.2
          rw [List.forall₂_eq_eq_eq] at hnames
          exact ⟨.object hnames hvalues, hrest⟩
      | _ => exact absurd hopening (by simp [opening, eq_ite_iff])

theorem Value.writtenAlike_of_pretty_eq {v w : Value} (h : v.pretty = w.pretty) :
    v.WrittenAlike w := by
  have htext : v.prettyChars 0 ++ [] = w.prettyChars 0 ++ [] := by
    rw [List.append_nil, List.append_nil]
    exact String.ofList_inj.mp h
  exact (prettyChars_append_inj endsEntry_nil endsEntry_nil htext).1

end BrowserFlow.Json
