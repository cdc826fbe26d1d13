import BrowserFlow.Proofs.Json.Shortest

/-!
# Texts read back

A layout puts blanks before each entry and each closing bracket of a container, and after each
colon. In every layout the text of a value is read as the same draft, whatever follows it: that of
the value, with each number as its text stands for it. Fuel is counted in characters: every
container spends one of its brackets on itself, and every entry more than its own characters on the
entries after it.
-/

namespace BrowserFlow.Json

/-! ### Blanks -/

def IsBlanks (text : List Char) : Prop := ∀ c ∈ text, isJsonBlank c = true

section Blanks

variable {blanks : List Char} (hblanks : IsBlanks blanks)

include hblanks

theorem skipBlanks_append (cs : List Char) : skipBlanks (blanks ++ cs) = skipBlanks cs :=
  List.dropWhile_append_of_pos hblanks

theorem readValue_blanks (fuel : Nat) (cs : List Char) :
    readValue fuel (blanks ++ cs) = readValue fuel cs := by
  cases fuel with
  | zero => rfl
  | succ fuel => rw [readValue, readValue, skipBlanks_append hblanks]

theorem readItems_blanks (fuel : Nat) (cs : List Char) :
    readItems fuel (blanks ++ cs) = readItems fuel cs := by
  cases fuel with
  | zero => rfl
  | succ fuel => rw [readItems, readItems, readValue_blanks hblanks]

theorem readMembers_blanks (fuel : Nat) (cs : List Char) :
    readMembers fuel (blanks ++ cs) = readMembers fuel cs := by
  cases fuel with
  | zero => rfl
  | succ fuel => rw [readMembers, readMembers, skipBlanks_append hblanks]

theorem EndsNumeral.blanks_append {rest : List Char} (h : EndsNumeral rest) :
    EndsNumeral (blanks ++ rest) := by
  intro c hc
  cases blanks with
  | nil => exact h c hc
  | cons blank blanks =>
      obtain rfl : blank = c := Option.some.inj hc
      have hblank := hblanks blank List.mem_cons_self
      simp only [isJsonBlank, Bool.or_eq_true, beq_iff_eq] at hblank
      rcases hblank with ((rfl | rfl) | rfl) | rfl <;> decide

end Blanks

theorem skipBlanks_cons {c : Char} (h : isJsonBlank c = false) (cs : List Char) :
    skipBlanks (c :: cs) = c :: cs :=
  List.dropWhile_cons_of_neg (by simp [h])

theorem endsNumeral_comma (cs : List Char) : EndsNumeral (',' :: cs) := by
  rintro c ⟨⟩
  decide

theorem endsNumeral_bracket (cs : List Char) : EndsNumeral (']' :: cs) := by
  rintro c ⟨⟩
  decide

theorem endsNumeral_brace (cs : List Char) : EndsNumeral ('}' :: cs) := by
  rintro c ⟨⟩
  decide

/-! ### Layouts -/

structure Layout where
  /-- Before the entries that stand at a depth, and before the closing bracket that does. -/
  gap : Nat → List Char
  /-- After a colon. -/
  space : List Char
  isBlanks_gap : ∀ depth, IsBlanks (gap depth)
  isBlanks_space : IsBlanks space

namespace Layout

variable (layout : Layout)

def body (depth : Nat) (entries : List (List Char)) : List Char :=
  separated (',' :: layout.gap depth) entries

/-- An empty container closes at once. -/
def bracketed (opening closing : Char) (depth : Nat) (entries : List (List Char)) : List Char :=
  if entries.isEmpty then [opening, closing]
  else
    opening :: (layout.gap (depth + 1) ++
      (layout.body (depth + 1) entries ++ (layout.gap depth ++ [closing])))

def member (name : String) (text : List Char) : List Char :=
  quoteChars name.toList ++ ':' :: (layout.space ++ text)

mutual

def chars (depth : Nat) : Value → List Char
  | .null => ['n', 'u', 'l', 'l']
  | .bool true => ['t', 'r', 'u', 'e']
  | .bool false => ['f', 'a', 'l', 's', 'e']
  | .number n => n.text
  | .string s => quoteChars s.toList
  | .array items => layout.bracketed '[' ']' depth (itemChars (depth + 1) items)
  | .object fields => layout.bracketed '{' '}' depth (fieldChars (depth + 1) fields)

def itemChars (depth : Nat) : List Value → List (List Char)
  | [] => []
  | item :: items => chars depth item :: itemChars depth items

def fieldChars (depth : Nat) : List (String × Value) → List (List Char)
  | [] => []
  | (name, value) :: fields => layout.member name (chars depth value) :: fieldChars depth fields

end

theorem bracketed_of_ne_nil (opening closing : Char) (depth : Nat) {entries : List (List Char)}
    (h : entries ≠ []) :
    layout.bracketed opening closing depth entries =
      opening :: (layout.gap (depth + 1) ++
        (layout.body (depth + 1) entries ++ (layout.gap depth ++ [closing]))) :=
  if_neg (by simpa using h)

theorem body_cons_cons (depth : Nat) (first second : List Char) (rest : List (List Char)) :
    layout.body depth (first :: second :: rest) =
      first ++ ',' :: (layout.gap depth ++ layout.body depth (second :: rest)) := by
  simp [body, separated]

theorem member_append (name : String) (text tail : List Char) :
    layout.member name text ++ tail =
      '"' :: (name.toList.flatMap escapeChar ++
        '"' :: ':' :: (layout.space ++ (text ++ tail))) := by
  simp [member, quoteChars]

theorem length_member (name : String) (text : List Char) :
    text.length + 1 ≤ (layout.member name text).length := by
  simp [member]
  omega

end Layout

/-! ### First characters -/

/-- The first character of a value is neither blank nor a closing bracket. -/
def StartsValue (text : List Char) : Prop :=
  ∃ c rest, text = c :: rest ∧ isJsonBlank c = false ∧ c ≠ ']' ∧ c ≠ '}'

theorem StartsValue.append {text : List Char} (h : StartsValue text) (more : List Char) :
    StartsValue (text ++ more) := by
  obtain ⟨c, rest, rfl, hc⟩ := h
  exact ⟨c, rest ++ more, rfl, hc⟩

theorem StartsValue.skipBlanks {text : List Char} (h : StartsValue text) :
    skipBlanks text = text := by
  obtain ⟨c, rest, rfl, hc, -⟩ := h
  exact skipBlanks_cons hc rest

theorem StartsValue.one_le_length {text : List Char} (h : StartsValue text) : 1 ≤ text.length := by
  obtain ⟨c, rest, rfl, -⟩ := h
  simp

theorem startsValue_quoteChars (text : List Char) : StartsValue (quoteChars text) :=
  ⟨'"', text.flatMap escapeChar ++ ['"'], rfl, by decide, by decide, by decide⟩

/-- A sign or a digit starts nothing but a number. -/
theorem ne_of_startsNumeral {c : Char} (hc : c = '-' ∨ c.isDigit = true) :
    ∀ d ∈ [' ', '\n', '\t', '\r', 'n', 't', 'f', '"', '[', ']', '{', '}'], c ≠ d := by
  rintro d hd rfl
  have hnone : [' ', '\n', '\t', '\r', 'n', 't', 'f', '"', '[', ']', '{', '}'].all
      (fun d => !(decide (d = '-') || d.isDigit)) = true := rfl
  have hfree := List.all_eq_true.mp hnone c hd
  have hsome : (decide (c = '-') || c.isDigit) = true := by simpa using hc
  rw [hsome] at hfree
  exact nomatch hfree

theorem startsValue_text (n : Number) : StartsValue n.text := by
  obtain ⟨c, rest, htext, hc⟩ := n.exists_text_eq_cons
  have hother := ne_of_startsNumeral hc
  simp only [List.mem_cons, List.not_mem_nil, or_false, forall_eq_or_imp, forall_eq] at hother
  exact ⟨c, rest, htext, by simp [isJsonBlank, hother], by simp [hother], by simp [hother]⟩

namespace Layout

variable (layout : Layout)

theorem startsValue_bracketed {opening closing : Char} (hblank : isJsonBlank opening = false)
    (h : opening ≠ ']') (h' : opening ≠ '}') (depth : Nat) (entries : List (List Char)) :
    StartsValue (layout.bracketed opening closing depth entries) := by
  rw [bracketed]
  split
  · exact ⟨opening, [closing], rfl, hblank, h, h'⟩
  · exact ⟨opening, _, rfl, hblank, h, h'⟩

theorem startsValue_chars (depth : Nat) (v : Value) : StartsValue (layout.chars depth v) := by
  cases v with
  | null => exact ⟨'n', _, rfl, by decide, by decide, by decide⟩
  | bool b =>
      cases b with
      | false => exact ⟨'f', _, rfl, by decide, by decide, by decide⟩
      | true => exact ⟨'t', _, rfl, by decide, by decide, by decide⟩
  | string s => exact startsValue_quoteChars s.toList
  | number n => exact startsValue_text n
  | array items => exact layout.startsValue_bracketed (by decide) (by decide) (by decide) depth _
  | object fields => exact layout.startsValue_bracketed (by decide) (by decide) (by decide) depth _

theorem startsValue_member (name : String) (text : List Char) :
    StartsValue (layout.member name text) :=
  (startsValue_quoteChars name.toList).append _

theorem startsValue_body (depth : Nat) {first : List Char} (h : StartsValue first)
    (rest : List (List Char)) : StartsValue (layout.body depth (first :: rest)) := by
  cases rest with
  | nil => exact h
  | cons second rest =>
      rw [body_cons_cons]
      exact h.append _

end Layout

theorem readValue_text (n : Number) {tail : List Char} (htail : EndsNumeral tail) (fuel : Nat) :
    readValue (fuel + 1) (n.text ++ tail) = (.number n.reread, some tail) := by
  have hread := n.readNumber_text htail
  obtain ⟨c, rest, htext, hc⟩ := n.exists_text_eq_cons
  rw [htext, List.cons_append] at hread ⊢
  have hdigit : (decide (c = '-') || c.isDigit) = true := by simpa using hc
  have hother := ne_of_startsNumeral hc
  simp only [List.mem_cons, List.not_mem_nil, or_false, forall_eq_or_imp, forall_eq] at hother
  obtain ⟨hspace, hfeed, htab, hreturn, hnull, htrue, hfalse, hquote, hbracket, -, hbrace, -⟩ :=
    hother
  have hblank : isJsonBlank c = false := by simp [isJsonBlank, hspace, hfeed, htab, hreturn]
  rw [readValue, skipBlanks_cons hblank]
  split
  · next heq => exact absurd heq (List.cons_ne_nil _ _)
  · next heq => exact absurd (List.cons.inj heq).1 hnull
  · next heq => exact absurd (List.cons.inj heq).1 htrue
  · next heq => exact absurd (List.cons.inj heq).1 hfalse
  · next heq => exact absurd (List.cons.inj heq).1 hquote
  · next heq => exact absurd (List.cons.inj heq).1 hbracket
  · next heq => exact absurd (List.cons.inj heq).1 hbrace
  · next heq =>
      obtain ⟨rfl, rfl⟩ := List.cons.inj heq
      rw [if_pos hdigit, hread]

/-! ### One container and one entry -/

section Container

variable {fuel : Nat} {before after body tail : List Char} (hbefore : IsBlanks before)
  (hbody : StartsValue body)

include hbefore hbody

theorem readValue_array {items : List Draft}
    (hitems : readItems fuel (body ++ (after ++ ']' :: tail)) = (items, none, some tail)) :
    readValue (fuel + 1) ('[' :: (before ++ (body ++ (after ++ ']' :: tail)))) =
      (.array items none, some tail) := by
  have hskip := (hbody.append (after ++ ']' :: tail)).skipBlanks
  obtain ⟨c, rest, hcons, -, hbracket, -⟩ := hbody.append (after ++ ']' :: tail)
  rw [readValue, skipBlanks_cons (by decide)]
  simp only [skipBlanks_append hbefore, hskip]
  split
  · next heq =>
      rw [hcons] at heq
      exact absurd (List.cons.inj heq).1 hbracket
  · rw [hitems]

theorem readValue_object {members : List (Draft × Draft)}
    (hmembers : readMembers fuel (body ++ (after ++ '}' :: tail)) = (members, none, some tail)) :
    readValue (fuel + 1) ('{' :: (before ++ (body ++ (after ++ '}' :: tail)))) =
      (.object members none, some tail) := by
  have hskip := (hbody.append (after ++ '}' :: tail)).skipBlanks
  obtain ⟨c, rest, hcons, -, -, hbrace⟩ := hbody.append (after ++ '}' :: tail)
  rw [readValue, skipBlanks_cons (by decide)]
  simp only [skipBlanks_append hbefore, hskip]
  split
  · next heq =>
      rw [hcons] at heq
      exact absurd (List.cons.inj heq).1 hbrace
  · rw [hmembers]

end Container

section Entry

variable {layout : Layout} {fuel : Nat} {blanks text tail more : List Char}
  (hblanks : IsBlanks blanks)

include hblanks

theorem readItems_last {item : Draft}
    (hitem : readValue fuel (text ++ (blanks ++ ']' :: tail)) =
      (item, some (blanks ++ ']' :: tail))) :
    readItems (fuel + 1) (text ++ (blanks ++ ']' :: tail)) = ([item], none, some tail) := by
  rw [readItems, hitem]
  simp only [skipBlanks_append hblanks, skipBlanks_cons (by decide : isJsonBlank ']' = false)]

theorem readItems_more {item : Draft} {items : List Draft}
    (hitem : readValue fuel (text ++ ',' :: (blanks ++ more)) =
      (item, some (',' :: (blanks ++ more))))
    (hitems : readItems fuel more = (items, none, some tail)) :
    readItems (fuel + 1) (text ++ ',' :: (blanks ++ more)) = (item :: items, none, some tail) := by
  rw [readItems, hitem]
  simp only [skipBlanks_cons (by decide : isJsonBlank ',' = false), readItems_blanks hblanks,
    hitems]

theorem readMembers_last {name : String} {value : Draft}
    (hvalue : readValue fuel (text ++ (blanks ++ '}' :: tail)) =
      (value, some (blanks ++ '}' :: tail))) :
    readMembers (fuel + 1) (layout.member name text ++ (blanks ++ '}' :: tail)) =
      ([(.string (.ok name) none, value)], none, some tail) := by
  rw [layout.member_append, readMembers, skipBlanks_cons (by decide)]
  simp only [readString_escaped, skipBlanks_cons (by decide : isJsonBlank ':' = false),
    readValue_blanks layout.isBlanks_space, hvalue, skipBlanks_append hblanks,
    skipBlanks_cons (by decide : isJsonBlank '}' = false)]

theorem readMembers_more {name : String} {value : Draft} {members : List (Draft × Draft)}
    (hvalue : readValue fuel (text ++ ',' :: (blanks ++ more)) =
      (value, some (',' :: (blanks ++ more))))
    (hmembers : readMembers fuel more = (members, none, some tail)) :
    readMembers (fuel + 1) (layout.member name text ++ ',' :: (blanks ++ more)) =
      ((.string (.ok name) none, value) :: members, none, some tail) := by
  rw [layout.member_append, readMembers, skipBlanks_cons (by decide)]
  simp only [readString_escaped, skipBlanks_cons (by decide : isJsonBlank ':' = false),
    readValue_blanks layout.isBlanks_space, hvalue,
    skipBlanks_cons (by decide : isJsonBlank ',' = false), readMembers_blanks hblanks, hmembers]

end Entry

/-! ### All values -/

mutual

/-- The draft that a text of the value is read as. -/
def Value.draft : Value → Draft
  | .null => .null
  | .bool b => .bool b
  | .number n => .number n.reread
  | .string s => .string (.ok s) none
  | .array items => .array (rereadItems items) none
  | .object fields => .object (rereadMembers fields) none

def rereadItems : List Value → List Draft
  | [] => []
  | item :: items => item.draft :: rereadItems items

def rereadMembers : List (String × Value) → List (Draft × Draft)
  | [] => []
  | (name, value) :: fields => (.string (.ok name) none, value.draft) :: rereadMembers fields

end

namespace Layout

variable (layout : Layout)

mutual

theorem readValue_chars : ∀ (v : Value) (depth fuel : Nat) (tail : List Char),
    2 * (layout.chars depth v).length ≤ fuel + 1 → EndsNumeral tail →
      readValue fuel (layout.chars depth v ++ tail) = (v.draft, some tail)
  | v, depth, 0, tail, hfuel, _ => by
      have hlength := (layout.startsValue_chars depth v).one_le_length
      omega
  | .null, depth, fuel + 1, tail, _, _ => rfl
  | .bool true, depth, fuel + 1, tail, _, _ => rfl
  | .bool false, depth, fuel + 1, tail, _, _ => rfl
  | .string s, depth, fuel + 1, tail, _, _ => by
      have htext : layout.chars depth (.string s) ++ tail =
          '"' :: (s.toList.flatMap escapeChar ++ '"' :: tail) := by
        simp [chars, quoteChars]
      rw [htext, readValue, skipBlanks_cons (by decide)]
      exact readString_escaped s tail
  | .number n, depth, fuel + 1, tail, _, htail => readValue_text n htail fuel
  | .array [], depth, fuel + 1, tail, _, _ => rfl
  | .array (item :: items), depth, fuel + 1, tail, hfuel, _ => by
      rw [chars, layout.bracketed_of_ne_nil _ _ _ (by simp [itemChars])] at hfuel ⊢
      have hbody := layout.startsValue_body (depth + 1) (layout.startsValue_chars (depth + 1) item)
        (layout.itemChars (depth + 1) items)
      have hitems := readItems_itemChars (item :: items) (depth + 1) depth fuel tail
        (List.cons_ne_nil _ _) (by simp at hfuel; omega)
      simp only [List.cons_append, List.append_assoc, List.nil_append]
      exact readValue_array (layout.isBlanks_gap _) hbody hitems
  | .object [], depth, fuel + 1, tail, _, _ => rfl
  | .object ((name, value) :: fields), depth, fuel + 1, tail, hfuel, _ => by
      rw [chars, layout.bracketed_of_ne_nil _ _ _ (by simp [fieldChars])] at hfuel ⊢
      have hbody := layout.startsValue_body (depth + 1)
        (layout.startsValue_member name (layout.chars (depth + 1) value))
        (layout.fieldChars (depth + 1) fields)
      have hmembers := readMembers_fieldChars ((name, value) :: fields) (depth + 1) depth fuel tail
        (List.cons_ne_nil _ _) (by simp at hfuel; omega)
      simp only [List.cons_append, List.append_assoc, List.nil_append]
      exact readValue_object (layout.isBlanks_gap _) hbody hmembers

theorem readItems_itemChars : ∀ (items : List Value) (depth closing fuel : Nat)
    (tail : List Char), items ≠ [] →
    2 * (layout.body depth (layout.itemChars depth items)).length ≤ fuel →
      readItems fuel (layout.body depth (layout.itemChars depth items) ++
        (layout.gap closing ++ ']' :: tail)) = (rereadItems items, none, some tail)
  | [], _, _, _, _, hne, _ => absurd rfl hne
  | item :: items, depth, closing, 0, tail, _, hfuel => by
      have hlength := (layout.startsValue_body depth (layout.startsValue_chars depth item)
        (layout.itemChars depth items)).one_le_length
      rw [itemChars] at hfuel
      omega
  | [item], depth, closing, fuel + 1, tail, _, hfuel => by
      have hends := (endsNumeral_bracket tail).blanks_append (layout.isBlanks_gap closing)
      exact readItems_last (layout.isBlanks_gap closing)
        (readValue_chars item depth fuel _ hfuel hends)
  | item :: next :: items, depth, closing, fuel + 1, tail, _, hfuel => by
      have hlength := (layout.startsValue_chars depth item).one_le_length
      simp only [itemChars, body_cons_cons, List.append_assoc, List.cons_append,
        List.length_append, List.length_cons] at hfuel ⊢
      have hmore := readItems_itemChars (next :: items) depth closing fuel tail
        (List.cons_ne_nil _ _) (by simp only [itemChars]; omega)
      exact readItems_more (layout.isBlanks_gap depth)
        (readValue_chars item depth fuel _ (by omega) (endsNumeral_comma _)) hmore

theorem readMembers_fieldChars : ∀ (fields : List (String × Value)) (depth closing fuel : Nat)
    (tail : List Char), fields ≠ [] →
    2 * (layout.body depth (layout.fieldChars depth fields)).length ≤ fuel →
      readMembers fuel (layout.body depth (layout.fieldChars depth fields) ++
        (layout.gap closing ++ '}' :: tail)) = (rereadMembers fields, none, some tail)
  | [], _, _, _, _, hne, _ => absurd rfl hne
  | (name, value) :: fields, depth, closing, 0, tail, _, hfuel => by
      have hlength := (layout.startsValue_body depth
        (layout.startsValue_member name (layout.chars depth value))
        (layout.fieldChars depth fields)).one_le_length
      rw [fieldChars] at hfuel
      omega
  | [(name, value)], depth, closing, fuel + 1, tail, _, hfuel => by
      have hends := (endsNumeral_brace tail).blanks_append (layout.isBlanks_gap closing)
      have hlength := layout.length_member name (layout.chars depth value)
      have hsingle : layout.body depth (layout.fieldChars depth [(name, value)]) =
          layout.member name (layout.chars depth value) := rfl
      rw [hsingle] at hfuel ⊢
      exact readMembers_last (layout.isBlanks_gap closing)
        (readValue_chars value depth fuel _ (by omega) hends)
  | (name, value) :: (name', value') :: fields, depth, closing, fuel + 1, tail, _, hfuel => by
      have hlength := layout.length_member name (layout.chars depth value)
      simp only [fieldChars, body_cons_cons, List.append_assoc, List.cons_append,
        List.length_append, List.length_cons] at hfuel ⊢
      have hmore := readMembers_fieldChars ((name', value') :: fields) depth closing fuel tail
        (List.cons_ne_nil _ _) (by simp only [fieldChars]; omega)
      exact readMembers_more (layout.isBlanks_gap depth)
        (readValue_chars value depth fuel _ (by omega) (endsNumeral_comma _)) hmore

end

/-- The whole text is read, and nothing follows it. -/
theorem read_chars (v : Value) : Document.read (layout.chars 0 v) = ⟨v.draft, false⟩ := by
  have hread := layout.readValue_chars v 0 (2 * (layout.chars 0 v).length + 2) [] (by omega) nofun
  rw [List.append_nil] at hread
  rw [Document.read, hread]
  rfl

end Layout

end BrowserFlow.Json
