import BrowserFlow.Proofs.Json.Layout

/-!
# Compact and pretty texts

Both texts of a value are layouts of it, so both are read as the same draft. When the numbers in the
value are 64-bit integers, that is the draft of the value itself.
-/

namespace BrowserFlow.Json

mutual

/-- Whether the numbers in a value are 64-bit integers. -/
def Value.IsExact : Value → Prop
  | .null | .bool _ | .string _ => True
  | .number n => n.IsExact
  | .array items => ExactItems items
  | .object fields => ExactFields fields

def ExactItems : List Value → Prop
  | [] => True
  | item :: items => item.IsExact ∧ ExactItems items

def ExactFields : List (String × Value) → Prop
  | [] => True
  | (_, value) :: fields => value.IsExact ∧ ExactFields fields

end

theorem exactItems_iff {items : List Value} : ExactItems items ↔ ∀ v ∈ items, v.IsExact := by
  induction items with
  | nil => simp [ExactItems]
  | cons item items ih => simp [ExactItems, ih]

theorem exactFields_iff {fields : List (String × Value)} :
    ExactFields fields ↔ ∀ field ∈ fields, field.2.IsExact := by
  induction fields with
  | nil => simp [ExactFields]
  | cons field fields ih => simp [ExactFields, ih]

mutual

/-- Exact numbers stand for themselves. -/
theorem draft_of_isExact : ∀ {v : Value}, v.IsExact → v.draft = Draft.ofValue v
  | .null, _ | .bool _, _ | .string _, _ => rfl
  | .number _, hn => congrArg Draft.number (Number.reread_of_isExact hn)
  | .array _, hitems => congrArg (Draft.array · none) (rereadItems_of_isExact hitems)
  | .object _, hfields => congrArg (Draft.object · none) (rereadMembers_of_isExact hfields)

theorem rereadItems_of_isExact : ∀ {items : List Value}, ExactItems items →
    rereadItems items = draftItems items
  | [], _ => rfl
  | _ :: _, h => congrArg₂ List.cons (draft_of_isExact h.1) (rereadItems_of_isExact h.2)

theorem rereadMembers_of_isExact : ∀ {fields : List (String × Value)}, ExactFields fields →
    rereadMembers fields = draftMembers fields
  | [], _ => rfl
  | (_, _) :: _, h =>
      congrArg₂ List.cons (congrArg (Prod.mk _) (draft_of_isExact h.1))
        (rereadMembers_of_isExact h.2)

end

/-! ### The two layouts -/

namespace Layout

def pretty : Layout where
  gap := newline
  space := [' ']
  isBlanks_gap depth c hc := by
    rcases List.mem_cons.mp hc with rfl | hc
    · rfl
    · rw [List.eq_of_mem_replicate hc]
      rfl
  isBlanks_space := by
    rintro c hc
    rw [List.mem_singleton.mp hc]
    rfl

def compact : Layout where
  gap _ := []
  space := []
  isBlanks_gap _ := nofun
  isBlanks_space := nofun

theorem bracketed_pretty (opening closing : Char) (depth : Nat) (entries : List (List Char)) :
    pretty.bracketed opening closing depth entries =
      Json.bracketed opening closing depth entries := by
  rw [bracketed, Json.bracketed]
  split
  · rfl
  · simp [body, pretty]

theorem bracketed_compact (opening closing : Char) (depth : Nat) (entries : List (List Char)) :
    compact.bracketed opening closing depth entries =
      opening :: separated [','] entries ++ [closing] := by
  cases entries with
  | nil => rfl
  | cons entry entries => simp [bracketed, body, compact]

mutual

theorem chars_pretty : ∀ (v : Value) (depth : Nat), pretty.chars depth v = v.prettyChars depth
  | .null, _ | .bool true, _ | .bool false, _ | .number _, _ | .string _, _ => rfl
  | .array items, depth => by
      rw [chars, Value.prettyChars, itemChars_pretty items, bracketed_pretty]
  | .object fields, depth => by
      rw [chars, Value.prettyChars, fieldChars_pretty fields, bracketed_pretty]

theorem itemChars_pretty : ∀ (items : List Value) (depth : Nat),
    pretty.itemChars depth items = prettyItems depth items
  | [], _ => rfl
  | item :: items, depth => by
      rw [itemChars, prettyItems, chars_pretty item, itemChars_pretty items]

theorem fieldChars_pretty : ∀ (fields : List (String × Value)) (depth : Nat),
    pretty.fieldChars depth fields = prettyFields depth fields
  | [], _ => rfl
  | (name, value) :: fields, depth => by
      rw [fieldChars, prettyFields, chars_pretty value, fieldChars_pretty fields]
      rfl

end

mutual

theorem chars_compact : ∀ (v : Value) (depth : Nat), compact.chars depth v = v.compactChars
  | .null, _ | .bool true, _ | .bool false, _ | .number _, _ | .string _, _ => rfl
  | .array items, depth => by
      rw [chars, Value.compactChars, itemChars_compact items, bracketed_compact]
  | .object fields, depth => by
      rw [chars, Value.compactChars, fieldChars_compact fields, bracketed_compact]

theorem itemChars_compact : ∀ (items : List Value) (depth : Nat),
    compact.itemChars depth items = compactItems items
  | [], _ => rfl
  | item :: items, depth => by
      rw [itemChars, compactItems, chars_compact item, itemChars_compact items]

theorem fieldChars_compact : ∀ (fields : List (String × Value)) (depth : Nat),
    compact.fieldChars depth fields = compactFields fields
  | [], _ => rfl
  | (name, value) :: fields, depth => by
      rw [fieldChars, compactFields, chars_compact value, fieldChars_compact fields]
      rfl

end

end Layout

namespace Document

/-- Both texts of a value are read as its draft. -/
theorem read_pretty_eq_draft (v : Value) : read v.pretty.toList = ⟨v.draft, false⟩ := by
  rw [Value.pretty, String.toList_ofList, ← Layout.chars_pretty, Layout.read_chars]

theorem read_compact_eq_draft (v : Value) : read v.compact.toList = ⟨v.draft, false⟩ := by
  rw [Value.compact, String.toList_ofList, ← Layout.chars_compact v 0, Layout.read_chars]

theorem read_pretty {v : Value} (hv : v.IsExact) :
    read v.pretty.toList = ⟨Draft.ofValue v, false⟩ := by
  rw [read_pretty_eq_draft, draft_of_isExact hv]

end Document

/-! ### One text for one value -/

mutual

theorem Draft.ofValue_inj : ∀ {v w : Value}, Draft.ofValue v = Draft.ofValue w → v = w
  | .null, w, h => by cases w <;> simp_all [Draft.ofValue]
  | .bool b, w, h => by cases w <;> simp_all [Draft.ofValue]
  | .number n, w, h => by cases w <;> simp_all [Draft.ofValue]
  | .string s, w, h => by cases w <;> simp_all [Draft.ofValue]
  | .array items, .array others, h => by
      rw [Draft.ofValue, Draft.ofValue, Draft.array.injEq] at h
      rw [draftItems_inj h.1]
  | .object fields, .object others, h => by
      rw [Draft.ofValue, Draft.ofValue, Draft.object.injEq] at h
      rw [draftMembers_inj h.1]
  | .array _, .null, h | .array _, .bool _, h | .array _, .number _, h | .array _, .string _, h
  | .array _, .object _, h | .object _, .null, h | .object _, .bool _, h | .object _, .number _, h
  | .object _, .string _, h | .object _, .array _, h => by simp [Draft.ofValue] at h

theorem draftItems_inj : ∀ {items others : List Value}, draftItems items = draftItems others →
    items = others
  | [], [], _ => rfl
  | [], _ :: _, h | _ :: _, [], h => by simp [draftItems] at h
  | item :: items, other :: others, h => by
      rw [draftItems, draftItems, List.cons.injEq] at h
      rw [Draft.ofValue_inj h.1, draftItems_inj h.2]

theorem draftMembers_inj : ∀ {fields others : List (String × Value)},
    draftMembers fields = draftMembers others → fields = others
  | [], [], _ => rfl
  | [], _ :: _, h | _ :: _, [], h => by simp [draftMembers] at h
  | (name, value) :: fields, (name', value') :: others, h => by
      rw [draftMembers, draftMembers, List.cons.injEq, Prod.mk.injEq] at h
      obtain ⟨⟨hname, hvalue⟩, hrest⟩ := h
      obtain rfl : name = name' := by simpa using hname
      rw [Draft.ofValue_inj hvalue, draftMembers_inj hrest]

end

theorem pretty_inj {v w : Value} (hv : v.IsExact) (hw : w.IsExact) :
    v.pretty = w.pretty ↔ v = w := by
  refine ⟨?_, congrArg Value.pretty⟩
  intro h
  have hread := Document.read_pretty hv
  rw [h, Document.read_pretty hw, Document.mk.injEq] at hread
  exact (Draft.ofValue_inj hread.1).symm

end BrowserFlow.Json
