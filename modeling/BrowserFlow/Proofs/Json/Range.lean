import BrowserFlow.Proofs.Json.Records
import Mathlib.Algebra.Group.Int.Defs
import Mathlib.Algebra.Group.Nat.Defs

/-!
# Numbers that were read

An integer that is read fits in 64 bits, with a sign or without; a written number that does not is
read as a real. This holds of every number in a text, however deep it stands, and of every number in
the value that the text settles to.
-/

namespace BrowserFlow

theorem exists_of_bind_eq_ok {x : Except ε α} {f : α → Except ε β} {b : β} (h : x >>= f = .ok b) :
    ∃ a, x = .ok a ∧ f a = .ok b := by
  cases x with
  | error e => exact nomatch h
  | ok a => exact ⟨a, rfl, h⟩

namespace Json

/-- An integer of 64 bits, or any real number. -/
def Number.Fits : Number → Prop
  | .integer n => -2 ^ 63 ≤ n ∧ n < 2 ^ 64
  | .real _ => True

/-- All numbers in a draft fit. -/
inductive Draft.Fits : Draft → Prop
  | null : Fits .null
  | bool (b : Bool) : Fits (.bool b)
  | number {value : Except Fault Number} (h : ∀ n, value = .ok n → n.Fits) : Fits (.number value)
  | string (text : Except Fault String) (passed : Option Fault) : Fits (.string text passed)
  | array {items : List Draft} (stop : Option Fault) (h : ∀ item ∈ items, Fits item) :
      Fits (.array items stop)
  | object {members : List (Draft × Draft)} (stop : Option Fault)
      (h : ∀ member ∈ members, Fits member.2) : Fits (.object members stop)
  | absent : Fits .absent
  | broken (read skip : Fault) : Fits (.broken read skip)

/-- All numbers in a value fit. -/
inductive Value.Fits : Value → Prop
  | null : Fits .null
  | bool (b : Bool) : Fits (.bool b)
  | number {n : Number} (h : n.Fits) : Fits (.number n)
  | string (s : String) : Fits (.string s)
  | array {items : List Value} (h : ∀ item ∈ items, Fits item) : Fits (.array items)
  | object {fields : List (String × Value)} (h : ∀ field ∈ fields, Fits field.2) :
      Fits (.object fields)

/-! ### Numerals -/

theorem Numeral.takeDigits_le {digits : Nat} (h : digits ≤ maxDigits) (count : Nat)
    (cs : List Char) : (takeDigits digits count cs).1 ≤ maxDigits := by
  induction cs generalizing digits count with
  | nil => exact h
  | cons c cs ih =>
      rw [takeDigits]
      split
      · next hnext => exact ih hnext _
      · exact h

theorem Numeral.fits_real {negative : Bool} {digits : Nat} {exponent : Int} {n : Number}
    (h : Numeral.real negative digits exponent = .ok n) : n.Fits := by
  rw [Numeral.real] at h
  split at h
  · obtain rfl := Except.ok.inj h
    trivial
  · exact nomatch h

theorem Numeral.fits_value {numeral : Numeral} {n : Number} (h : numeral.value = .ok n) :
    n.Fits := by
  have hdigits : (takeDigits 0 0 numeral.whole).1 ≤ maxDigits :=
    takeDigits_le (Nat.zero_le _) 0 numeral.whole
  obtain ⟨⟨digits, taken⟩, hread⟩ : ∃ read, takeDigits 0 0 numeral.whole = read := ⟨_, rfl⟩
  simp only [Numeral.value, hread] at h
  simp only [hread, maxDigits] at hdigits
  split at h
  · split_ifs at h with hdropped hsign hrange
    · exact fits_real h
    · obtain rfl := Except.ok.inj h
      constructor <;> omega
    · obtain rfl := Except.ok.inj h
      simp only [Bool.and_eq_true, decide_eq_true_eq] at hrange
      constructor <;> omega
    · exact fits_real h
  · split at h
    · exact fits_real h
    · split_ifs at h
      · exact fits_real h
      · exact fits_real h
      · exact fits_real h

/-! ### Texts -/

theorem fits_readKeyword {value : Draft} (h : value.Fits) (keyword cs : List Char) :
    (readKeyword value keyword cs).1.Fits := by
  induction keyword generalizing cs with
  | nil => exact h
  | cons expected keyword ih =>
      cases cs with
      | nil => exact .broken _ _
      | cons c cs =>
          rw [readKeyword]
          split
          · exact ih cs
          · exact .broken _ _

theorem fits_readString (cs : List Char) : (readString cs).1.Fits := by
  rw [readString]
  split
  · exact .string _ _
  · split
    · exact .string _ _
    · exact .string _ _

theorem fits_readNumber (cs : List Char) : (readNumber cs).1.Fits := by
  rw [readNumber]
  split
  · exact .number fun n hn => Numeral.fits_value hn
  · exact .broken _ _

mutual

theorem fits_readValue : ∀ (fuel : Nat) (cs : List Char), (readValue fuel cs).1.Fits
  | 0, _ => .absent
  | fuel + 1, cs => by
      rw [readValue]
      split
      · exact .absent
      · exact fits_readKeyword .null _ _
      · exact fits_readKeyword (.bool true) _ _
      · exact fits_readKeyword (.bool false) _ _
      · exact fits_readString _
      · split
        · exact .array none (by simp)
        · exact .array _ (fits_readItems fuel _)
      · split
        · exact .object none (by simp)
        · exact .object _ (fits_readMembers fuel _)
      · split
        · exact fits_readNumber _
        · exact .broken _ _

theorem fits_readItems : ∀ (fuel : Nat) (cs : List Char), ∀ item ∈ (readItems fuel cs).1, item.Fits
  | 0, _ => by simp [readItems]
  | fuel + 1, cs => by
      have hfirst := fits_readValue fuel cs
      rw [readItems]
      split
      · next heq => simpa [heq] using hfirst
      · next heq =>
          rw [heq] at hfirst
          split
          · simpa using hfirst
          · simpa using hfirst
          · exact List.forall_mem_cons.mpr ⟨hfirst, fits_readItems fuel _⟩
          · simpa using hfirst

theorem fits_readMembers : ∀ (fuel : Nat) (cs : List Char),
    ∀ member ∈ (readMembers fuel cs).1, member.2.Fits
  | 0, _ => by simp [readMembers]
  | fuel + 1, cs => by
      rw [readMembers]
      split
      · split
        · simpa using Draft.Fits.absent
        · split
          · simpa using Draft.Fits.broken _ _
          · next rest _ =>
              have hfirst := fits_readValue fuel rest
              split
              · next heq => simpa [heq] using hfirst
              · next heq =>
                  rw [heq] at hfirst
                  split
                  · simpa using hfirst
                  · simpa using hfirst
                  · exact List.forall_mem_cons.mpr ⟨hfirst, fits_readMembers fuel _⟩
                  · simpa using hfirst
          · simpa using Draft.Fits.broken _ _
      · simpa using Draft.Fits.absent

end

theorem Document.fits_read (cs : List Char) : (read cs).root.Fits := by
  have hread := fits_readValue (2 * cs.length + 2) cs
  rw [read]
  split
  · next heq => rwa [heq] at hread
  · next heq => rwa [heq] at hread

/-! ### Settled values -/

theorem forall₂_of_settleItems {depth : Nat} {items : List Draft} {values : List Value}
    (h : settleItems depth items = .ok values) :
    List.Forall₂ (fun item value => item.settle depth = .ok value) items values := by
  induction items generalizing values with
  | nil =>
      obtain rfl := Except.ok.inj h
      exact .nil
  | cons item items ih =>
      obtain ⟨value, hvalue, h⟩ := exists_of_bind_eq_ok h
      obtain ⟨rest, hrest, h⟩ := exists_of_bind_eq_ok h
      obtain rfl := Except.ok.inj h
      exact .cons hvalue (ih hrest)

theorem forall₂_of_settleMembers {depth : Nat} {members : List (Draft × Draft)}
    {fields : List (String × Value)} (h : settleMembers depth members = .ok fields) :
    List.Forall₂ (fun member field => member.2.settle depth = .ok field.2) members fields := by
  induction members generalizing fields with
  | nil =>
      obtain rfl := Except.ok.inj h
      exact .nil
  | cons member members ih =>
      obtain ⟨key, draft⟩ := member
      obtain ⟨name, -, h⟩ := exists_of_bind_eq_ok h
      obtain ⟨value, hvalue, h⟩ := exists_of_bind_eq_ok h
      obtain ⟨rest, hrest, h⟩ := exists_of_bind_eq_ok h
      obtain rfl := Except.ok.inj h
      exact .cons hvalue (ih hrest)

theorem forall_mem_of_forall₂ {R : α → β → Prop} {P : β → Prop} {items : List α} {others : List β}
    (h : List.Forall₂ R items others) (hstep : ∀ a ∈ items, ∀ b, R a b → P b) :
    ∀ b ∈ others, P b := by
  induction h with
  | nil => simp
  | cons hfirst _ ih =>
      refine List.forall_mem_cons.mpr ⟨hstep _ List.mem_cons_self _ hfirst, ?_⟩
      exact ih fun a ha => hstep a (List.mem_cons_of_mem _ ha)

theorem Draft.Fits.settle {draft : Draft} (hfits : draft.Fits) {depth : Nat} {v : Value}
    (h : draft.settle depth = .ok v) : v.Fits := by
  induction hfits generalizing depth v with
  | null =>
      obtain rfl := Except.ok.inj h
      exact .null
  | bool b =>
      obtain rfl := Except.ok.inj h
      exact .bool b
  | @number value hnumber =>
      cases value with
      | error f => exact nomatch h
      | ok n =>
          obtain rfl := Except.ok.inj h
          exact .number (hnumber n rfl)
  | string text passed =>
      cases text with
      | error f => exact nomatch h
      | ok s =>
          obtain rfl := Except.ok.inj h
          exact .string s
  | array stop _ ih =>
      cases depth with
      | zero => exact nomatch h
      | succ depth =>
          obtain ⟨values, hvalues, h⟩ := exists_of_bind_eq_ok h
          obtain ⟨-, -, h⟩ := exists_of_bind_eq_ok h
          obtain rfl := Except.ok.inj h
          exact .array (forall_mem_of_forall₂ (forall₂_of_settleItems hvalues)
            fun item hitem _ hsettle => ih item hitem hsettle)
  | object stop _ ih =>
      cases depth with
      | zero => exact nomatch h
      | succ depth =>
          obtain ⟨fields, hfields, h⟩ := exists_of_bind_eq_ok h
          obtain ⟨-, -, h⟩ := exists_of_bind_eq_ok h
          obtain rfl := Except.ok.inj h
          have hall : ∀ field ∈ fields, field.2.Fits :=
            forall_mem_of_forall₂ (forall₂_of_settleMembers hfields)
              fun member hmember _ hsettle => ih member hmember hsettle
          exact .object fun field hfield => hall field (mem_of_mem_mergeEntries hfield)
  | absent => exact nomatch h
  | broken read skip => exact nomatch h

/-- Whatever a text settles to, its numbers fit. -/
theorem Document.fits_of_settle {cs : List Char} {v : Value} (h : (read cs).settle = .ok v) :
    v.Fits := by
  obtain ⟨value, hvalue, h⟩ := exists_of_bind_eq_ok h
  split at h
  · exact nomatch h
  · obtain rfl := Except.ok.inj h
    exact (fits_read cs).settle hvalue

/-! ### Fields of records -/

/-- The drafts that stand directly in a container. -/
def Draft.parts : Draft → List Draft
  | .array items _ => items
  | .object members _ => members.map Prod.snd
  | _ => []

theorem draftItems_eq_map (items : List Value) : draftItems items = items.map Draft.ofValue := by
  induction items with
  | nil => rfl
  | cons item items ih => rw [draftItems, ih, List.map_cons]

theorem draftMembers_eq_map (fields : List (String × Value)) :
    draftMembers fields = fields.map fun field =>
      (.string (.ok field.1) none, Draft.ofValue field.2) := by
  induction fields with
  | nil => rfl
  | cons field fields ih => rw [draftMembers, ih, List.map_cons]

theorem Value.Fits.exists_of_mem_parts {v : Value} (h : v.Fits) {part : Draft}
    (hpart : part ∈ (Draft.ofValue v).parts) : ∃ w : Value, w.Fits ∧ part = Draft.ofValue w := by
  cases h with
  | array h =>
      rw [Draft.ofValue, draftItems_eq_map] at hpart
      obtain ⟨item, hitem, rfl⟩ := List.mem_map.mp hpart
      exact ⟨item, h item hitem, rfl⟩
  | object h =>
      rw [Draft.ofValue, draftMembers_eq_map, Draft.parts, List.map_map] at hpart
      obtain ⟨field, hfield, rfl⟩ := List.mem_map.mp hpart
      exact ⟨field.2, h field hfield, rfl⟩
  | _ => simp [Draft.ofValue, Draft.parts] at hpart

namespace Reader

/-- The field stands for what its reader makes of one of the parts. -/
def Field.ReadFrom (field : Field) (parts : List Draft) (value : Value) : Prop :=
  ∃ part ∈ parts, field.reader part = .ok value

theorem mem_memberFields {fields : List Field} (hnodup : (fields.map Field.name).Nodup)
    {earlier found : List (String × Value)} {members : List (Draft × Draft)}
    (h : memberFields fields earlier members = .ok found) {field : Field} (hfield : field ∈ fields)
    {value : Value} (hvalue : (field.name, value) ∈ found) :
    (field.name, value) ∈ earlier ∨ field.ReadFrom (members.map Prod.snd) value := by
  induction members generalizing earlier with
  | nil =>
      obtain rfl := Except.ok.inj h
      exact .inl hvalue
  | cons member members ih =>
      obtain ⟨key, draft⟩ := member
      have hmore : field.ReadFrom (members.map Prod.snd) value →
          field.ReadFrom (((key, draft) :: members).map Prod.snd) value :=
        fun ⟨part, hpart, hread⟩ => ⟨part, List.mem_cons_of_mem _ hpart, hread⟩
      obtain ⟨name, -, h⟩ := exists_of_bind_eq_ok h
      split at h
      · obtain ⟨-, -, h⟩ := exists_of_bind_eq_ok h
        exact (ih h).imp_right hmore
      · next other hother =>
          split at h
          · exact nomatch h
          · obtain ⟨read, hread, h⟩ := exists_of_bind_eq_ok h
            rcases ih h with hmem | hlater
            · rcases List.mem_cons.mp hmem with heq | hmem
              · obtain ⟨hname, rfl⟩ := Prod.mk.inj heq
                have hothername : other.name = name := by simpa using List.find?_some hother
                obtain rfl := List.inj_on_of_nodup_map hnodup (List.mem_of_find?_eq_some hother)
                  hfield (hothername.trans hname.symm)
                exact .inr ⟨draft, List.mem_cons_self, hread⟩
              · exact .inl hmem
            · exact .inr (hmore hlater)

theorem completeField_ok {found : List (String × Value)} {field : Field} {entry : String × Value}
    (h : completeField found field = .ok entry) :
    entry.1 = field.name ∧ (field.absence = .refused → entry ∈ found) := by
  cases hfound : findValue? field.name found with
  | some value =>
      simp only [completeField, hfound] at h
      obtain rfl := Except.ok.inj h
      exact ⟨rfl, fun _ => mem_of_findValue? hfound⟩
  | none =>
      cases habsence : field.absence with
      | refused =>
          simp only [completeField, hfound, habsence, refuse, reduceCtorEq] at h
      | _ =>
          simp only [completeField, hfound, habsence] at h
          obtain rfl := Except.ok.inj h
          exact ⟨rfl, by simp only [reduceCtorEq, false_imp_iff]⟩

theorem completed_ok {fields : List Field} {found entries : List (String × Value)}
    (h : fields.mapM (completeField found) = .ok entries) :
    entries.map Prod.fst = fields.map Field.name ∧
      ∀ field ∈ fields, field.absence = .refused →
        ∃ value, (field.name, value) ∈ entries ∧ (field.name, value) ∈ found := by
  induction fields generalizing entries with
  | nil =>
      obtain rfl := Except.ok.inj h
      exact ⟨rfl, by simp⟩
  | cons first fields ih =>
      rw [List.mapM_cons] at h
      obtain ⟨⟨name, value⟩, hfirst, h⟩ := exists_of_bind_eq_ok h
      obtain ⟨later, hlater, h⟩ := exists_of_bind_eq_ok h
      obtain rfl := Except.ok.inj h
      obtain ⟨rfl, hmem⟩ := completeField_ok hfirst
      obtain ⟨hnames, hrest⟩ := ih hlater
      refine ⟨congrArg (first.name :: ·) hnames, fun field hfield hrefused => ?_⟩
      rcases List.mem_cons.mp hfield with rfl | hfield
      · exact ⟨value, List.mem_cons_self, hmem hrefused⟩
      · obtain ⟨other, hother, hfound⟩ := hrest field hfield hrefused
        exact ⟨other, List.mem_cons_of_mem _ hother, hfound⟩

theorem positional_ok {type : String} {count : Nat} {stop : Option Fault} {index : Nat}
    {fields : List Field} {drafts rest : List Draft} {found : List (String × Value)}
    (h : positional type count stop index fields drafts = .ok (found, rest)) :
    found.map Prod.fst = fields.map Field.name ∧
      ∀ field ∈ fields, field.absence = .refused →
        ∃ value, (field.name, value) ∈ found ∧ field.ReadFrom drafts value := by
  induction fields generalizing index drafts found rest with
  | nil =>
      obtain ⟨rfl, -⟩ := Prod.mk.inj (Except.ok.inj h)
      exact ⟨rfl, by simp⟩
  | cons first fields ih =>
      cases drafts with
      | nil =>
          obtain ⟨-, -, h⟩ := exists_of_bind_eq_ok h
          split at h
          · next value habsence =>
              obtain ⟨⟨later, rest⟩, hlater, h⟩ := exists_of_bind_eq_ok h
              obtain ⟨rfl, -⟩ := Prod.mk.inj (Except.ok.inj h)
              obtain ⟨hnames, hparts⟩ := ih hlater
              refine ⟨congrArg (first.name :: ·) hnames, fun field hfield hrefused => ?_⟩
              rcases List.mem_cons.mp hfield with rfl | hfield
              · rw [hrefused] at habsence
                exact nomatch habsence
              · obtain ⟨-, -, part, hpart, -⟩ := hparts field hfield hrefused
                exact nomatch hpart
          · exact nomatch h
      | cons draft drafts =>
          obtain ⟨value, hvalue, h⟩ := exists_of_bind_eq_ok h
          obtain ⟨⟨later, rest⟩, hlater, h⟩ := exists_of_bind_eq_ok h
          obtain ⟨rfl, -⟩ := Prod.mk.inj (Except.ok.inj h)
          obtain ⟨hnames, hparts⟩ := ih hlater
          refine ⟨congrArg (first.name :: ·) hnames, fun field hfield hrefused => ?_⟩
          rcases List.mem_cons.mp hfield with rfl | hfield
          · exact ⟨value, List.mem_cons_self, draft, List.mem_cons_self, hvalue⟩
          · obtain ⟨other, hother, part, hpart, hread⟩ := hparts field hfield hrefused
            exact ⟨other, List.mem_cons_of_mem _ hother, part, List.mem_cons_of_mem _ hpart, hread⟩

/-- In a record that was read, a field that has to be there was read from a part of the draft. -/
theorem readFrom_of_record {source : Source} {type : String} {fields : List Field} {draft : Draft}
    {v : Value} (hnodup : (fields.map Field.name).Nodup)
    (h : record source type fields draft = .ok v) {field : Field} (hfield : field ∈ fields)
    (hrefused : field.absence = .refused) :
    field.ReadFrom draft.parts (v.field field.name) := by
  have hvalue : ∀ {found : List (String × Value)} {value : Value},
      found.map Prod.fst = fields.map Field.name → (field.name, value) ∈ found →
        (Value.object found).field field.name = value := by
    intro found value hnames hmem
    rw [Value.field, findValue?_of_mem (hnames ▸ hnodup) hmem, Option.getD_some]
  cases draft with
  | object members stop =>
      obtain ⟨found, hfound, h⟩ := exists_of_bind_eq_ok h
      obtain ⟨-, -, h⟩ := exists_of_bind_eq_ok h
      obtain ⟨entries, hentries, h⟩ := exists_of_bind_eq_ok h
      obtain rfl := Except.ok.inj h
      obtain ⟨hnames, hcompleted⟩ := completed_ok hentries
      obtain ⟨value, hmem, hmemFound⟩ := hcompleted field hfield hrefused
      rw [hvalue hnames hmem]
      exact (mem_memberFields hnodup hfound hfield hmemFound).resolve_left List.not_mem_nil
  | array drafts stop =>
      obtain ⟨⟨found, rest⟩, hfound, h⟩ := exists_of_bind_eq_ok h
      obtain ⟨hnames, hparts⟩ := positional_ok hfound
      obtain ⟨value, hmem, hread⟩ := hparts field hfield hrefused
      simp only at h
      split at h
      · obtain ⟨-, -, h⟩ := exists_of_bind_eq_ok h
        obtain rfl := Except.ok.inj h
        rw [hvalue hnames hmem]
        exact hread
      · cases source <;> exact nomatch h
  | number value => cases value <;> exact nomatch h
  | string text passed => cases text <;> exact nomatch h
  | _ => exact nomatch h

theorem forall₂_of_items {reader : Reader} {drafts : List Draft} {values : List Value}
    (h : items reader drafts = .ok values) :
    List.Forall₂ (fun draft value => reader draft = .ok value) drafts values := by
  induction drafts generalizing values with
  | nil =>
      obtain rfl := Except.ok.inj h
      exact .nil
  | cons draft drafts ih =>
      obtain ⟨value, hvalue, h⟩ := exists_of_bind_eq_ok h
      obtain ⟨rest, hrest, h⟩ := exists_of_bind_eq_ok h
      obtain rfl := Except.ok.inj h
      exact .cons hvalue (ih hrest)

/-- Each item of a list that was read was read from a part of the draft. -/
theorem exists_of_list {reader : Reader} {draft : Draft} {v : Value}
    (h : list reader draft = .ok v) :
    ∀ item ∈ v.getItems, ∃ part ∈ draft.parts, reader part = .ok item := by
  cases draft with
  | array drafts stop =>
      obtain ⟨values, hvalues, h⟩ := exists_of_bind_eq_ok h
      obtain ⟨-, -, h⟩ := exists_of_bind_eq_ok h
      obtain rfl := Except.ok.inj h
      exact forall_mem_of_forall₂ (forall₂_of_items hvalues)
        fun part hpart _ hread => ⟨part, hpart, hread⟩
  | number value => cases value <;> exact nomatch h
  | string text passed => cases text <;> exact nomatch h
  | _ => exact nomatch h

/-- A natural number that was read from a value fits in 64 bits. -/
theorem getNat_lt_of_natural {type : String} {v w : Value} (hfits : v.Fits)
    (h : natural type (Draft.ofValue v) = .ok w) : w.getNat < 2 ^ 64 := by
  cases hfits with
  | @number n hn =>
      cases n with
      | integer n =>
          have hrange : -2 ^ 63 ≤ n ∧ n < 2 ^ 64 := hn
          simp only [Draft.ofValue, natural] at h
          split at h
          · obtain rfl := Except.ok.inj h
            rw [Value.getNat]
            omega
          · exact nomatch h
      | real x => exact nomatch h
  | _ => exact nomatch h

end Reader

end Json

end BrowserFlow
