import BrowserFlow.Proofs.Replay.Pieces
import BrowserFlow.Proofs.Replay.Script
import BrowserFlow.Proofs.Text.Ranges

/-!
# Scripts as substitution into the template

A script is the template with the texts of a flow and its settings between the fixed pieces. Of
these texts two can be spoiled while the slots are filled: the name of the flow by each mark after
its own, and the name of the data file by that of the steps.
-/

namespace BrowserFlow

open Json (escapeChar quoteChars)

namespace Script

/-! ### Marks in quoted text -/

theorem isMarkChar_digitChar : ∀ n < 16, isMarkChar (Nat.digitChar n) = false := by decide

theorem toNat_of_isMarkChar {c : Char} (h : isMarkChar c = true) : 65 ≤ c.toNat ∧ c ≠ '\\' := by
  simp only [isMarkChar, Bool.or_eq_true, beq_iff_eq, Text.isUpper_iff] at h
  rcases h with ((⟨hlow, hhigh⟩ | rfl) | rfl) | rfl
  · refine ⟨hlow, ?_⟩
    rintro rfl
    exact absurd hhigh (by decide)
  · decide
  · decide
  · decide

theorem isMarkChar_of_isDigit {c : Char} (h : c.isDigit) : isMarkChar c = false := by
  by_contra hmark
  have hlow := (toNat_of_isMarkChar (by simpa using hmark)).1
  have hhigh : c.toNat ≤ 57 := (Char.isDigit_iff_toNat.mp h).2
  omega

theorem escapeChar_of_isMarkChar {c : Char} (h : isMarkChar c = true) : escapeChar c = [c] := by
  obtain ⟨hlow, hslash⟩ := toNat_of_isMarkChar h
  have hne : ∀ d : Char, d.toNat < 65 → c ≠ d := by
    rintro d hd rfl
    omega
  rw [escapeChar, if_neg (hne _ (by decide)), if_neg hslash, if_neg (hne _ (by decide)),
    if_neg (hne _ (by decide)), if_neg (hne _ (by decide)), if_neg (by omega), if_neg (by omega),
    if_neg (by omega)]

theorem isMarkChar_mem_escapeChar {c d : Char} (hc : isMarkChar c = false)
    (hd : d ∈ escapeChar c) : isMarkChar d = false := by
  have hhigh := isMarkChar_digitChar (c.toNat / 16)
  have hlow := isMarkChar_digitChar (c.toNat % 16) (by omega)
  have hpair : ∀ letter, isMarkChar letter = false → d ∈ ['\\', letter] →
      isMarkChar d = false := by
    intro letter hletter hmem
    rcases List.mem_pair.mp hmem with rfl | rfl
    · decide
    · exact hletter
  rw [escapeChar] at hd
  split_ifs at hd
  · exact hpair _ (by decide) hd
  · exact hpair _ (by decide) hd
  · exact hpair _ (by decide) hd
  · exact hpair _ (by decide) hd
  · exact hpair _ (by decide) hd
  · exact hpair _ (by decide) hd
  · exact hpair _ (by decide) hd
  · simp only [List.mem_cons, List.not_mem_nil, or_false] at hd
    rcases hd with rfl | rfl | rfl | rfl | rfl | rfl
    · decide
    · decide
    · decide
    · decide
    · exact hhigh (by omega)
    · exact hlow
  · rwa [List.mem_singleton.mp hd]

section Mark

variable {mark : List Char} (hmark : IsMark mark)

include hmark

theorem IsMark.infix_cons_iff {c : Char} (hc : isMarkChar c = false) (text : List Char) :
    mark <:+: c :: text ↔ mark <:+: text := by
  rw [List.infix_cons_iff, or_iff_right]
  intro hprefix
  obtain ⟨first, rest, rfl⟩ := List.exists_cons_of_ne_nil hmark.ne_nil
  obtain rfl := (List.cons_prefix_cons.mp hprefix).1
  exact hmark.not_mem hc List.mem_cons_self

theorem IsMark.infix_append_iff {lead : List Char} (hlead : ∀ c ∈ lead, isMarkChar c = false)
    (text : List Char) : mark <:+: lead ++ text ↔ mark <:+: text := by
  induction lead with
  | nil => rfl
  | cons c lead ih =>
      rw [List.cons_append, hmark.infix_cons_iff (hlead c List.mem_cons_self),
        ih fun d hd => hlead d (List.mem_cons_of_mem _ hd)]

theorem IsMark.infix_concat_iff {c : Char} (hc : isMarkChar c = false) (text : List Char) :
    mark <:+: text ++ [c] ↔ mark <:+: text := by
  rw [List.infix_concat_iff, or_iff_right]
  intro hsuffix
  obtain ⟨front, last, rfl⟩ := (List.eq_nil_or_concat' mark).resolve_left hmark.ne_nil
  obtain ⟨before, hbefore⟩ := hsuffix
  rw [← List.append_assoc] at hbefore
  obtain rfl : last = c := by simpa using (List.append_inj' hbefore rfl).2
  exact hmark.not_mem hc (by simp)

end Mark

theorem flatMap_escapeChar_of_isMarkChar {text : List Char}
    (h : ∀ c ∈ text, isMarkChar c = true) : text.flatMap escapeChar = text := by
  induction text with
  | nil => rfl
  | cons c text ih =>
      rw [List.flatMap_cons, escapeChar_of_isMarkChar (h c List.mem_cons_self),
        ih fun d hd => h d (List.mem_cons_of_mem _ hd)]
      rfl

theorem prefix_of_prefix_flatMap_escapeChar {mark : List Char}
    (hmark : ∀ c ∈ mark, isMarkChar c = true) {text : List Char}
    (h : mark <+: text.flatMap escapeChar) : mark <+: text := by
  induction mark generalizing text with
  | nil => exact List.nil_prefix
  | cons m mark ih =>
      cases text with
      | nil => simp at h
      | cons c text =>
          have hm := hmark m List.mem_cons_self
          by_cases hc : isMarkChar c = true
          · rw [List.flatMap_cons, escapeChar_of_isMarkChar hc, List.singleton_append,
              List.cons_prefix_cons] at h
            rw [List.cons_prefix_cons]
            exact ⟨h.1, ih (fun d hd => hmark d (List.mem_cons_of_mem _ hd)) h.2⟩
          · exfalso
            have hne : escapeChar c ≠ [] := by
              rw [escapeChar]
              split_ifs <;> simp
            obtain ⟨d, letters, hescape⟩ := List.exists_cons_of_ne_nil hne
            rw [List.flatMap_cons, hescape, List.cons_append, List.cons_prefix_cons] at h
            have hd := isMarkChar_mem_escapeChar (by simpa using hc)
              (hescape ▸ List.mem_cons_self : d ∈ escapeChar c)
            rw [← h.1, hm] at hd
            cases hd

theorem IsMark.infix_flatMap_escapeChar_iff {mark : List Char} (hmark : IsMark mark)
    (text : List Char) : mark <:+: text.flatMap escapeChar ↔ mark <:+: text := by
  constructor
  · intro h
    induction text with
    | nil => exact h
    | cons c text ih =>
        rw [List.flatMap_cons] at h
        by_cases hc : isMarkChar c = true
        · rw [escapeChar_of_isMarkChar hc, List.singleton_append, List.infix_cons_iff] at h
          rw [List.infix_cons_iff]
          refine h.imp (fun hprefix => ?_) ih
          apply prefix_of_prefix_flatMap_escapeChar hmark.2
          rw [List.flatMap_cons, escapeChar_of_isMarkChar hc]
          exact hprefix
        · have hletters : ∀ d ∈ escapeChar c, isMarkChar d = false :=
            fun d hd => isMarkChar_mem_escapeChar (by simpa using hc) hd
          rw [hmark.infix_append_iff hletters] at h
          exact (ih h).trans (List.suffix_cons c text).isInfix
  · rintro ⟨before, after, rfl⟩
    rw [List.flatMap_append, List.flatMap_append, flatMap_escapeChar_of_isMarkChar hmark.2]
    exact ⟨_, _, rfl⟩

theorem IsMark.infix_quote_iff {mark : List Char} (hmark : IsMark mark) (text : String) :
    mark <:+: (Json.quote text).toList ↔ mark <:+: text.toList := by
  have hquote : isMarkChar '"' = false := by decide
  rw [Json.quote, String.toList_ofList, quoteChars, List.cons_append, hmark.infix_cons_iff hquote,
    hmark.infix_concat_iff hquote, hmark.infix_flatMap_escapeChar_iff]

theorem IsMark.not_infix_toString {mark : List Char} (hmark : IsMark mark) (n : Nat) :
    ¬mark <:+: (toString n).toList := by
  intro hinfix
  have hbrace : '\x7b' ∈ (toString n).toList :=
    hinfix.subset (hmark.1.subset List.mem_cons_self)
  have hdigit := Nat.isDigit_of_mem_toDigits (by decide) (by decide) (Nat.toList_repr ▸ hbrace)
  exact absurd hdigit (by decide)

/-! ### The slots of a script -/

theorem isMark_marks : ∀ mark ∈ marks, IsMark mark.toList := by decide

theorem separate_marks :
    marks.Pairwise fun earlier later => ¬earlier.toList <:+: later.toList := by decide

section Slots

variable (flow : Flow) (config : ReplayConfig)

theorem map_mark_slots : (slots flow config).map Slot.mark = marks := rfl

theorem separate_slots : Separate (slots flow config) := by
  have hmarks := separate_marks
  rwa [← map_mark_slots flow config, List.pairwise_map] at hmarks

theorem exists_quote_cons (text : String) :
    ∃ c rest, (Json.quote text).toList = c :: rest ∧ isMarkChar c = false :=
  ⟨'"', _, by rw [Json.quote, String.toList_ofList, quoteChars, List.cons_append], by decide⟩

theorem exists_toString_cons (n : Nat) :
    ∃ c rest, (toString n).toList = c :: rest ∧ isMarkChar c = false := by
  have hne : (toString n).toList ≠ [] := by
    rw [Nat.toString_eq_repr, Nat.toList_repr]
    exact Nat.toDigits_ne_nil
  obtain ⟨c, rest, htext⟩ := List.exists_cons_of_ne_nil hne
  refine ⟨c, rest, htext, isMarkChar_of_isDigit ?_⟩
  have hmem : c ∈ (toString n).toList := htext ▸ List.mem_cons_self
  exact Nat.isDigit_of_mem_toDigits (by decide) (by decide) (Nat.toList_repr ▸ hmem)

theorem exists_array_cons (items : List Json.Value) :
    ∃ c rest, (Json.Value.array items).pretty.toList = c :: rest ∧ isMarkChar c = false := by
  have hopening : ∀ entries, ∃ rest, Json.bracketed '[' ']' 0 entries = '[' :: rest := by
    intro entries
    rw [Json.bracketed]
    split_ifs
    · exact ⟨[']'], rfl⟩
    · exact ⟨_, by rw [List.cons_append, List.cons_append, List.cons_append]⟩
  obtain ⟨rest, hrest⟩ := hopening (Json.prettyItems 1 items)
  refine ⟨'[', rest, ?_, by decide⟩
  rw [Json.Value.pretty, String.toList_ofList, Json.Value.prettyChars, hrest]

theorem isProper_slots : ∀ slot ∈ slots flow config, slot.IsProper := by
  intro slot hslot
  refine ⟨?_, ?_⟩
  · exact isMark_marks slot.mark (map_mark_slots flow config ▸ List.mem_map_of_mem hslot)
  · simp only [slots, List.mem_cons, List.not_mem_nil, or_false] at hslot
    rcases hslot with rfl | rfl | rfl | rfl | rfl | rfl
    · exact exists_quote_cons _
    · exact exists_toString_cons _
    · exact exists_toString_cons _
    · exact exists_quote_cons _
    · exact exists_quote_cons _
    · exact exists_array_cons _

theorem isMark_of_mem_drop_slots {n : Nat} {slot : Slot} (h : slot ∈ (slots flow config).drop n) :
    IsMark slot.mark.toList :=
  (isProper_slots flow config slot (List.mem_of_mem_drop h)).mark

/-- The marks that are filled after the name of the flow. -/
def marksAfterName : List String := marks.tail

theorem IsMark.not_infix_mode {mark : List Char} (hmark : IsMark mark) (mode : PreconditionMode) :
    ¬mark <:+: (Json.quote mode.tag).toList := by
  have hapart : bracesApart mode.tag.toList = true := by
    cases mode <;> decide
  rw [hmark.infix_quote_iff]
  exact hmark.not_infix hapart

/-- Only the two names can hold a mark that comes later. -/
theorem pairwise_slots_iff :
    ((slots flow config).Pairwise fun earlier later =>
        ¬later.mark.toList <:+: earlier.text.toList) ↔
      (∀ mark ∈ marksAfterName, ¬mark.toList <:+: flow.name.toList) ∧
        ¬stepsMark.toList <:+: config.dataFile.toList := by
  have hmark : ∀ n, ∀ slot ∈ (slots flow config).drop n, IsMark slot.mark.toList :=
    fun n slot hslot => isMark_of_mem_drop_slots flow config hslot
  have hdata : stepsMark.toList <:+: (Json.quote ("./" ++ config.dataFile)).toList ↔
      stepsMark.toList <:+: config.dataFile.toList := by
    have hsteps : IsMark stepsMark.toList := isMark_marks stepsMark (by decide)
    have hlead : ∀ c ∈ "./".toList, isMarkChar c = false := by
      intro c hc
      rcases List.mem_pair.mp hc with rfl | rfl <;> decide
    rw [hsteps.infix_quote_iff, String.toList_append, hsteps.infix_append_iff hlead]
  constructor
  · intro h
    obtain ⟨hname, h⟩ := List.pairwise_cons.mp h
    obtain ⟨-, h⟩ := List.pairwise_cons.mp h
    obtain ⟨-, h⟩ := List.pairwise_cons.mp h
    obtain ⟨-, h⟩ := List.pairwise_cons.mp h
    obtain ⟨hfile, -⟩ := List.pairwise_cons.mp h
    refine ⟨?_, fun hinfix => hfile _ List.mem_cons_self (hdata.mpr hinfix)⟩
    intro mark hmem hinfix
    obtain ⟨later, hlater, rfl⟩ : ∃ later ∈ (slots flow config).drop 1, later.mark = mark :=
      List.mem_map.mp hmem
    exact hname later hlater (((hmark 1 later hlater).infix_quote_iff _).mpr hinfix)
  · rintro ⟨hname, hfile⟩
    refine .cons ?_ (.cons ?_ (.cons ?_ (.cons ?_ (.cons ?_ (.cons nofun .nil)))))
    · intro later hlater hinfix
      exact hname later.mark (List.mem_map_of_mem (f := Slot.mark) hlater)
        (((hmark 1 later hlater).infix_quote_iff _).mp hinfix)
    · exact fun later hlater => (hmark 2 later hlater).not_infix_toString _
    · exact fun later hlater => (hmark 3 later hlater).not_infix_toString _
    · exact fun later hlater => (hmark 4 later hlater).not_infix_mode _
    · intro later hlater hinfix
      obtain rfl := List.mem_singleton.mp hlater
      exact hfile (hdata.mp hinfix)

/-- What each slot holds in the end. -/
theorem refilled_slots :
    refilled (slots flow config) =
      [(slots flow config).tail.foldl fill (Json.quote flow.name).toList,
        (toString config.stepDelayMs).toList, (toString config.locatorTimeoutMs).toList,
        (Json.quote config.preconditionMode.tag).toList,
        Text.replaceAll stepsMark.toList flow.scriptSteps.pretty.toList
          (Json.quote ("./" ++ config.dataFile)).toList,
        flow.scriptSteps.pretty.toList] := by
  have hmark : ∀ n, ∀ slot ∈ (slots flow config).drop n, IsMark slot.mark.toList :=
    fun n slot hslot => isMark_of_mem_drop_slots flow config hslot
  have hdelay : ((slots flow config).drop 2).foldl fill (toString config.stepDelayMs).toList =
      (toString config.stepDelayMs).toList :=
    foldl_fill_eq_self fun slot hslot => (hmark 2 slot hslot).not_infix_toString _
  have htimeout :
      ((slots flow config).drop 3).foldl fill (toString config.locatorTimeoutMs).toList =
        (toString config.locatorTimeoutMs).toList :=
    foldl_fill_eq_self fun slot hslot => (hmark 3 slot hslot).not_infix_toString _
  have hmode :
      ((slots flow config).drop 4).foldl fill (Json.quote config.preconditionMode.tag).toList =
        (Json.quote config.preconditionMode.tag).toList :=
    foldl_fill_eq_self fun slot hslot => (hmark 4 slot hslot).not_infix_mode _
  have hfile : ∀ t, ((slots flow config).drop 5).foldl fill t =
      Text.replaceAll stepsMark.toList flow.scriptSteps.pretty.toList t := fun t => rfl
  have hsteps : ∀ t, ((slots flow config).drop 6).foldl fill t = t := fun t => rfl
  calc
    refilled (slots flow config) =
        [((slots flow config).drop 1).foldl fill (Json.quote flow.name).toList,
          ((slots flow config).drop 2).foldl fill (toString config.stepDelayMs).toList,
          ((slots flow config).drop 3).foldl fill (toString config.locatorTimeoutMs).toList,
          ((slots flow config).drop 4).foldl fill
            (Json.quote config.preconditionMode.tag).toList,
          ((slots flow config).drop 5).foldl fill
            (Json.quote ("./" ++ config.dataFile)).toList,
          ((slots flow config).drop 6).foldl fill flow.scriptSteps.pretty.toList] := rfl
    _ = _ := by
      rw [hdelay, htimeout, hmode, hfile, hsteps, List.drop_one]

end Slots

end Script

namespace Flow

theorem script_eq_assembled (flow : Flow) (config : ReplayConfig) :
    flow.script config =
      String.ofList (Script.assembled (Script.refilled (Script.slots flow config))) := by
  have hmarks : ∀ slot ∈ Script.slots flow config, Script.IsMark slot.mark.toList :=
    fun slot hslot => (Script.isProper_slots flow config slot hslot).mark
  have hpairs : ∀ pair ∈ (Script.marks.map String.toList).zip Script.pieces,
      Script.IsFixed pair.2 :=
    fun pair hpair => Script.isFixed_pieces pair.2 (List.of_mem_zip hpair).2
  have htexts : (Script.marks.map String.toList).map
      (fun text => (Script.slots flow config).foldl Script.fill text) =
        Script.refilled (Script.slots flow config) := by
    rw [← Script.map_mark_slots flow config, List.map_map, List.map_map]
    exact Script.map_foldl_fill_mark hmarks (Script.separate_slots flow config)
  rw [script, Script.template_eq_assembled, Script.assembled,
    Script.foldl_fill_weave hmarks Script.isFixed_opening hpairs, Script.assembled, ← htexts,
    List.zip_map_left]
  rfl

/-- The script with all slots filled at once. -/
def intendedScript (flow : Flow) (config : ReplayConfig) : String :=
  String.ofList (Script.assembled
    [(Json.quote flow.name).toList, (toString config.stepDelayMs).toList,
      (toString config.locatorTimeoutMs).toList,
      (Json.quote config.preconditionMode.tag).toList,
      (Json.quote ("./" ++ config.dataFile)).toList, flow.scriptSteps.pretty.toList])

theorem script_eq_intendedScript_iff (flow : Flow) (config : ReplayConfig) :
    flow.script config = flow.intendedScript config ↔
      (∀ mark ∈ Script.marksAfterName, ¬mark.toList <:+: flow.name.toList) ∧
        ¬Script.stepsMark.toList <:+: config.dataFile.toList := by
  rw [script_eq_assembled, intendedScript, String.ofList_inj, ← Script.pairwise_slots_iff]
  exact Script.weave_refilled_eq_iff (Script.isProper_slots flow config) Script.opening
    (Nat.le_refl 6)

/-- A script is the template with six texts in the places of its marks. Two of them may differ from
what was meant for these places: the name of the flow has all later marks in it replaced, and the
name of the data file that of the steps. The script is the one that was meant exactly when these
names hold none of these marks. -/
theorem script_is_template_with_texts (flow : Flow) (config : ReplayConfig) :
    Script.template.toList = Script.assembled (Script.marks.map String.toList) ∧
      flow.script config = String.ofList (Script.assembled
        [(Script.slots flow config).tail.foldl Script.fill (Json.quote flow.name).toList,
          (toString config.stepDelayMs).toList, (toString config.locatorTimeoutMs).toList,
          (Json.quote config.preconditionMode.tag).toList,
          Text.replaceAll Script.stepsMark.toList flow.scriptSteps.pretty.toList
            (Json.quote ("./" ++ config.dataFile)).toList,
          flow.scriptSteps.pretty.toList]) ∧
      (flow.script config = flow.intendedScript config ↔
        (∀ mark ∈ Script.marksAfterName, ¬mark.toList <:+: flow.name.toList) ∧
          ¬Script.stepsMark.toList <:+: config.dataFile.toList) := by
  refine ⟨Script.template_eq_assembled, ?_, script_eq_intendedScript_iff flow config⟩
  rw [script_eq_assembled, Script.refilled_slots]

/-- A flow named like the mark of the steps has them in the place of its name. -/
theorem script_of_flow_named_steps :
    (Flow.mk "\x7b\x7bSTEPS\x7d\x7d" []).script .standard ≠
      (Flow.mk "\x7b\x7bSTEPS\x7d\x7d" []).intendedScript .standard := by
  intro h
  obtain ⟨-, -, hiff⟩ :=
    script_is_template_with_texts (Flow.mk "\x7b\x7bSTEPS\x7d\x7d" []) .standard
  exact (hiff.mp h).1 Script.stepsMark (by decide) List.infix_rfl

end Flow

end BrowserFlow
