import BrowserFlow.Proofs.Evidence.Names
import BrowserFlow.Proofs.Text.Affix
import BrowserFlow.Proofs.Text.Words
import BrowserFlow.Segment.Click

/-!
# Clicks judged by whole words

What a click does is looked for at every position of its name, with a boundary in front and a
boundary behind. A boundary next to a word character is an end of a word, so what is found are whole
words: a word that dismisses, or the two words around the colon of a time of day.
-/

namespace BrowserFlow

open Text

namespace Text

/-! ### Case folding -/

/-- Letters that are the same up to case. -/
def FoldsTo (c letter : Char) : Prop :=
  c = letter ∨ c = letter.toUpper ∨ (c = '\u017F' ∧ letter = 's') ∨ (c = '\u212A' ∧ letter = 'k')

/-- The letters of a word are those of another up to case. -/
def Spells (run word : List Char) : Prop := List.Forall₂ FoldsTo run word

/-- One or two digits. -/
def IsHour (word : List Char) : Prop :=
  (word.length = 1 ∨ word.length = 2) ∧ ∀ c ∈ word, isDecimalDigit c

/-- Two digits, and `am` or `pm` may follow. -/
def IsMinutes (word : List Char) : Prop :=
  ∃ tens ones half, word = tens :: ones :: half ∧ isDecimalDigit tens ∧ isDecimalDigit ones ∧
    (half = [] ∨ ∃ spelling ∈ ["am", "pm"], Spells half spelling.toList)

/-- One of the words is `close`, `dismiss`, `cancel` or `x`. -/
def NamesDismissal (name : List Char) : Prop :=
  ∃ word ∈ words name, ∃ spelling ∈ ["close", "dismiss", "cancel", "x"],
    Spells word spelling.toList

/-- There is a colon between an hour and minutes. -/
def NamesTime (name : List Char) : Prop :=
  ∃ before after, name = before ++ ':' :: after ∧ IsHour (lastWord before) ∧
    IsMinutes (firstWord after)

theorem toUpper_toLower {c : Char} (h : c.isUpper) : c.toLower.toUpper = c := by
  obtain ⟨i, hi, rfl⟩ := exists_letter (isUpper_iff.mp h)
  revert i
  decide

theorem fold_of_isLower {letter : Char} (h : letter.isLower) :
    fold letter = letter ∧ fold letter.toUpper = letter := by
  obtain ⟨i, hi, rfl⟩ := exists_letter (isLower_iff.mp h)
  revert i
  decide

theorem fold_eq_iff {c letter : Char} (hletter : letter.isLower) :
    fold c = letter ↔ FoldsTo c letter := by
  constructor
  · rintro rfl
    rw [fold] at *
    split_ifs with hupper hlong hkelvin
    · exact .inr (.inl (toUpper_toLower hupper).symm)
    · exact .inr (.inr (.inl ⟨hlong, rfl⟩))
    · exact .inr (.inr (.inr ⟨hkelvin, rfl⟩))
    · exact .inl rfl
  · rintro (rfl | rfl | ⟨rfl, rfl⟩ | ⟨rfl, rfl⟩)
    · exact (fold_of_isLower hletter).1
    · exact (fold_of_isLower hletter).2
    · decide
    · decide

theorem isWordChar_of_foldsTo {c letter : Char} (hletter : letter.isLower)
    (h : FoldsTo c letter) : isWordChar c := by
  rcases h with rfl | rfl | ⟨rfl, -⟩ | ⟨rfl, -⟩
  · exact isWordChar_of_isAlphanum (isAlphanum_iff.mpr (.inr (.inl hletter)))
  · obtain ⟨i, hi, rfl⟩ := exists_letter (isLower_iff.mp hletter)
    revert i
    decide
  · decide +kernel
  · decide +kernel

/-! ### Words between boundaries -/

theorem isBoundary_after {before : Option Char} (h : before.any isWordChar)
    (after : Option Char) : isBoundary before after ↔ ¬after.any isWordChar := by
  simp [isBoundary, h]

theorem isBoundary_before {after : Option Char} (h : after.any isWordChar)
    (before : Option Char) : isBoundary before after ↔ ¬before.any isWordChar := by
  simp [isBoundary, h]

/-- A match is looked for wherever a boundary is. -/
theorem anyBoundary_iff {matchesHere : List Char → Bool} {before : Option Char}
    {text : List Char} :
    anyBoundary matchesHere before text ↔
      ∃ front rest, text = front ++ rest ∧
        isBoundary (front.getLast?.or before) rest.head? ∧ matchesHere rest := by
  induction text generalizing before with
  | nil =>
      rw [anyBoundary, Bool.and_eq_true]
      constructor
      · exact fun h => ⟨[], [], rfl, h⟩
      · rintro ⟨front, rest, hsplit, h⟩
        obtain ⟨rfl, rfl⟩ := List.append_eq_nil_iff.mp hsplit.symm
        exact h
  | cons c text ih =>
      rw [anyBoundary, Bool.or_eq_true, Bool.and_eq_true, ih]
      constructor
      · rintro (h | ⟨front, rest, rfl, h⟩)
        · exact ⟨[], c :: text, rfl, h⟩
        · refine ⟨c :: front, rest, rfl, ?_⟩
          cases hlast : front.getLast? <;> simpa [List.getLast?_cons, hlast] using h
      · rintro ⟨front, rest, hsplit, h⟩
        cases front with
        | nil =>
            obtain rfl : c :: text = rest := hsplit
            exact .inl h
        | cons d front =>
            obtain ⟨rfl, rfl⟩ := List.cons_eq_cons.mp hsplit
            refine .inr ⟨front, rest, rfl, ?_⟩
            cases hlast : front.getLast? <;> simpa [List.getLast?_cons, hlast] using h

theorem afterFolded?_eq_some_iff {word text rest : List Char} (hword : ∀ c ∈ word, c.isLower) :
    afterFolded? word text = some rest ↔ ∃ run, text = run ++ rest ∧ Spells run word := by
  induction word generalizing text with
  | nil =>
      rw [afterFolded?, Option.some.injEq]
      constructor
      · rintro rfl
        exact ⟨[], rfl, .nil⟩
      · rintro ⟨run, rfl, hrun⟩
        cases hrun
        rfl
  | cons letter word ih =>
      obtain ⟨hletter, hword⟩ := List.forall_mem_cons.mp hword
      cases text with
      | nil =>
          rw [afterFolded?]
          constructor
          · exact nofun
          · rintro ⟨run, hsplit, hrun⟩
            obtain ⟨rfl, -⟩ := List.append_eq_nil_iff.mp hsplit.symm
            cases hrun
      | cons c text =>
          rw [afterFolded?]
          split_ifs with hc
          · rw [ih hword]
            constructor
            · rintro ⟨run, rfl, hrun⟩
              exact ⟨c :: run, rfl, .cons ((fold_eq_iff hletter).mp hc) hrun⟩
            · rintro ⟨_, hsplit, _ | ⟨hfolds, hrun⟩⟩
              obtain ⟨-, rfl⟩ := List.cons_eq_cons.mp hsplit
              exact ⟨_, rfl, hrun⟩
          · constructor
            · exact nofun
            · rintro ⟨_, hsplit, _ | ⟨hfolds, hrun⟩⟩
              obtain ⟨rfl, -⟩ := List.cons_eq_cons.mp hsplit
              exact absurd ((fold_eq_iff hletter).mpr hfolds) hc

theorem isWordChar_of_spells {run word : List Char} (hword : ∀ c ∈ word, c.isLower)
    (h : Spells run word) : ∀ c ∈ run, isWordChar c := by
  induction h with
  | nil => exact List.forall_mem_nil _
  | cons hfolds _ ih =>
      obtain ⟨hletter, hword⟩ := List.forall_mem_cons.mp hword
      exact List.forall_mem_cons.mpr ⟨isWordChar_of_foldsTo hletter hfolds, ih hword⟩

/-- A word that goes up to a boundary is the whole first word. -/
theorem spells_firstWord_iff {word text : List Char} (hword : ∀ c ∈ word, c.isLower)
    {last : Option Char} (hlast : last.any isWordChar) :
    (∃ rest ∈ afterFolded? word text, isBoundary last rest.head?) ↔
      Spells (firstWord text) word := by
  simp only [Option.mem_def, afterFolded?_eq_some_iff hword, isBoundary_after hlast,
    ← firstWord_eq_nil_iff]
  constructor
  · rintro ⟨rest, ⟨run, rfl, hrun⟩, hrest⟩
    rwa [firstWord_append (isWordChar_of_spells hword hrun), hrest, List.append_nil]
  · intro h
    exact ⟨afterWord text, ⟨firstWord text, (firstWord_append_afterWord text).symm, h⟩,
      firstWord_afterWord text⟩

end Text

/-- In front of a word a boundary is an end of what comes before. -/
theorem isBoundary_front_iff {front rest : List Char} (h : firstWord rest ≠ []) :
    isBoundary (front.getLast?.or none) rest.head? ↔ EndsApart front := by
  have hhead : rest.head?.any isWordChar := not_not.mp (mt (firstWord_eq_nil_iff rest).mpr h)
  rw [Option.or_none, endsApart_iff, isBoundary_before hhead]

/-! ### Words that dismiss -/

theorem dismissHere_iff {text : List Char} :
    dismissHere text ↔ ∃ word ∈ dismissWords, Spells (firstWord text) word := by
  have hwords : dismissWords.all fun word =>
      word.all Char.isLower && word.getLast?.any isWordChar := by
    decide
  rw [dismissHere, List.any_eq_true]
  refine exists_congr fun word => and_congr_right fun hword => ?_
  obtain ⟨hletters, hlast⟩ := Bool.and_eq_true_iff.mp (List.all_eq_true.mp hwords word hword)
  rw [← spells_firstWord_iff (List.all_eq_true.mp hletters) hlast]
  cases afterFolded? word text <;> simp

theorem exists_dismissWord_iff {run : List Char} :
    (∃ word ∈ dismissWords, Spells run word) ↔
      ∃ spelling ∈ ["close", "dismiss", "cancel", "x"], Spells run spelling.toList := by
  simp [dismissWords]

theorem mentionsDismissal_iff {name : List Char} :
    mentionsDismissal name ↔ NamesDismissal name := by
  have hne : ∀ {run : List Char}, (∃ word ∈ dismissWords, Spells run word) → run ≠ [] := by
    rintro _ ⟨word, hword, hspells⟩ rfl
    cases hspells
    exact absurd hword (by decide)
  rw [mentionsDismissal, anyBoundary_iff]
  simp only [NamesDismissal, ← exists_dismissWord_iff, dismissHere_iff, mem_words_iff]
  constructor
  · rintro ⟨front, rest, hname, hboundary, hword⟩
    exact ⟨firstWord rest, ⟨hne hword, front, rest, hname,
      (isBoundary_front_iff (hne hword)).mp hboundary, rfl⟩, hword⟩
  · rintro ⟨_, ⟨hnil, front, rest, hname, hends, rfl⟩, hword⟩
    exact ⟨front, rest, hname, (isBoundary_front_iff hnil).mpr hends, hword⟩

/-! ### Times of day -/

theorem halfDayHere_iff {before : Char} (hbefore : isWordChar before) {text : List Char} :
    halfDayHere before text ↔
      firstWord text = [] ∨ ∃ spelling ∈ ["am", "pm"], Spells (firstWord text) spelling.toList := by
  have hwords : ["am".toList, "pm".toList].all (·.all Char.isLower) := by decide
  have hspellings : (∃ spelling ∈ ["am", "pm"], Spells (firstWord text) spelling.toList) ↔
      ∃ word ∈ ["am".toList, "pm".toList], Spells (firstWord text) word := by
    simp
  rw [halfDayHere, Bool.or_eq_true, isBoundary_after (by simpa using hbefore),
    ← firstWord_eq_nil_iff, List.any_eq_true, hspellings]
  refine or_congr_right (exists_congr fun word => and_congr_right fun hword => ?_)
  have hletters := List.all_eq_true.mp (List.all_eq_true.mp hwords word hword)
  rw [← spells_firstWord_iff hletters (by decide : (some 'm').any isWordChar)]
  cases afterFolded? word text <;> simp

/-- A blank after a word character is a boundary already, so nothing after it is needed. -/
theorem halfDayAfterBlanks_iff {before : Char} (hbefore : isWordChar before) {text : List Char} :
    halfDayAfterBlanks before text ↔ halfDayHere before text := by
  cases text with
  | nil => rfl
  | cons c text =>
      rw [halfDayAfterBlanks, Bool.or_eq_true, or_iff_left_iff_imp, Bool.and_eq_true]
      rintro ⟨hblank, -⟩
      exact (halfDayHere_iff hbefore).mpr
        (.inl (firstWord_cons_of_not (not_isWordChar_of_isBlank hblank) text))

theorem minutesHere_iff {text : List Char} :
    minutesHere text ↔ ∃ after, text = ':' :: after ∧ IsMinutes (firstWord after) := by
  constructor
  · intro h
    unfold minutesHere at h
    split at h
    · next tens ones rest =>
        rw [Bool.and_eq_true, Bool.and_eq_true] at h
        obtain ⟨⟨htens, hones⟩, hhalf⟩ := h
        have honesWord := isWordChar_of_isDecimalDigit hones
        refine ⟨tens :: ones :: rest, rfl, tens, ones, firstWord rest, ?_, htens, hones, ?_⟩
        · rw [firstWord_cons (isWordChar_of_isDecimalDigit htens), firstWord_cons honesWord]
        · exact (halfDayHere_iff honesWord).mp ((halfDayAfterBlanks_iff honesWord).mp hhalf)
    · exact nomatch h
  · rintro ⟨after, rfl, tens, ones, half, hword, htens, hones, hhalf⟩
    obtain ⟨rest, rfl, -, hword⟩ := firstWord_eq_cons_iff.mp hword
    obtain ⟨rest, rfl, honesWord, rfl⟩ := firstWord_eq_cons_iff.mp hword
    rw [minutesHere, htens, hones, Bool.true_and, Bool.true_and, halfDayAfterBlanks_iff honesWord]
    exact (halfDayHere_iff honesWord).mpr hhalf

theorem afterDigit?_eq_some_iff {text rest : List Char} :
    afterDigit? text = some rest ↔ ∃ c, text = c :: rest ∧ isDecimalDigit c := by
  cases text with
  | nil => simp [afterDigit?]
  | cons c text =>
      rw [afterDigit?]
      split_ifs with hc
      · simp [hc]
      · simp [hc]

theorem isHour_iff {word : List Char} :
    IsHour word ↔ (∃ c, word = [c] ∧ isDecimalDigit c) ∨
      ∃ c d, word = [c, d] ∧ isDecimalDigit c ∧ isDecimalDigit d := by
  constructor
  · rintro ⟨hone | htwo, hdigits⟩
    · obtain ⟨c, rfl⟩ := List.length_eq_one_iff.mp hone
      exact .inl ⟨c, rfl, hdigits c (by simp)⟩
    · obtain ⟨c, d, rfl⟩ := List.length_eq_two.mp htwo
      exact .inr ⟨c, d, rfl, hdigits c (by simp), hdigits d (by simp)⟩
  · rintro (⟨c, rfl, hc⟩ | ⟨c, d, rfl, hc, hd⟩)
    · exact ⟨.inl rfl, by simpa using hc⟩
    · exact ⟨.inr rfl, by simpa using ⟨hc, hd⟩⟩

theorem timeHere_iff {text : List Char} :
    timeHere text ↔ ∃ hour after, text = hour ++ ':' :: after ∧ IsHour hour ∧
      IsMinutes (firstWord after) := by
  have hmatch : timeHere text ↔ ∃ rest ∈ afterDigit? text,
      minutesHere rest ∨ ∃ last ∈ afterDigit? rest, minutesHere last := by
    rw [timeHere]
    cases afterDigit? text <;> simp [Option.any_eq_true]
  rw [hmatch]
  simp only [Option.mem_def, afterDigit?_eq_some_iff, minutesHere_iff, isHour_iff]
  constructor
  · rintro ⟨_, ⟨c, rfl, hc⟩, ⟨after, rfl, hminutes⟩ | ⟨_, ⟨d, rfl, hd⟩, after, rfl, hminutes⟩⟩
    · exact ⟨[c], after, rfl, .inl ⟨c, rfl, hc⟩, hminutes⟩
    · exact ⟨[c, d], after, rfl, .inr ⟨c, d, rfl, hc, hd⟩, hminutes⟩
  · rintro ⟨_, after, rfl, ⟨c, rfl, hc⟩ | ⟨c, d, rfl, hc, hd⟩, hminutes⟩
    · exact ⟨_, ⟨c, rfl, hc⟩, .inl ⟨after, rfl, hminutes⟩⟩
    · exact ⟨_, ⟨c, rfl, hc⟩, .inr ⟨_, ⟨d, rfl, hd⟩, after, rfl, hminutes⟩⟩

theorem isWordChar_of_isHour {hour : List Char} (h : IsHour hour) : ∀ c ∈ hour, isWordChar c :=
  fun c hc => isWordChar_of_isDecimalDigit (h.2 c hc)

theorem mentionsTime_iff {name : List Char} : mentionsTime name ↔ NamesTime name := by
  have hcolon : ¬isWordChar ':' := by decide
  have hne : ∀ {hour : List Char} (after : List Char), IsHour hour →
      firstWord (hour ++ ':' :: after) ≠ [] := by
    rintro _ after hhour
    rw [firstWord_append (isWordChar_of_isHour hhour), firstWord_cons_of_not hcolon, List.append_nil]
    rintro rfl
    exact absurd hhour.1 (by decide)
  rw [mentionsTime, anyBoundary_iff]
  simp only [timeHere_iff]
  constructor
  · rintro ⟨front, _, rfl, hboundary, hour, after, rfl, hhour, hminutes⟩
    have hends : EndsApart front := (isBoundary_front_iff (hne after hhour)).mp hboundary
    refine ⟨front ++ hour, after, (List.append_assoc _ _ _).symm, ?_, hminutes⟩
    rwa [lastWord_append hends (isWordChar_of_isHour hhour)]
  · rintro ⟨before, after, rfl, hhour, hminutes⟩
    obtain ⟨front, hends, hbefore⟩ := exists_lastWord before
    refine ⟨front, lastWord before ++ ':' :: after, ?_,
      (isBoundary_front_iff (hne after hhour)).mpr hends, lastWord before, after, rfl, hhour,
      hminutes⟩
    rw [← List.append_assoc, ← hbefore]

/-! ### Clicks -/

/-- A word of the name dismisses. -/
def Event.Dismisses (event : Event) : Prop :=
  ∃ name ∈ event.shownName?, NamesDismissal name.toList

/-- One of the classes has `slot` in it, in any case. Only letters of ASCII count: no other character
has one of the letters of `slot` in its lower case. -/
def Event.HasSlotClass (event : Event) : Prop :=
  ∃ target ∈ event.target, ∃ name ∈ target.classes,
    "slot".toList <:+: name.toList.map Char.toLower

/-- The name gives a time of day, or a class says it. -/
def Event.PicksSlot (event : Event) : Prop :=
  (∃ name ∈ event.shownName?, NamesTime name.toList) ∨ event.HasSlotClass

theorem any_isSlotClass_iff (event : Event) :
    (event.target.any fun target => target.classes.any isSlotClass) ↔ event.HasSlotClass := by
  cases htarget : event.target <;>
    simp [Event.HasSlotClass, htarget, isSlotClass, contains_iff_infix]

/-- An event without a name is judged by the empty name, in which nothing is found. -/
theorem mentions_getD_iff {name? : Option String} {mentions : List Char → Bool}
    {Names : List Char → Prop} (hmentions : ∀ {name}, mentions name ↔ Names name)
    (hnil : mentions [] = false) :
    mentions (name?.getD "").toList ↔ ∃ name ∈ name?, Names name.toList := by
  cases name? with
  | none => simp [hnil]
  | some name => simp [hmentions]

/-- A click dismisses something when a word of its name says so; otherwise it picks a slot when the
name gives a time of day or a class says so; otherwise it is just a click. Without a name only the
classes count. -/
theorem clickType_by_words (event : Event) :
    (event.clickType = .dismissPopup ↔ event.Dismisses) ∧
      (event.clickType = .clickSlot ↔ ¬event.Dismisses ∧ event.PicksSlot) ∧
      (event.clickType = .click ↔ ¬event.Dismisses ∧ ¬event.PicksSlot) := by
  have hdismissal : mentionsDismissal (event.shownName?.getD "").toList ↔ event.Dismisses :=
    mentions_getD_iff mentionsDismissal_iff (by decide)
  have htime : mentionsTime (event.shownName?.getD "").toList ↔
      ∃ name ∈ event.shownName?, NamesTime name.toList :=
    mentions_getD_iff mentionsTime_iff (by decide)
  rw [Event.clickType, Event.PicksSlot, event.accessibleName?_eq_shownName?, ← hdismissal, ← htime,
    ← any_isSlotClass_iff]
  split_ifs with hdismisses hnamed hslot
  · simp [hdismisses]
  · simp [hdismisses, hnamed]
  · simp [hdismisses, hslot]
  · simp [hdismisses, hnamed, hslot]

/-- A press of an element with this label for assistive tools, this text inside and this label
nearby. -/
def press (ariaLabel innerText label : String) : Event :=
  { (default : Event) with
    type := .click
    target := some { (default : Target) with
      ariaLabel := some ariaLabel
      innerText := some innerText }
    context := ⟨[], [label]⟩ }

/-- The label for assistive tools comes before the text inside, and that before the label nearby. -/
theorem clickType_of_presses :
    (press "Close" "10:30" "").clickType = .dismissPopup ∧ (press "Close" "10:30" "").Dismisses ∧
      (press "" "10:30 am" "Close").clickType = .clickSlot ∧
      ¬(press "" "10:30 am" "Close").Dismisses ∧ (press "" "" "Closed").clickType = .click := by
  have hclose : (press "Close" "10:30" "").clickType = .dismissPopup := by decide +kernel
  have hslot : (press "" "10:30 am" "Close").clickType = .clickSlot := by decide +kernel
  refine ⟨hclose, (clickType_by_words _).1.mp hclose, hslot,
    ((clickType_by_words _).2.1.mp hslot).1, by decide +kernel⟩

end BrowserFlow
