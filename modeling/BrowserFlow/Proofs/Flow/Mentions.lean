import BrowserFlow.Proofs.Flow.Template

/-!
# What a template lists

The steps that carry a value mention the keys of their fields, one after the other. Each table of
the template lists the keys of its kind that are mentioned, in the order of their first mention and
with the value of that mention. Later steps only add to what is there.
-/

namespace BrowserFlow

theorem Table.entries_insertNew (table : Table α) (name : String) (value : α) :
    (table.insertNew name value).entries =
      if name ∈ table.entries.map Prod.fst then table.entries
      else table.entries ++ [(name, value)] := by
  have hthere : (table.get? name).isSome ↔ name ∈ table.entries.map Prod.fst := by
    rw [Option.isSome_iff_ne_none, Table.get?, Ne, findValue?_eq_none_iff, not_not]
  rw [insertNew]
  by_cases hmem : name ∈ table.entries.map Prod.fst
  · rw [if_pos (hthere.mpr hmem), if_pos hmem]
  · rw [if_neg (mt hthere.mp hmem), if_neg hmem]
    exact setEntry_of_not_mem value hmem

namespace Step

/-- Text was entered in the step, and this is the value. -/
def Enters (step : Step) (value : Scalar) : Prop :=
  (step.type = .input ∨ step.type = .change) ∧
    ∃ params, step.params = some params ∧ params.get? "value" = some value

/-- The value was entered in a field that one of the candidates finds by the key. -/
def Mentions (step : Step) (key : Key) (value : Scalar) : Prop :=
  step.Enters value ∧ ∃ l ∈ step.selectors.candidates, l.key? = some key

/-- The keys of the candidates in their order, if the step carries a value. -/
def mentionedKeys (step : Step) : List Key :=
  if (step.type = .input ∨ step.type = .change) ∧
      (step.params.bind (·.get? "value")).isSome then
    step.selectors.candidates.filterMap Locator.key?
  else []

theorem isTextEntry_iff {type : StepType} :
    type.isTextEntry ↔ type = .input ∨ type = .change := by
  cases type <;> simp [StepType.isTextEntry]

theorem enters_iff {step : Step} {value : Scalar} :
    step.Enters value ↔ step.type.isTextEntry ∧ step.param? "value" = some value := by
  rw [Enters, isTextEntry_iff, param?, Option.bind_eq_some_iff]

theorem mentions_iff {step : Step} {key : Key} {value : Scalar} :
    step.Mentions key value ↔
      step.type.isTextEntry ∧ step.param? "value" = some value ∧ key ∈ step.keys := by
  rw [Mentions, enters_iff, and_assoc, keys, Bundle.keys, List.mem_filterMap]

theorem not_mentions_iff {step : Step} {key : Key} :
    (∀ value, ¬step.Mentions key value) ↔ (step.contributes → key ∉ step.keys) := by
  simp only [mentions_iff, contributes_iff, not_and]
  exact ⟨fun h ⟨htext, value, hvalue⟩ => h value htext hvalue,
    fun h value htext hvalue => h ⟨htext, value, hvalue⟩⟩

theorem mentionedKeys_eq (step : Step) :
    step.mentionedKeys = if step.contributes then step.keys else [] := by
  have hcontributes : ((step.type = .input ∨ step.type = .change) ∧
      (step.params.bind (·.get? "value")).isSome) ↔ step.contributes := by
    rw [contributes, Bool.and_eq_true, isTextEntry_iff, param?]
  rw [mentionedKeys]
  exact if_congr hcontributes rfl rfl

end Step

/-- The keys that the steps put into a template, one step after the other. -/
def mentionedKeys (steps : List Step) : List Key := steps.flatMap Step.mentionedKeys

namespace InputTables

/-- The names of a table, in order. -/
def names (tables : InputTables) (kind : KeyKind) : List String :=
  (tables.table kind).entries.map Prod.fst

/-- What is in the tables is in the larger ones too, at the same places. -/
def Extends (tables larger : InputTables) : Prop :=
  ∀ kind, (tables.table kind).entries <+: (larger.table kind).entries

/-- The tables list these keys and no others, in the order in which they occur first. -/
structure Lists (tables : InputTables) (keys : List Key) : Prop where
  mem_names : ∀ key : Key, key.value ∈ tables.names key.kind ↔ key ∈ keys
  ordered : ∀ kind, (tables.names kind).Pairwise fun first second =>
    keys.idxOf ⟨kind, first⟩ < keys.idxOf ⟨kind, second⟩

theorem Extends.refl (tables : InputTables) : tables.Extends tables := fun _ => List.prefix_rfl

theorem Extends.trans {tables larger largest : InputTables} (h : tables.Extends larger)
    (h' : larger.Extends largest) : tables.Extends largest :=
  fun kind => (h kind).trans (h' kind)

theorem lists_empty : empty.Lists [] where
  mem_names key := by cases hkind : key.kind <;> simp [names, table, empty, Table.empty]
  ordered kind := by cases kind <;> exact List.Pairwise.nil

/-! ### One mention -/

theorem entries_table_mention (tables : InputTables) (value : Scalar) (key : Key) (kind : KeyKind) :
    ((tables.mention value key).table kind).entries =
      if key.kind = kind ∧ key.value ∉ tables.names kind then
        (tables.table kind).entries ++ [(key.value, value)]
      else (tables.table kind).entries := by
  rw [mention, table_modify, names]
  by_cases hkind : key.kind = kind
  · rw [if_pos hkind, Table.entries_insertNew]
    by_cases hmem : key.value ∈ (tables.table kind).entries.map Prod.fst
    · rw [if_pos hmem, if_neg fun hnew => hnew.2 hmem]
    · rw [if_neg hmem, if_pos ⟨hkind, hmem⟩]
  · rw [if_neg hkind, if_neg fun hnew => hkind hnew.1]

theorem extends_mention (tables : InputTables) (value : Scalar) (key : Key) :
    tables.Extends (tables.mention value key) := by
  intro kind
  rw [entries_table_mention]
  split
  · exact List.prefix_append _ _
  · exact List.prefix_rfl

theorem Lists.names_mention {tables : InputTables} {keys : List Key} (h : tables.Lists keys)
    (value : Scalar) (key : Key) (kind : KeyKind) :
    (tables.mention value key).names kind =
      tables.names kind ++ if key.kind = kind ∧ key ∉ keys then [key.value] else [] := by
  have hnew : (key.kind = kind ∧ key.value ∉ tables.names kind) ↔ key.kind = kind ∧ key ∉ keys := by
    refine and_congr_right fun hkind => ?_
    rw [← hkind, h.mem_names]
  rw [names, entries_table_mention]
  simp only [hnew]
  split
  · rw [List.map_append]
    rfl
  · rw [List.append_nil]
    rfl

/-- A key that is mentioned again stays where it is; a new one comes last. -/
theorem Lists.mention {tables : InputTables} {keys : List Key} (h : tables.Lists keys)
    (value : Scalar) (key : Key) : (tables.mention value key).Lists (keys ++ [key]) where
  mem_names other := by
    rw [h.names_mention, List.mem_append, h.mem_names, List.mem_append, List.mem_singleton]
    by_cases hkey : key ∈ keys
    · rw [if_neg fun hnew => hnew.2 hkey]
      refine ⟨fun hmem => .inl (hmem.resolve_right List.not_mem_nil), fun hmem => .inl ?_⟩
      exact hmem.elim id fun heq => heq ▸ hkey
    · refine or_congr_right ⟨fun hmem => ?_, fun heq => ?_⟩
      · split at hmem
        · next hnew => exact Key.mk.injEq .. |>.mpr ⟨hnew.1.symm, List.mem_singleton.mp hmem⟩
        · exact absurd hmem List.not_mem_nil
      · subst heq
        rw [if_pos ⟨rfl, hkey⟩]
        exact List.mem_singleton_self _
  ordered kind := by
    have hkeys : ∀ name ∈ tables.names kind, (⟨kind, name⟩ : Key) ∈ keys :=
      fun name hname => (h.mem_names ⟨kind, name⟩).mp hname
    have hplace : ∀ name ∈ tables.names kind,
        (keys ++ [key]).idxOf ⟨kind, name⟩ = keys.idxOf ⟨kind, name⟩ :=
      fun name hname => List.idxOf_append_of_mem (hkeys name hname)
    rw [h.names_mention, List.pairwise_append]
    refine ⟨(h.ordered kind).imp_of_mem fun {first second} hfirst hsecond hlt => ?_, ?_, ?_⟩
    · rwa [hplace first hfirst, hplace second hsecond]
    · split
      · exact List.pairwise_singleton _ _
      · exact List.Pairwise.nil
    · intro first hfirst second hsecond
      split at hsecond
      · next hnew =>
          obtain rfl := List.mem_singleton.mp hsecond
          have hlast : (⟨kind, key.value⟩ : Key) = key := by rw [← hnew.1]
          rw [hplace first hfirst, hlast, List.idxOf_append_of_notMem hnew.2]
          exact Nat.lt_add_right _ (List.idxOf_lt_length_iff.mpr (hkeys first hfirst))
      · exact absurd hsecond List.not_mem_nil

/-! ### All steps -/

variable {tables : InputTables} {keys : List Key}

theorem Lists.foldl_mention (h : tables.Lists keys) (value : Scalar) (more : List Key) :
    (more.foldl (·.mention value) tables).Lists (keys ++ more) := by
  induction more generalizing tables keys with
  | nil => simpa using h
  | cons key more ih =>
      have hrest := ih (h.mention value key)
      rwa [List.append_assoc, List.singleton_append] at hrest

theorem extends_foldl_mention (tables : InputTables) (value : Scalar) (more : List Key) :
    tables.Extends (more.foldl (·.mention value) tables) := by
  induction more generalizing tables with
  | nil => exact Extends.refl tables
  | cons key more ih => exact (extends_mention tables value key).trans (ih _)

theorem mentionStep_of_contributes {step : Step} (h : step.contributes) (tables : InputTables) :
    ∃ value, tables.mentionStep step = step.keys.foldl (·.mention value) tables := by
  obtain ⟨htext, value, hvalue⟩ := Step.contributes_iff.mp h
  refine ⟨value, ?_⟩
  rw [mentionStep, if_pos htext, hvalue]

theorem mentionStep_of_not_contributes {step : Step} (h : ¬step.contributes)
    (tables : InputTables) : tables.mentionStep step = tables := by
  rw [Step.contributes_iff, not_and] at h
  rw [mentionStep]
  split
  · next htext =>
      cases hvalue : step.param? "value" with
      | none => rfl
      | some value => exact absurd ⟨value, hvalue⟩ (h htext)
  · rfl

theorem Lists.mentionStep (h : tables.Lists keys) (step : Step) :
    (tables.mentionStep step).Lists (keys ++ step.mentionedKeys) := by
  rw [Step.mentionedKeys_eq]
  split
  · next hcontributes =>
      obtain ⟨value, hstep⟩ := mentionStep_of_contributes hcontributes tables
      rw [hstep]
      exact h.foldl_mention value step.keys
  · next hnot =>
      rw [mentionStep_of_not_contributes hnot, List.append_nil]
      exact h

theorem extends_mentionStep (tables : InputTables) (step : Step) :
    tables.Extends (tables.mentionStep step) := by
  by_cases hcontributes : step.contributes
  · obtain ⟨value, hstep⟩ := mentionStep_of_contributes hcontributes tables
    rw [hstep]
    exact extends_foldl_mention tables value step.keys
  · rw [mentionStep_of_not_contributes hcontributes]
    exact Extends.refl tables

theorem Lists.foldl_mentionStep (h : tables.Lists keys) (steps : List Step) :
    (steps.foldl InputTables.mentionStep tables).Lists (keys ++ mentionedKeys steps) := by
  induction steps generalizing tables keys with
  | nil => simpa [mentionedKeys] using h
  | cons step steps ih =>
      have hrest := ih (h.mentionStep step)
      rwa [List.append_assoc] at hrest

theorem extends_foldl_mentionStep (tables : InputTables) (steps : List Step) :
    tables.Extends (steps.foldl mentionStep tables) := by
  induction steps generalizing tables with
  | nil => exact Extends.refl tables
  | cons step steps ih => exact (extends_mentionStep tables step).trans (ih _)

theorem lists_ofSteps (steps : List Step) : (ofSteps steps).Lists (mentionedKeys steps) :=
  lists_empty.foldl_mentionStep steps

theorem extends_ofSteps_append (steps more : List Step) :
    (ofSteps steps).Extends (ofSteps (steps ++ more)) := by
  rw [ofSteps, ofSteps, List.foldl_append]
  exact extends_foldl_mentionStep _ more

theorem mem_entries_iff {key : Key} {value : Scalar} :
    (key.value, value) ∈ (tables.table key.kind).entries ↔ tables.value? key = some value :=
  ⟨findValue?_of_mem (tables.table key.kind).nodup, mem_of_findValue?⟩

theorem value?_ofSteps_eq_some_iff {steps : List Step} {key : Key} {value : Scalar} :
    (ofSteps steps).value? key = some value ↔
      ∃ earlier step later, steps = earlier ++ step :: later ∧ step.Mentions key value ∧
        ∀ other ∈ earlier, ∀ old, ¬other.Mentions key old := by
  rw [value?_ofSteps, Option.bind_eq_some_iff]
  simp only [firstMention?, List.find?_eq_some_iff_append, Bool.and_eq_true, decide_eq_true_iff,
    Bool.not_eq_true', Bool.and_eq_false_imp, decide_eq_false_iff_not, Step.not_mentions_iff]
  constructor
  · rintro ⟨step, ⟨⟨hcontributes, hkey⟩, earlier, later, hsplit, hfree⟩, hvalue⟩
    have htext := (Step.contributes_iff.mp hcontributes).1
    exact ⟨earlier, step, later, hsplit, Step.mentions_iff.mpr ⟨htext, hvalue, hkey⟩, hfree⟩
  · rintro ⟨earlier, step, later, hsplit, hmentions, hfree⟩
    obtain ⟨htext, hvalue, hkey⟩ := Step.mentions_iff.mp hmentions
    have hcontributes := Step.contributes_iff.mpr ⟨htext, value, hvalue⟩
    exact ⟨step, ⟨⟨hcontributes, hkey⟩, earlier, later, hsplit, hfree⟩, hvalue⟩

/-- The template has an entry for a key exactly when some step mentions it, with the value of the
first such step. Each table lists its keys in the order of their first mention, and steps that come
later leave the entries and their places as they are. -/
theorem ofSteps_lists_first_mentions (steps : List Step) :
    (∀ (key : Key) (value : Scalar),
        (key.value, value) ∈ ((ofSteps steps).table key.kind).entries ↔
          ∃ earlier step later, steps = earlier ++ step :: later ∧ step.Mentions key value ∧
            ∀ other ∈ earlier, ∀ old, ¬other.Mentions key old) ∧
      (∀ kind, ((ofSteps steps).names kind).Pairwise fun first second =>
        (mentionedKeys steps).idxOf ⟨kind, first⟩ < (mentionedKeys steps).idxOf ⟨kind, second⟩) ∧
      ∀ more, (ofSteps steps).Extends (ofSteps (steps ++ more)) := by
  refine ⟨fun key value => ?_, (lists_ofSteps steps).ordered, extends_ofSteps_append steps⟩
  rw [mem_entries_iff, value?_ofSteps_eq_some_iff]

/-- A press of a field, what is entered in it, and what is entered later under the same keys. -/
def addressSteps : List Step :=
  [enteringStep .click ⟨.id "email", []⟩ "on",
    enteringStep .input ⟨.label "Email", [.id "email"]⟩ "ada@x.org",
    enteringStep .change ⟨.role "textbox" "Email", [.id "email", .label "City"]⟩ "Paris"]

/-- The press counts for nothing, and of the other steps the first gives the keys their value. -/
theorem ofSteps_of_addressSteps :
    ("email", .text "ada@x.org") ∈ ((ofSteps addressSteps).table .id).entries ∧
      ("Email", .text "ada@x.org") ∈ ((ofSteps addressSteps).table .label).entries ∧
      (ofSteps addressSteps).names .id = ["email"] ∧
      (ofSteps addressSteps).names .label = ["Email", "City"] ∧
      mentionedKeys addressSteps =
        [⟨.label, "Email"⟩, ⟨.id, "email"⟩, ⟨.label, "Email"⟩, ⟨.id, "email"⟩,
          ⟨.label, "City"⟩] := by
  obtain ⟨hentries, -, -⟩ := ofSteps_lists_first_mentions addressSteps
  have hentered : (enteringStep .input ⟨.label "Email", [.id "email"]⟩ "ada@x.org").Enters
      (.text "ada@x.org") := ⟨.inl rfl, _, rfl, rfl⟩
  have hpress : ∀ other ∈ [enteringStep .click ⟨.id "email", []⟩ "on"], ∀ key old,
      ¬other.Mentions key old := by
    rintro other hother key old ⟨⟨htype, -⟩, -⟩
    rw [List.mem_singleton.mp hother] at htype
    exact absurd htype (by decide)
  have hfirst (key : Key) (l : Locator) (hl : l ∈ [Locator.label "Email", .id "email"])
      (hkey : l.key? = some key) :
      (key.value, .text "ada@x.org") ∈ ((ofSteps addressSteps).table key.kind).entries :=
    (hentries key _).mpr ⟨[_], _, _, rfl, ⟨hentered, l, hl, hkey⟩,
      fun other hother => hpress other hother key⟩
  refine ⟨?_, ?_, by decide +kernel, by decide +kernel, by decide +kernel⟩
  · exact hfirst ⟨.id, "email"⟩ (.id "email") (by decide) (by decide)
  · exact hfirst ⟨.label, "Email"⟩ (.label "Email") (by decide) (by decide)

end InputTables

end BrowserFlow
