import BrowserFlow.Proofs.Evidence.Selectors
import BrowserFlow.Proofs.Flow.Reload

/-!
# Repetitions in bundles that are read back

A bundle is built without repetitions, but nothing is left out when it is read back. A path is
written as a text of its own then and may still be read as an attribute, an id or an XPath that
stands beside it. The other candidates are told apart by how their kinds are written, before a
reload and after it.
-/

namespace BrowserFlow

namespace Bundle

theorem run_reader_pretty (b : Bundle) :
    (Bundle.reader .text).run b.toJson.pretty = .ok b.toJson := by
  have hread : Json.Document.read b.toJson.pretty.toList = ⟨Json.Draft.ofValue b.toJson, false⟩ :=
    Json.Document.read_pretty b.toJson_isExact
  rw [Json.Reader.run, hread, Json.Document.readWith]
  simp only [bind, Except.bind, reader_toJson]
  rfl

theorem nodup_expressions_reloaded_iff (b : Bundle) :
    (b.reloaded.candidates.map Locator.expression).Nodup ↔
      (b.candidates.map Locator.reloaded).Nodup := by
  rw [candidates_reloaded, List.map_map, List.Nodup, List.Nodup, List.pairwise_map,
    List.pairwise_map]
  simp only [Function.comp_apply, ne_eq, Locator.reloaded_inj_iff]

end Bundle

namespace Event

/-! ### Candidates that stay apart -/

variable (event : Event) (target : Target)

/-- What a bundle keeps besides the path. -/
def pathless : List Locator := event.sureCandidates target ++ (keptXpath? target).toList

theorem kinds_pathless :
    ((event.pathless target).map Locator.kind).Sublist (sureKinds ++ ["xpath"]) := by
  rw [pathless, List.map_append]
  refine (event.kinds_sureCandidates target).append ?_
  rw [keptXpath?]
  cases (filled target.xpath).filter fun xpath =>
      filled target.cssPath ≠ some ("xpath=" ++ xpath) with
  | none => exact List.nil_sublist _
  | some xpath => exact List.Sublist.refl _

variable {event target}

theorem opensAs_reloaded_of_mem {l : Locator} (h : l ∈ event.pathless target) :
    l.reloaded.OpensAs l.kind := by
  have hkind : l.kind ∈ sureKinds ++ ["xpath"] :=
    (event.kinds_pathless target).subset (List.mem_map_of_mem h)
  have hsure : ∀ kind ∈ sureKinds ++ ["xpath"], kind ∉ ["page", "css", "unrecognized"] := by decide
  exact Locator.opensAs_reloaded l (hsure _ hkind)

theorem nodup_reloaded_pathless : ((event.pathless target).map Locator.reloaded).Nodup := by
  have hkinds : ((event.pathless target).map Locator.kind).Nodup :=
    List.Nodup.sublist (event.kinds_pathless target) (by decide)
  have hapart := Locator.pairwise_expression_ne hkinds fun _ hl => opensAs_reloaded_of_mem hl
  exact List.pairwise_map.mpr (hapart.imp fun hne heq => hne (congrArg Locator.expression heq))

/-! ### The path -/

theorem exists_path_of_mem {path : Locator} (h : path ∈ event.keptPath? target) :
    ∃ text, path = .ofPath text := by
  rw [keptPath?, Target.pathLocator?, Option.mem_def, Option.filter_eq_some_iff] at h
  obtain ⟨text, -, htext⟩ := Option.map_eq_some_iff.mp h.1
  exact ⟨text, htext.symm⟩

/-- The path is read back as an attribute, an id or the XPath beside it is. -/
def ReadsAsOther (event : Event) (target : Target) (path : Locator) : Prop :=
  ∃ l ∈ event.pathless target,
    l.kind ∈ Locator.selectorKinds ++ ["xpath"] ∧ l.reloaded = path.reloaded

/-- A path is kept that is another candidate once it is read back. -/
def RepeatsPath (event : Event) : Prop :=
  ∃ target ∈ event.target, ∃ path ∈ event.keptPath? target, event.ReadsAsOther target path

theorem reloaded_path_mem_iff {path : Locator} (h : path ∈ event.keptPath? target) :
    path.reloaded ∈ (event.pathless target).map Locator.reloaded ↔
      event.ReadsAsOther target path := by
  obtain ⟨text, rfl⟩ := exists_path_of_mem h
  rw [List.mem_map]
  constructor
  · rintro ⟨l, hl, heq⟩
    have hkind : l.kind ∈ Locator.selectorKinds ++ ["xpath"] :=
      Locator.kind_mem_of_opening_locator (opensAs_reloaded_of_mem hl)
        (Locator.opening_locator_prefix_reloaded_ofPath text) (congrArg Locator.expression heq)
    exact ⟨l, hl, hkind, heq⟩
  · rintro ⟨l, hl, -, heq⟩
    exact ⟨l, hl, heq⟩

theorem nodup_reloaded_iff :
    ((event.sureCandidates target ++
      ((event.keptPath? target).toList ++ (keptXpath? target).toList)).map
        Locator.reloaded).Nodup ↔
      ¬∃ path ∈ event.keptPath? target, event.ReadsAsOther target path := by
  have hperm : (event.sureCandidates target ++
      ((event.keptPath? target).toList ++ (keptXpath? target).toList)).Perm
        ((event.keptPath? target).toList ++ event.pathless target) :=
    List.perm_append_comm_assoc ..
  rw [(hperm.map Locator.reloaded).nodup_iff]
  cases hpath : event.keptPath? target with
  | none => simpa using nodup_reloaded_pathless
  | some path =>
      rw [Option.toList_some, List.singleton_append, List.map_cons, List.nodup_cons,
        and_iff_left nodup_reloaded_pathless, reloaded_path_mem_iff hpath]
      simp

/-! ### Bundles of events -/

theorem nodup_reloaded_selectors_iff (event : Event) :
    (event.selectors.reloaded.candidates.map Locator.expression).Nodup ↔ ¬event.RepeatsPath := by
  have hpage : (Bundle.page.candidates.map Locator.reloaded).Nodup := List.nodup_singleton _
  rw [Bundle.nodup_expressions_reloaded_iff, RepeatsPath]
  cases htarget : event.target with
  | none =>
      have hselectors : event.selectors = .page := by rw [selectors, htarget]
      rw [hselectors]
      simpa using hpage
  | some target =>
      have hselectors : event.selectors = .ofCandidates (event.candidates target) := by
        rw [selectors, htarget]
      rw [hselectors]
      simp only [Option.mem_def, Option.some.injEq, exists_eq_left']
      by_cases hnone : event.candidates target = []
      · have hdistinct := @distinct_candidates event target
        rw [hnone, Bundle.distinct, eq_comm, List.append_eq_nil_iff] at hdistinct
        obtain ⟨-, hrest⟩ := hdistinct
        have hpath : event.keptPath? target = none :=
          Option.toList_eq_nil_iff.mp (List.append_eq_nil_iff.mp hrest).1
        have hnothing : ¬∃ path ∈ event.keptPath? target, event.ReadsAsOther target path := by
          simp [hpath]
        rw [hnone]
        exact iff_of_true hpage hnothing
      · rw [Bundle.candidates_ofCandidates hnone, distinct_candidates, nodup_reloaded_iff]
        rfl

/-- A stored bundle is read back without fail, with every locator as it is read from its own
expression. It repeats an expression exactly when the path that it keeps is read as an attribute, an
id or the XPath in it is. -/
theorem stored_selectors_nodup_iff (event : Event) :
    ∃ stored, (Bundle.reader .text).run event.selectors.toJson.pretty = .ok stored ∧
      (Bundle.ofJson stored).candidates = event.selectors.candidates.map Locator.reloaded ∧
      (((Bundle.ofJson stored).candidates.map Locator.expression).Nodup ↔ ¬event.RepeatsPath) := by
  refine ⟨_, event.selectors.run_reader_pretty, ?_⟩
  rw [Bundle.ofJson_toJson]
  exact ⟨event.selectors.candidates_reloaded, event.nodup_reloaded_selectors_iff⟩

/-- A name next to the path that selects it, which has other quotes. -/
def quotedNameEvent : Event :=
  { (default : Event) with
    target := some { (default : Target) with
      name := some "q"
      cssPath := some "[name='q']" } }

/-- The path is read back as the name is, and so the name is there twice. -/
theorem stored_selectors_of_quotedNameEvent :
    quotedNameEvent.RepeatsPath ∧
      ∃ stored, (Bundle.reader .text).run quotedNameEvent.selectors.toJson.pretty = .ok stored ∧
        ¬((Bundle.ofJson stored).candidates.map Locator.expression).Nodup := by
  have hrepeats : quotedNameEvent.RepeatsPath :=
    ⟨_, rfl, .css "[name='q']", by decide +kernel, .name "q", by decide +kernel, by decide,
      by decide +kernel⟩
  obtain ⟨stored, hread, -, hnodup⟩ := stored_selectors_nodup_iff quotedNameEvent
  exact ⟨hrepeats, stored, hread, fun h => hnodup.mp h hrepeats⟩

end Event

end BrowserFlow
