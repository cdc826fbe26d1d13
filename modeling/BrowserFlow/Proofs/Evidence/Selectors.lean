import BrowserFlow.Evidence.Selectors
import BrowserFlow.Proofs.Evidence.Names
import BrowserFlow.Proofs.Locator.Opening
import Mathlib.Data.List.ReduceOption

/-!
# Which candidates a bundle keeps

Only paths can be written as other candidates are, and they come after the attributes of the target.
So no attribute loses its place to another one, and every key that the evidence has is a key of the
bundle.
-/

namespace BrowserFlow

namespace Bundle

/-! ### Candidates that are written differently -/

theorem distinct_append {seen : List String} {front : List Locator} (rest : List Locator)
    (hnew : ∀ l ∈ front, l.expression ∉ seen) (hnodup : (front.map Locator.expression).Nodup) :
    distinct seen (front ++ rest) =
      front ++ distinct ((front.map Locator.expression).reverse ++ seen) rest := by
  induction front generalizing seen with
  | nil => rfl
  | cons l front ih =>
      obtain ⟨hl, hfront⟩ := List.forall_mem_cons.mp hnew
      obtain ⟨hfirst, hnodup⟩ := List.nodup_cons.mp hnodup
      have hrest : ∀ m ∈ front, m.expression ∉ l.expression :: seen := by
        intro m hm hseen
        rcases List.mem_cons.mp hseen with heq | hseen
        · exact hfirst (heq ▸ List.mem_map_of_mem hm)
        · exact hfront m hm hseen
      rw [List.cons_append, distinct, if_neg hl, ih hrest hnodup]
      simp

theorem nodup_distinct (seen : List String) (candidates : List Locator) :
    ((distinct seen candidates).map Locator.expression).Nodup ∧
      ∀ l ∈ distinct seen candidates, l.expression ∉ seen := by
  induction candidates generalizing seen with
  | nil => simp [distinct]
  | cons l rest ih =>
      rw [distinct]
      split
      · exact ih seen
      · next hnew =>
          obtain ⟨hnodup, hrest⟩ := ih (l.expression :: seen)
          refine ⟨?_, List.forall_mem_cons.mpr ⟨hnew, fun m hm hseen =>
            hrest m hm (List.mem_cons_of_mem _ hseen)⟩⟩
          rw [List.map_cons, List.nodup_cons]
          refine ⟨fun hmem => ?_, hnodup⟩
          obtain ⟨m, hm, heq⟩ := List.mem_map.mp hmem
          exact hrest m hm (heq ▸ List.mem_cons_self)

theorem candidates_ofCandidates {candidates : List Locator} (h : candidates ≠ []) :
    (ofCandidates candidates).candidates = distinct [] candidates := by
  obtain ⟨l, rest, rfl⟩ := List.exists_cons_of_ne_nil h
  rfl

theorem nodup_ofCandidates (candidates : List Locator) :
    ((ofCandidates candidates).candidates.map Locator.expression).Nodup := by
  by_cases h : candidates = []
  · subst h
    exact List.nodup_singleton _
  · rw [candidates_ofCandidates h]
    exact (nodup_distinct [] candidates).1

theorem distinct_two (seen : List String) (first second : Option Locator) :
    distinct seen (first.toList ++ second.toList) =
      (first.filter fun l => l.expression ∉ seen).toList ++
        (second.filter fun l =>
          l.expression ∉ seen ∧ ∀ m ∈ first, m.expression ≠ l.expression).toList := by
  cases first with
  | none =>
      cases second with
      | none => rfl
      | some l => by_cases hl : l.expression ∈ seen <;> simp [distinct, Option.filter_some, hl]
  | some m =>
      cases second with
      | none => by_cases hm : m.expression ∈ seen <;> simp [distinct, Option.filter_some, hm]
      | some l =>
          by_cases hm : m.expression ∈ seen
          · -- The first is dropped. What is new is then different from it anyway.
            have hne : l.expression ∉ seen → m.expression ≠ l.expression :=
              fun hl heq => hl (heq ▸ hm)
            by_cases hl : l.expression ∈ seen
            · simp [distinct, Option.filter_some, hm, hl]
            · simp [distinct, Option.filter_some, hm, hl, hne hl]
          · by_cases hsame : l.expression = m.expression
            · simp [distinct, Option.filter_some, hm, hsame]
            · by_cases hl : l.expression ∈ seen
              · simp [distinct, Option.filter_some, hm, hl]
              · simp [distinct, Option.filter_some, hm, hl, hsame, Ne.symm hsame]

end Bundle

/-- What the options give, in order, is of the sorts that are given for them. -/
theorem map_reduceOption_sublist {sort : α → β} {options : List (Option α)} {sorts : List β}
    (h : List.Forall₂ (fun option name => ∀ a ∈ option, sort a = name) options sorts) :
    (options.reduceOption.map sort).Sublist sorts := by
  induction h with
  | nil => exact .slnil
  | @cons option name options sorts hoption _ ih =>
      cases option with
      | none => exact ih.cons name
      | some a =>
          rw [List.reduceOption_cons_of_some, List.map_cons, hoption a rfl]
          exact ih.cons_cons name

namespace Target

def pathLocator? (target : Target) : Option Locator := (filled target.cssPath).map .ofPath

def xpathLocator? (target : Target) : Option Locator := (filled target.xpath).map .xpath

end Target

namespace Event

variable (event : Event) (target : Target)

/-- What the evidence says of the target besides paths, in the order of the candidates. -/
def sureOptions : List (Option Locator) :=
  [(filled (target.dataAttributes.get? "data-testid")).map .testId,
    (filled (target.dataAttributes.get? "data-test")).map .dataTest,
    (filled (target.dataAttributes.get? "data-cy")).map .dataCy,
    target.shownRole?.bind fun role => event.shownName?.map (.role role),
    (filled event.context.nearbyLabels.head?).map .label,
    (filled target.placeholder).map .placeholder,
    (filled target.id).map .id,
    (filled target.name).map .name,
    (filled target.innerText).map .text]

/-- The candidates before the paths. -/
def sureCandidates : List Locator := (event.sureOptions target).reduceOption

/-- All that the evidence says of the target, the paths at the end. -/
def locators : List Locator :=
  event.sureCandidates target ++ (target.pathLocator?.toList ++ target.xpathLocator?.toList)

theorem roleLocator?_eq :
    event.roleLocator? target =
      target.shownRole?.bind fun role => event.shownName?.map (.role role) := by
  rw [roleLocator?, target.role?_eq_shownRole?, event.accessibleName?_eq_shownName?]
  cases target.shownRole? <;> cases event.shownName? <;> rfl

theorem candidates_eq_locators : event.candidates target = event.locators target := by
  have hsplit : event.candidates target =
      (event.sureOptions target ++ [target.pathLocator?, target.xpathLocator?]).reduceOption := by
    simp only [candidates, roleLocator?_eq, Target.dataAttribute?, firstLabel?, observed_eq_filled]
    rfl
  have hpaths : [target.pathLocator?, target.xpathLocator?].reduceOption =
      target.pathLocator?.toList ++ target.xpathLocator?.toList := by
    cases target.pathLocator? <;> cases target.xpathLocator? <;> rfl
  rw [hsplit, List.reduceOption_append, hpaths, locators, sureCandidates]

def sureKinds : List String :=
  ["testId", "dataTest", "dataCy", "role", "label", "placeholder", "id", "name", "text"]

theorem kind_of_mem_map (make : String → Locator) {kind : String} {option : Option String}
    (hmake : ∀ v, (make v).kind = kind) : ∀ l ∈ option.map make, l.kind = kind := by
  cases option with
  | none => simp
  | some v => simpa using hmake v

theorem kind_of_mem_bind (make : String → String → Locator) {kind : String}
    {first second : Option String} (hmake : ∀ v w, (make v w).kind = kind) :
    ∀ l ∈ first.bind fun v => second.map (make v), l.kind = kind := by
  cases first with
  | none => simp
  | some v => exact kind_of_mem_map (make v) (hmake v)

theorem kinds_sureCandidates :
    ((event.sureCandidates target).map Locator.kind).Sublist sureKinds :=
  map_reduceOption_sublist <|
    .cons (kind_of_mem_map .testId fun _ => rfl) <|
    .cons (kind_of_mem_map .dataTest fun _ => rfl) <|
    .cons (kind_of_mem_map .dataCy fun _ => rfl) <|
    .cons (kind_of_mem_bind .role fun _ _ => rfl) <|
    .cons (kind_of_mem_map .label fun _ => rfl) <|
    .cons (kind_of_mem_map .placeholder fun _ => rfl) <|
    .cons (kind_of_mem_map .id fun _ => rfl) <|
    .cons (kind_of_mem_map .name fun _ => rfl) <|
    .cons (kind_of_mem_map .text fun _ => rfl) .nil

variable {event target}

theorem hasOpening_of_mem {l : Locator} (h : l ∈ event.sureCandidates target) : l.HasOpening := by
  have hkind : l.kind ∈ sureKinds :=
    (event.kinds_sureCandidates target).subset (List.mem_map_of_mem h)
  have hsure : ∀ kind ∈ sureKinds, kind ∉ ["page", "css", "unrecognized"] := by decide
  exact Locator.hasOpening l (hsure _ hkind)

theorem nodup_sureCandidates :
    ((event.sureCandidates target).map Locator.expression).Nodup := by
  have hkinds : ((event.sureCandidates target).map Locator.kind).Nodup :=
    List.Nodup.sublist (event.kinds_sureCandidates target) (by decide)
  exact List.pairwise_map.mpr
    (@Locator.pairwise_expression_ne _ id hkinds fun _ hl => hasOpening_of_mem hl)

/-- The candidate is written as a selector before the paths is. -/
def RepeatsSelector (event : Event) (target : Target) (l : Locator) : Prop :=
  ∃ m ∈ event.sureCandidates target, m.kind ∈ Locator.selectorKinds ∧ m.expression = l.expression

instance (l : Locator) : Decidable (event.RepeatsSelector target l) :=
  inferInstanceAs (Decidable (∃ m ∈ event.sureCandidates target, _ ∧ _))

theorem repeatsSelector_ofPath_iff {path : String} :
    event.RepeatsSelector target (.ofPath path) ↔
      (Locator.ofPath path).expression ∈ (event.sureCandidates target).map Locator.expression := by
  rw [List.mem_map]
  constructor
  · rintro ⟨m, hm, -, heq⟩
    exact ⟨m, hm, heq⟩
  · rintro ⟨m, hm, heq⟩
    have hsure : m.kind ∈ sureKinds :=
      (event.kinds_sureCandidates target).subset (List.mem_map_of_mem hm)
    have hselector : ∀ kind ∈ sureKinds, kind ∈ Locator.selectorKinds ++ ["xpath"] →
        kind ∈ Locator.selectorKinds := by
      decide
    have hkind := Locator.kind_of_expression_eq_ofPath (hasOpening_of_mem hm) heq
    exact ⟨m, hm, hselector _ hsure hkind, heq⟩

/-- The path, unless it is written as a selector before it is. -/
def keptPath? (event : Event) (target : Target) : Option Locator :=
  target.pathLocator?.filter fun l => ¬event.RepeatsSelector target l

/-- The XPath, unless the path is the same one. -/
def keptXpath? (target : Target) : Option Locator :=
  ((filled target.xpath).filter fun xpath =>
    filled target.cssPath ≠ some ("xpath=" ++ xpath)).map .xpath

/-- The keys that a person can recognise the target by. -/
def observedKeys (event : Event) (target : Target) : List Key :=
  [(filled (target.dataAttributes.get? "data-testid")).map (Key.mk .testId),
    (filled event.context.nearbyLabels.head?).map (Key.mk .label),
    (filled target.placeholder).map (Key.mk .placeholder),
    (filled target.id).map (Key.mk .id),
    (filled target.name).map (Key.mk .name)].reduceOption

theorem expression_xpath_not_mem (xpath : String) :
    (Locator.xpath xpath).expression ∉ (event.sureCandidates target).map Locator.expression := by
  intro hmem
  obtain ⟨m, hm, heq⟩ := List.mem_map.mp hmem
  have hkind : m.kind = "xpath" := Locator.kind_eq_of_expression_eq (hasOpening_of_mem hm)
    (Locator.hasOpening (.xpath xpath) (by simp [Locator.kind])) heq
  have hsure : m.kind ∈ sureKinds :=
    (event.kinds_sureCandidates target).subset (List.mem_map_of_mem hm)
  rw [hkind] at hsure
  exact absurd hsure (by decide)

theorem xpath_apart_iff (xpath : String) :
    (∀ m ∈ target.pathLocator?, m.expression ≠ (Locator.xpath xpath).expression) ↔
      filled target.cssPath ≠ some ("xpath=" ++ xpath) := by
  rw [Target.pathLocator?]
  cases filled target.cssPath with
  | none => simp
  | some path =>
      have hsame := Locator.expression_xpath_eq_ofPath_iff path xpath
      simpa [eq_comm] using not_congr hsame

theorem distinct_candidates :
    Bundle.distinct [] (event.candidates target) =
      event.sureCandidates target ++
        ((event.keptPath? target).toList ++ (keptXpath? target).toList) := by
  rw [candidates_eq_locators, locators, Bundle.distinct_append _ (by simp) nodup_sureCandidates,
    Bundle.distinct_two]
  have hpath : (target.pathLocator?.filter fun l => l.expression ∉
      ((event.sureCandidates target).map Locator.expression).reverse ++ []) =
      event.keptPath? target := by
    rw [keptPath?, Target.pathLocator?]
    cases filled target.cssPath with
    | none => rfl
    | some path => simp [Option.filter_some, repeatsSelector_ofPath_iff]
  have hxpath : (target.xpathLocator?.filter fun l => l.expression ∉
      ((event.sureCandidates target).map Locator.expression).reverse ++ [] ∧
        ∀ m ∈ target.pathLocator?, m.expression ≠ l.expression) = keptXpath? target := by
    rw [keptXpath?, Target.xpathLocator?]
    cases filled target.xpath with
    | none => rfl
    | some xpath =>
        have hnew : (Locator.xpath xpath).expression ∉
            (event.sureCandidates target).map Locator.expression := expression_xpath_not_mem xpath
        simp only [Option.map_some, Option.filter_some, xpath_apart_iff, List.append_nil,
          List.mem_reverse, hnew, not_false_eq_true, true_and]
        split
        · rfl
        · rfl
  rw [hpath, hxpath]

theorem key?_of_filled {l : Locator} {kind : KeyKind} {value : String} {field : Option String}
    (hvalue : filled field = some value) (hkey : l.keyOf = some ⟨kind, value⟩) :
    l.key? = some ⟨kind, value⟩ := by
  have hnonempty : value ≠ "" := by
    simpa using (Option.filter_eq_some_iff.mp hvalue).2
  rw [Locator.key?, hkey, Option.filter_some, if_pos (by simpa using hnonempty)]

theorem exists_of_mem_observedKeys {key : Key} (h : key ∈ event.observedKeys target) :
    ∃ l ∈ event.sureCandidates target, l.key? = some key := by
  have hsure : ∀ l, some l ∈ event.sureOptions target → l ∈ event.sureCandidates target :=
    fun _ => List.reduceOption_mem_iff.mpr
  rw [observedKeys, List.reduceOption_mem_iff] at h
  simp only [List.mem_cons, List.not_mem_nil, or_false] at h
  rcases h with h | h | h | h | h
  · obtain ⟨v, hv, rfl⟩ := Option.map_eq_some_iff.mp h.symm
    exact ⟨.testId v, hsure _ (by simp [sureOptions, hv]), key?_of_filled hv rfl⟩
  · obtain ⟨v, hv, rfl⟩ := Option.map_eq_some_iff.mp h.symm
    exact ⟨.label v, hsure _ (by simp [sureOptions, hv]), key?_of_filled hv rfl⟩
  · obtain ⟨v, hv, rfl⟩ := Option.map_eq_some_iff.mp h.symm
    exact ⟨.placeholder v, hsure _ (by simp [sureOptions, hv]), key?_of_filled hv rfl⟩
  · obtain ⟨v, hv, rfl⟩ := Option.map_eq_some_iff.mp h.symm
    exact ⟨.id v, hsure _ (by simp [sureOptions, hv]), key?_of_filled hv rfl⟩
  · obtain ⟨v, hv, rfl⟩ := Option.map_eq_some_iff.mp h.symm
    exact ⟨.name v, hsure _ (by simp [sureOptions, hv]), key?_of_filled hv rfl⟩

/-- What a bundle keeps of the evidence of a target. -/
structure Keeps (event : Event) (target : Target) (bundle : Bundle) : Prop where
  page : event.locators target = [] → bundle = .page
  candidates : event.locators target ≠ [] → bundle.candidates =
    event.sureCandidates target ++ ((event.keptPath? target).toList ++ (keptXpath? target).toList)
  nodup : (bundle.candidates.map Locator.expression).Nodup
  keys : event.observedKeys target ⊆ bundle.keys

/-- Nothing that the evidence says of a target is dropped from its bundle, apart from a path that is
written as an attribute or id before it is, and an XPath that the path is already. -/
theorem selectors_keep_evidence {event : Event} {target : Target} (h : event.target = some target) :
    event.Keeps target event.selectors := by
  have hselectors : event.selectors = .ofCandidates (event.candidates target) := by
    rw [selectors, h]
  rw [hselectors]
  have hcandidates (hne : event.locators target ≠ []) :
      (Bundle.ofCandidates (event.candidates target)).candidates =
        event.sureCandidates target ++
          ((event.keptPath? target).toList ++ (keptXpath? target).toList) := by
    rw [← candidates_eq_locators] at hne
    rw [Bundle.candidates_ofCandidates hne, distinct_candidates]
  exact
    { page := fun hnone => by
        rw [candidates_eq_locators, hnone]
        rfl
      candidates := hcandidates
      nodup := Bundle.nodup_ofCandidates _
      keys := fun key hkey => by
        obtain ⟨l, hl, hlkey⟩ := exists_of_mem_observedKeys hkey
        have hne : event.locators target ≠ [] :=
          List.append_ne_nil_of_left_ne_nil (List.ne_nil_of_mem hl) _
        rw [Bundle.keys, hcandidates hne]
        exact List.mem_filterMap.mpr ⟨l, List.mem_append_left _ hl, hlkey⟩ }

/-- A link that states no role, with the selector of its id as its path. -/
def linkTarget : Target :=
  { (default : Target) with
    tagName := some "a"
    role := some ""
    dataAttributes := .ofEntries [("data-testid", "home-link")]
    ariaLabel := some "Home"
    id := some "home"
    innerText := some ""
    cssPath := some "#home"
    xpath := some "//a" }

def linkEvent : Event :=
  { (default : Event) with target := some linkTarget, context := ⟨[], ["Start"]⟩ }

theorem selectors_of_linkEvent :
    linkEvent.target = some linkTarget ∧ linkEvent.Keeps linkTarget linkEvent.selectors ∧
      linkEvent.selectors.candidates =
        [.testId "home-link", .role "link" "Home", .label "Start", .id "home", .xpath "//a"] ∧
      linkEvent.selectors.keys =
        [⟨.testId, "home-link"⟩, ⟨.label, "Home"⟩, ⟨.label, "Start"⟩, ⟨.id, "home"⟩] := by
  have hkeeps : linkEvent.Keeps linkTarget linkEvent.selectors := selectors_keep_evidence rfl
  refine ⟨rfl, hkeeps, ?_, ?_⟩
  · rw [hkeeps.candidates (by decide +kernel)]
    decide +kernel
  · decide +kernel

end Event

end BrowserFlow
