import BrowserFlow.Proofs.Compile.Recompile
import BrowserFlow.Proofs.Compile.Stages
import BrowserFlow.Proofs.Json.Range

/-!
# Events that are rejected

A file of events is rejected for one of five reasons, and everything that can reject it is decided
before anything is written: the trace, the output directory, the artifacts and the service all come
later.
-/

namespace BrowserFlow

open Json (Draft Fault ReadError Reader Value draftItems)

theorem map_eq_error {x : Except ε α} {f : α → β} {e : ε} :
    x.map f = .error e ↔ x = .error e := by
  cases x with
  | ok a => simp [Except.map]
  | error e => simp [Except.map]

namespace Json.Reader

variable {reader : Reader} {drafts : List Draft} {e : ReadError}

theorem items_cons_of_ok {draft : Draft} {value : Value} (h : reader draft = .ok value) :
    items reader (draft :: drafts) = (items reader drafts).map (value :: ·) := by
  rw [items, h]
  rfl

theorem items_cons_of_error {draft : Draft} (h : reader draft = .error e) :
    items reader (draft :: drafts) = .error e := by
  rw [items, h]
  rfl

/-- The first item that is refused decides, whatever comes after it. -/
theorem items_of_refused {before after : List Draft} {draft : Draft}
    (hbefore : ∀ earlier ∈ before, ∃ value, reader earlier = .ok value)
    (h : reader draft = .error e) : items reader (before ++ draft :: after) = .error e := by
  induction before with
  | nil => exact items_cons_of_error h
  | cons first before ih =>
      obtain ⟨⟨value, hvalue⟩, hbefore⟩ := List.forall_mem_cons.mp hbefore
      rw [List.cons_append, items_cons_of_ok hvalue, ih hbefore]
      rfl

theorem exists_refused (h : items reader drafts = .error e) :
    ∃ before draft after, drafts = before ++ draft :: after ∧
      (∀ earlier ∈ before, ∃ value, reader earlier = .ok value) ∧ reader draft = .error e := by
  induction drafts with
  | nil => exact nomatch h
  | cons first drafts ih =>
      cases hfirst : reader first with
      | error other =>
          rw [items_cons_of_error hfirst] at h
          obtain rfl := Except.error.inj h
          exact ⟨[], first, drafts, rfl, by simp, hfirst⟩
      | ok value =>
          rw [items_cons_of_ok hfirst, map_eq_error] at h
          obtain ⟨before, draft, after, rfl, hbefore, hdraft⟩ := ih h
          exact ⟨first :: before, draft, after, rfl,
            List.forall_mem_cons.mpr ⟨⟨value, hfirst⟩, hbefore⟩, hdraft⟩

end Json.Reader

/-- An event can be read from the value. -/
def Event.Decodes (item : Value) : Prop :=
  ∃ value, Event.reader .value (.ofValue item) = .ok value

/-- A file of events is rejected with this error, given how it was read. -/
inductive Rejected (path : String) : Except FileError String → CompileError → Prop
  | unreadable (e : FileError) : Rejected path (.error e) (.file path e)
  | notJson {text : String} {fault : Fault}
      (hread : (Json.Document.read text.toList).settle = .error fault) :
      Rejected path (.ok text) (.json ("events file " ++ path) (.fault fault))
  | notArray {text : String} {value : Value}
      (hread : (Json.Document.read text.toList).settle = .ok value)
      (hvalue : ∀ items, value ≠ .array items) : Rejected path (.ok text) (.notArray path)
  /-- The first event that does not decode is reported, wherever it stands. -/
  | undecodable {text : String} {before after : List Value} {item : Value} {e : ReadError}
      (hread : (Json.Document.read text.toList).settle = .ok (.array (before ++ item :: after)))
      (hbefore : ∀ earlier ∈ before, Event.Decodes earlier)
      (hitem : Event.reader .value (.ofValue item) = .error e) :
      Rejected path (.ok text) (.json ("evidence events in " ++ path) e)
  | badUrl {text url : String} {first : Event} {rest : List Event} {e : UrlError}
      (hevents : Event.listOfText text = .ok (first :: rest)) (hurl : first.url = some url)
      (hfilled : url ≠ "") (hhost : Url.host url = .error e) :
      Rejected path (.ok text) (.url url e)

section

variable {config : SegmentConfig} {path text : String} {found : Except FileError String}
  {e : CompileError}

theorem Event.listOfText_of_items {items : List Value}
    (h : (Json.Document.read text.toList).settle = .ok (.array items)) :
    Event.listOfText text =
      match Reader.items (Event.reader .value) (items.map .ofValue) with
      | .ok values => .ok (values.map .ofJson)
      | .error e => .error (.wrongShape e) := by
  have hlist : Reader.list (Event.reader .value) (.ofValue (.array items)) =
      (Reader.items (Event.reader .value) (items.map .ofValue)).map .array := by
    rw [← Json.draftItems_eq_map, Draft.ofValue, Reader.list]
    cases Reader.items (Event.reader .value) (draftItems items) <;> rfl
  simp only [Event.listOfText, h, hlist]
  cases Reader.items (Event.reader .value) (items.map .ofValue) <;> rfl

theorem pageUrl_of_events {events : List Event} {url : String} :
    events.head?.bind Event.pageUrl? = some url ↔
      ∃ first rest, events = first :: rest ∧ first.url = some url ∧ url ≠ "" := by
  cases events with
  | nil => simp
  | cons first rest => simp [Event.pageUrl?, observed, Option.filter_eq_some_iff]

theorem nameOf_eq_error {events : List Event} :
    Flow.nameOf events = .error e ↔
      ∃ url error, events.head?.bind Event.pageUrl? = some url ∧ Url.host url = .error error ∧
        e = .url url error := by
  unfold Flow.nameOf
  cases events.head?.bind Event.pageUrl? with
  | none => simp
  | some url =>
      cases hhost : Url.host url with
      | ok host => simp [hhost, Except.mapError]
      | error error => simp [hhost, Except.mapError, eq_comm]

theorem build_eq_error {events : List Event} :
    Flow.build config events = .error e ↔ Flow.nameOf events = .error e := by
  have hbuild : Flow.build config events = (Flow.nameOf events).map fun name =>
      { name := name, steps := BrowserFlow.segment config events } := by
    rw [Flow.build]
    cases Flow.nameOf events <;> rfl
  rw [hbuild, map_eq_error]

theorem build_of_url {first : Event} {rest : List Event} {url : String} {e : UrlError}
    (hurl : first.url = some url) (hfilled : url ≠ "") (hhost : Url.host url = .error e) :
    Flow.build config (first :: rest) = .error (.url url e) := by
  have hpage : (first :: rest).head?.bind Event.pageUrl? = some url :=
    pageUrl_of_events.mpr ⟨first, rest, rfl, hurl, hfilled⟩
  exact build_eq_error.mpr (nameOf_eq_error.mpr ⟨url, e, hpage, hhost, rfl⟩)

theorem exists_url_of_build {events : List Event} (h : Flow.build config events = .error e) :
    ∃ first rest url error, events = first :: rest ∧ first.url = some url ∧ url ≠ "" ∧
      Url.host url = .error error ∧ e = .url url error := by
  obtain ⟨url, error, hpage, hhost, rfl⟩ := nameOf_eq_error.mp (build_eq_error.mp h)
  obtain ⟨first, rest, rfl, hurl, hfilled⟩ := pageUrl_of_events.mp hpage
  exact ⟨first, rest, url, error, rfl, hurl, hfilled, hhost, rfl⟩

theorem accept_of_rejection (h : Rejected path found e) : accept config path found = .error e := by
  cases h with
  | unreadable e => rfl
  | notJson hread =>
      refine accept_of_rejected ?_
      rw [readEvents, Event.listOfText, hread]
      rfl
  | @notArray text value hread hvalue =>
      refine accept_of_rejected ?_
      rw [readEvents, Event.listOfText, hread]
      cases value with
      | array items => exact absurd rfl (hvalue items)
      | _ => rfl
  | undecodable hread hbefore hitem =>
      refine accept_of_rejected ?_
      rw [readEvents, Event.listOfText_of_items hread, List.map_append, List.map_cons,
        Reader.items_of_refused (List.forall_mem_map.mpr hbefore) hitem]
      rfl
  | badUrl hevents hurl hfilled hhost =>
      rw [accept_of_read (readEvents_eq_ok.mpr hevents), build_of_url hurl hfilled hhost]
      rfl

theorem rejected_of_listOfText {error : EvidenceError} (h : Event.listOfText text = .error error) :
    Rejected path (.ok text) (.ofEvidence path error) := by
  cases hread : (Json.Document.read text.toList).settle with
  | error fault =>
      rw [Event.listOfText, hread] at h
      obtain rfl := Except.error.inj h
      exact .notJson hread
  | ok value =>
      cases value with
      | array items =>
          rw [Event.listOfText_of_items hread] at h
          split at h
          · cases h
          · next error hitems =>
              obtain rfl := Except.error.inj h
              obtain ⟨before, draft, after, hdrafts, hbefore, hdraft⟩ :=
                Reader.exists_refused hitems
              obtain ⟨front, back, rfl, rfl, hback⟩ := List.map_eq_append_iff.mp hdrafts
              obtain ⟨item, rest, rfl, rfl, rfl⟩ := List.map_eq_cons_iff.mp hback
              exact .undecodable hread
                (fun earlier hmem => hbefore _ (List.mem_map_of_mem hmem)) hdraft
      | _ =>
          rw [Event.listOfText, hread] at h
          obtain rfl := Except.error.inj h
          exact .notArray hread (by simp)

theorem rejected_of_accept (h : accept config path found = .error e) : Rejected path found e := by
  cases found with
  | error failure =>
      obtain rfl := Except.error.inj h
      exact .unreadable failure
  | ok text =>
      cases hlist : Event.listOfText text with
      | error error =>
          have hread : readEvents path text = .error (.ofEvidence path error) := by
            rw [readEvents, hlist]
            rfl
          rw [accept_of_rejected hread] at h
          obtain rfl := Except.error.inj h
          exact rejected_of_listOfText hlist
      | ok events =>
          rw [accept_of_read (readEvents_eq_ok.mpr hlist), map_eq_error] at h
          obtain ⟨first, rest, url, error, rfl, hurl, hfilled, hhost, rfl⟩ :=
            exists_url_of_build h
          exact .badUrl hlist hurl hfilled hhost

/-- The five reasons are all that there are, and each of them suffices. -/
theorem accept_eq_error : accept config path found = .error e ↔ Rejected path found e :=
  ⟨rejected_of_accept, accept_of_rejection⟩

/-- An event that does not decode has the file rejected, for it or for an earlier one. -/
theorem exists_rejected_of_item {items : List Value} {item : Value}
    (hread : (Json.Document.read text.toList).settle = .ok (.array items)) (hmem : item ∈ items)
    (hitem : ¬Event.Decodes item) : ∃ e, Rejected path (.ok text) e := by
  cases hlist : Event.listOfText text with
  | error error => exact ⟨_, rejected_of_listOfText hlist⟩
  | ok events =>
      rw [Event.listOfText_of_items hread] at hlist
      split at hlist
      · next values hvalues =>
          have hdecodes : ∀ draft ∈ items.map Draft.ofValue,
              ∃ value ∈ values, Event.reader .value draft = .ok value :=
            Json.forall_mem_of_forall₂ (Reader.forall₂_of_items hvalues).flip
              fun value hvalue draft hdraft => ⟨value, hvalue, hdraft⟩
          obtain ⟨value, -, hvalue⟩ := hdecodes _ (List.mem_map_of_mem hmem)
          exact absurd ⟨value, hvalue⟩ hitem
      · exact nomatch hlist

end

/-! ### Failures once the events are accepted -/

namespace Attempt

/-- The action fails only on one of these paths. -/
def FailsOn (paths : List String) (action : Attempt (StateM FileStore) α) : Prop :=
  ∀ store final e, runOn action store = (.error e, final) →
    ∃ path ∈ paths, ∃ cause, e = .file path cause

variable {paths : List String}

theorem failsOn_pure (a : α) : FailsOn paths (pure a) := by
  intro store final e h
  exact nomatch h

theorem failsOn_lift (action : StateM FileStore α) :
    FailsOn paths (liftM action : Attempt (StateM FileStore) α) := by
  intro store final e h
  exact nomatch congrArg Prod.fst h

theorem FailsOn.bind {action : Attempt (StateM FileStore) α}
    {next : α → Attempt (StateM FileStore) β} (h : FailsOn paths action)
    (hnext : ∀ a, FailsOn paths (next a)) : FailsOn paths (action >>= next) := by
  intro store final e hrun
  rw [runOn_bind] at hrun
  rcases haction : runOn action store with ⟨failure | a, middle⟩
  · rw [haction] at hrun
    cases hrun
    exact h _ _ _ haction
  · rw [haction] at hrun
    exact hnext a _ _ _ hrun

theorem failsOn_ofFile {path : String} (hpath : path ∈ paths)
    (action : StateM FileStore (Except FileError α)) : FailsOn paths (ofFile path action) := by
  intro store final e h
  have hresult : (action.run store).1.mapError (CompileError.file path) = .error e :=
    congrArg Prod.fst h
  cases haction : (action.run store).1 with
  | ok a =>
      rw [haction] at hresult
      exact nomatch hresult
  | error cause =>
      rw [haction] at hresult
      exact ⟨path, hpath, cause, (Except.error.inj hresult).symm⟩

theorem failsOn_forM {items : List α} {action : α → Attempt (StateM FileStore) Unit}
    (h : ∀ item ∈ items, FailsOn paths (action item)) : FailsOn paths (items.forM action) := by
  induction items with
  | nil => exact failsOn_pure ()
  | cons item items ih =>
      obtain ⟨hitem, hitems⟩ := List.forall_mem_cons.mp h
      exact hitem.bind fun _ => ih hitems

end Attempt

namespace CompileOptions

open Attempt (FailsOn)

/-- The paths that a compilation writes to, apart from its trace. -/
def outputs (options : CompileOptions) : List String :=
  options.outDirectory ::
    (artifactNames options.replay ++ [rewrittenScriptFile]).map options.path

variable (options : CompileOptions) (events : List Event) (flow : Flow)

theorem path_mem_outputs {name : String}
    (h : name ∈ artifactNames options.replay ++ [rewrittenScriptFile]) :
    options.path name ∈ options.outputs :=
  List.mem_cons_of_mem _ (List.mem_map_of_mem h)

theorem failsOn_writeBaseline : FailsOn options.outputs (options.writeBaseline events flow) := by
  unfold writeBaseline
  apply (Attempt.failsOn_lift _).bind
  intro _
  apply (Attempt.failsOn_ofFile List.mem_cons_self _).bind
  intro _
  apply Attempt.failsOn_forM
  intro artifact hartifact
  refine Attempt.failsOn_ofFile (options.path_mem_outputs ?_) _
  exact List.mem_append_left _ (List.mem_map_of_mem hartifact)

theorem failsOn_conclude (outcome : Rewrite.Outcome) :
    FailsOn options.outputs (options.conclude events flow outcome) := by
  unfold conclude
  refine FailsOn.bind ?_ fun _ => Attempt.failsOn_pure _
  rcases outcome with e | _ | script
  · exact Attempt.failsOn_pure ()
  · exact Attempt.failsOn_pure ()
  · exact Attempt.failsOn_ofFile
      (options.path_mem_outputs (List.mem_append_right _ List.mem_cons_self)) _

/-- A failure that is not a rejection names the directory or the file that could not be made. -/
theorem rejected_or_failsOn {path : String} {store final : FileStore} {e : CompileError}
    (h : Attempt.runOn (compile options path) store = (.error e, final)) :
    (Rejected path (store.readText path) e ∧ final = store) ∨
      ∃ output ∈ options.outputs, ∃ cause, e = .file output cause := by
  rw [Attempt.runOn_compile, Attempt.runOn_baseline] at h
  rcases haccept : accept options.segment path (store.readText path) with error | ⟨events, flow⟩
  · simp only [haccept] at h
    cases h
    exact .inl ⟨accept_eq_error.mp haccept, rfl⟩
  · rcases hbaseline : Attempt.runOn (options.writeBaseline events flow) store with
      ⟨error | u, middle⟩
    · simp only [haccept, hbaseline] at h
      cases h
      exact .inr (options.failsOn_writeBaseline events flow _ _ _ hbaseline)
    · simp only [haccept, hbaseline] at h
      exact .inr (options.failsOn_conclude events flow _ _ _ _ h)

theorem runOn_compile_of_rejected {path : String} {store : FileStore} {e : CompileError}
    (h : Rejected path (store.readText path) e) :
    Attempt.runOn (compile options path) store = (.error e, store) := by
  rw [Attempt.runOn_compile, Attempt.runOn_baseline]
  simp only [accept_eq_error.mpr h]

/-- A service that remembers, and may touch files, learns nothing of events that are rejected. -/
theorem run_compileAsking_of_rejected {path : String} {store : FileStore} {e : CompileError}
    (h : Rejected path (store.readText path) e) {Memory : Type}
    (ask : Flow → String → StateT Memory (StateM FileStore) Rewrite.Outcome) (memory : Memory) :
    ((compileAsking ask options path).run.run memory).run store = ((.error e, memory), store) := by
  have hread : ((FileSystem.readText path : StateT Memory (StateM FileStore) _).run memory).run
      store = ((store.readText path, memory), store) := rfl
  rw [run_compileAsking, StateT.run_bind, FileStore.run_bind, hread]
  simp only [accept_eq_error.mpr h]
  rfl

/-- A file of events that is rejected leaves every file as it was, and no service is asked about it.
An event that does not decode rejects the file wherever it stands, and whatever else can fail is the
writing of an output. -/
theorem rejected_leaves_no_trace (path : String) (store : FileStore) :
    (compile options path : Attempt (StateM FileStore) Compiled) =
        compileAsking (fun flow script => pure (options.rewriter flow script)) options path ∧
      (∀ e, Rejected path (store.readText path) e →
        Attempt.runOn (compile options path) store = (.error e, store) ∧
          ∀ {Memory : Type}
            (ask : Flow → String → StateT Memory (StateM FileStore) Rewrite.Outcome)
            (memory : Memory), ((compileAsking ask options path).run.run memory).run store =
              ((.error e, memory), store)) ∧
      (∀ text items item, store.readText path = .ok text →
        (Json.Document.read text.toList).settle = .ok (.array items) → item ∈ items →
        ¬Event.Decodes item → ∃ e, Rejected path (store.readText path) e) ∧
      ∀ e final, Attempt.runOn (compile options path) store = (.error e, final) →
        (Rejected path (store.readText path) e ∧ final = store) ∨
          ∃ output ∈ options.outputs, ∃ cause, e = .file output cause := by
  refine ⟨compile_eq_compileAsking options path, ?_, ?_, ?_⟩
  · intro e h
    refine ⟨options.runOn_compile_of_rejected h, ?_⟩
    intro Memory ask memory
    exact options.run_compileAsking_of_rejected h ask memory
  · intro text items item htext hread hmem hitem
    rw [htext]
    exact exists_rejected_of_item hread hmem hitem
  · intro e final h
    exact options.rejected_or_failsOn h

def timedItem : Value := .array [.string "click", .nat 2, .null, .array [], .null]

/-- An event whose time is not a number. -/
def untimedItem : Value := .object [("eventType", .string "submit"), ("timestamp", .string "later")]

def untimedStore : FileStore :=
  FileStore.empty.put ["home", "in.json"] (.file (Value.array [timedItem, untimedItem]).pretty)

theorem settle_untimed :
    (Json.Document.read (Value.array [timedItem, untimedItem]).pretty.toList).settle =
      .ok (.array [timedItem, untimedItem]) := by
  have hexact : (Value.array [timedItem, untimedItem]).IsExact := by
    simp [timedItem, untimedItem, Value.IsExact, Json.exactItems_iff, Json.exactFields_iff,
      Value.nat, Json.Number.IsExact]
  exact Json.Document.settle_read_pretty hexact rfl

def tracedOptions : CompileOptions := { looseOptions with trace := some "trace.log" }

/-- A service that declines, and counts how often it is asked. -/
def countingService (_ : Flow) (_ : String) : StateT Nat (StateM FileStore) Rewrite.Outcome := do
  modify (· + 1)
  return .ok none

def untimedError : CompileError :=
  .json "evidence events in in.json" (.mismatch (.invalidType (.string "later") "u64"))

/-- The second event is rejected: no trace is written, and no question is counted. -/
theorem rejected_untimedStore :
    Rejected "in.json" (untimedStore.readText "in.json") untimedError ∧
      Attempt.runOn (compile tracedOptions "in.json") untimedStore =
        (.error untimedError, untimedStore) ∧
      ((compileAsking countingService tracedOptions "in.json").run.run 0).run untimedStore =
        ((.error untimedError, 0), untimedStore) := by
  have hread : untimedStore.readText "in.json" =
      .ok (Value.array [timedItem, untimedItem]).pretty := rfl
  have htimed : Event.Decodes timedItem := ⟨_, rfl⟩
  have huntimed : Event.reader .value (.ofValue untimedItem) =
      .error (.mismatch (.invalidType (.string "later") "u64")) := rfl
  have hrejected : Rejected "in.json" (untimedStore.readText "in.json") untimedError := by
    rw [hread]
    exact @Rejected.undecodable "in.json" _ [timedItem] [] untimedItem _ settle_untimed
      (by simpa using htimed) huntimed
  obtain ⟨-, hleaves, -⟩ := rejected_leaves_no_trace tracedOptions "in.json" untimedStore
  obtain ⟨hrun, hasked⟩ := hleaves untimedError hrejected
  exact ⟨hrejected, hrun, hasked countingService 0⟩

end CompileOptions

end BrowserFlow
