import BrowserFlow.Compile.Artifacts
import BrowserFlow.Proofs.Files.Store

/-!
# Compilations on a file store

What a compilation does when it succeeds: it reads the events, lets the trace grow, makes the output
directory and then writes its artifacts, of which the rewritten script is the last.
-/

namespace BrowserFlow

open FileStore (Writes)

theorem mapError_eq_ok {x : Except ε α} {f : ε → ε'} {a : α} :
    x.mapError f = .ok a ↔ x = .ok a := by
  cases x with
  | ok b => simp [Except.mapError]
  | error e => simp [Except.mapError]

namespace FileStore

variable {store made : FileStore} {path : String}

theorem run_attempt (operation : FileStore → Except FileError FileStore) (store : FileStore) :
    (attempt operation).run store =
      match operation store with
      | .ok later => (.ok (), later)
      | .error e => (.error e, store) := by
  have hrun : (attempt operation).run store =
      (match operation store with
        | .ok later => do set later; return .ok ()
        | .error e => return .error e : StateM FileStore (Except FileError Unit)).run store := rfl
  rw [hrun]
  cases operation store <;> rfl

theorem run_appendText (path text : String) (store : FileStore) :
    (FileSystem.appendText path text : StateM FileStore _).run store =
      match store.appendText path text with
      | .ok later => (.ok (), later)
      | .error e => (.error e, store) := run_attempt _ store

theorem extends_appendText (path text : String) (store : FileStore) :
    ((FileSystem.appendText path text : StateM FileStore _).run store).2.Extends store := by
  rw [run_appendText]
  cases hlater : store.appendText path text with
  | ok later => exact extends_of_update hlater
  | error e => exact .refl store

theorem extends_readClock (store : FileStore) : store.readClock.2.Extends store where
  home := rfl
  keeps h := (Extends.refl store).keeps h

/-! ### Directories with those they lie in -/

theorem run_bind (action : StateM FileStore α) (next : α → StateM FileStore β)
    (store : FileStore) :
    (action >>= next).run store = (next (action.run store).1).run (action.run store).2 := rfl

theorem run_makeOrKeep (path : String) (failed : FileError) (store : FileStore) :
    (FileSystem.makeOrKeep path failed : StateM FileStore _).run store =
      (if store.isDirectory path then .ok () else .error failed, store) := by
  have hrun : (FileSystem.makeOrKeep path failed : StateM FileStore _).run store =
      (if store.isDirectory path then return .ok () else return .error failed :
        StateM FileStore (Except FileError Unit)).run store := rfl
  rw [hrun]
  split <;> rfl

theorem run_makeDirectory (path : String) (store : FileStore) :
    (FileSystem.makeDirectory path : StateM FileStore _).run store =
      match store.makeDirectory path with
      | .ok later => (.ok (), later)
      | .error e => (.error e, store) := run_attempt _ store

/-- Making the directory of a path added directories only, and it is there if that succeeded. -/
structure Made (store : FileStore) (path : String) (result : Except FileError Unit)
    (made : FileStore) : Prop where
  grows : made.AddsDirectories store
  present : result = .ok () → path.isEmpty ∨ made.isDirectory path

theorem Made.failed {e : FileError} : Made store path (.error e) store where
  grows := .refl store
  present h := nomatch h

theorem Made.after {middle : FileStore} {result : Except FileError Unit}
    (h : Made middle path result made) (hmiddle : middle.AddsDirectories store) :
    Made store path result made where
  grows := h.grows.trans hmiddle
  present := h.present

theorem made_makeOrKeep (store : FileStore) (path : String) (failed : FileError) :
    Made store path (if store.isDirectory path then .ok () else .error failed) store where
  grows := .refl store
  present h := by
    split at h
    · next hpath => exact .inr hpath
    · exact nomatch h

theorem made_makeDirectory {later : FileStore} (h : store.makeDirectory path = .ok later) :
    Made store path (.ok ()) later where
  grows := (makeDirectory_ok h).1
  present _ := .inr (makeDirectory_ok h).2

theorem made_makeDirectory_orKeep {result : Except FileError Unit}
    (h : (do
      match ← FileSystem.makeDirectory path with
      | .ok () => return .ok ()
      | .error e => FileSystem.makeOrKeep path e : StateM FileStore _).run store = (result, made)) :
    Made store path result made := by
  rw [run_bind, run_makeDirectory] at h
  cases hmake : store.makeDirectory path with
  | ok later =>
      simp only [hmake] at h
      cases h
      exact made_makeDirectory hmake
  | error e =>
      have hkept := made_makeOrKeep store path e
      simp only [hmake, run_makeOrKeep] at h
      cases h
      exact hkept

theorem made_makeDirectories {depth : Nat} {result : Except FileError Unit}
    (h : (FileSystem.makeDirectories depth path : StateM FileStore _).run store = (result, made)) :
    Made store path result made := by
  induction depth generalizing path store made result with
  | zero =>
      cases h
      exact .failed
  | succ depth ih =>
      rw [FileSystem.makeDirectories] at h
      split at h
      · next hempty =>
          cases h
          exact ⟨.refl store, fun _ => .inl hempty⟩
      · rw [run_bind, run_makeDirectory] at h
        cases hmake : store.makeDirectory path with
        | ok later =>
            simp only [hmake] at h
            cases h
            exact made_makeDirectory hmake
        | error e =>
            simp only [hmake] at h
            split at h
            · next heq => exact nomatch heq
            · split at h
              · cases h
                exact .failed
              -- The directory above is made first, and then this one is tried again.
              · next parent hparent =>
                  rw [run_bind] at h
                  obtain ⟨parentResult, middle, hrun⟩ : ∃ parentResult middle,
                      (FileSystem.makeDirectories depth parent : StateM FileStore _).run store =
                        (parentResult, middle) := ⟨_, _, rfl⟩
                  have hmiddle : middle.AddsDirectories store := (ih hrun).grows
                  simp only [hrun] at h
                  cases parentResult with
                  | error e =>
                      cases h
                      exact Made.failed.after hmiddle
                  | ok u => exact (made_makeDirectory_orKeep h).after hmiddle
            · next e _ heq =>
                obtain rfl := Except.error.inj heq
                rw [run_makeOrKeep] at h
                cases h
                exact made_makeOrKeep store path _

/-- A directory that is there is made again without any change. -/
theorem run_makeAllDirectories_of_present (h : path.isEmpty ∨ store.isDirectory path) :
    (FileSystem.makeAllDirectories path : StateM FileStore _).run store = (.ok (), store) := by
  rw [FileSystem.makeAllDirectories, FileSystem.makeDirectories]
  split
  · rfl
  · next hempty =>
      have hpath : store.isDirectory path := h.resolve_left hempty
      rw [run_bind, run_makeDirectory]
      simp only [makeDirectory_of_isDirectory hpath, run_makeOrKeep, hpath, if_true]

end FileStore

namespace Attempt

/-- The result of an action on a store, and the store that it leaves. -/
def runOn (action : Attempt (StateM FileStore) α) (store : FileStore) :
    Except CompileError α × FileStore :=
  action.run.run store

variable {store final : FileStore}

theorem runOn_pure (a : α) (store : FileStore) : runOn (pure a) store = (.ok a, store) := rfl

theorem runOn_bind (action : Attempt (StateM FileStore) α)
    (next : α → Attempt (StateM FileStore) β) (store : FileStore) :
    runOn (action >>= next) store =
      match runOn action store with
      | (.ok a, middle) => runOn (next a) middle
      | (.error e, middle) => (.error e, middle) := by
  rw [runOn, ExceptT.run_bind, StateT.run_bind]
  unfold runOn
  rcases action.run.run store with ⟨e | a, middle⟩
  · rfl
  · rfl

theorem runOn_bind_ok {action : Attempt (StateM FileStore) α}
    {next : α → Attempt (StateM FileStore) β} {b : β} :
    runOn (action >>= next) store = (.ok b, final) ↔
      ∃ a middle, runOn action store = (.ok a, middle) ∧
        runOn (next a) middle = (.ok b, final) := by
  rw [runOn_bind]
  rcases runOn action store with ⟨e | a, middle⟩
  · simp
  · simp

theorem runOn_ofExcept_ok {result : Except CompileError α} {a : α} :
    runOn (ofExcept result) store = (.ok a, final) ↔ result = .ok a ∧ store = final :=
  Prod.mk.injEq .. |>.to_iff

theorem runOn_readText_ok {path text : String} :
    runOn (readText path) store = (.ok text, final) ↔
      store.readText path = .ok text ∧ store = final := by
  have hrun : runOn (readText path) store =
      ((store.readText path).mapError (.file path), store) := rfl
  rw [hrun, Prod.mk.injEq, mapError_eq_ok]

theorem runOn_lift_ok {action : StateM FileStore Unit} {u : Unit} :
    runOn (liftM action) store = (.ok u, final) ↔ (action.run store).2 = final := by
  have hrun : runOn (liftM action) store = (.ok (action.run store).1, (action.run store).2) := rfl
  rw [hrun, Prod.mk.injEq]
  simp

theorem runOn_ofFile_attempt (path : String) (operation : FileStore → Except FileError FileStore)
    (store : FileStore) :
    runOn (ofFile path (FileStore.attempt operation)) store =
      match operation store with
      | .ok later => (.ok (), later)
      | .error e => (.error (.file path e), store) := by
  have hrun : runOn (ofFile path (FileStore.attempt operation)) store =
      (((FileStore.attempt operation).run store).1.mapError (.file path),
        ((FileStore.attempt operation).run store).2) := rfl
  rw [hrun, FileStore.run_attempt]
  cases operation store <;> rfl

theorem runOn_writeArtifact (directory : String) (artifact : Artifact) (store : FileStore) :
    runOn (writeArtifact directory artifact) store =
      match store.writeText (Path.join directory artifact.name) artifact.text with
      | .ok later => (.ok (), later)
      | .error e => (.error (.file (Path.join directory artifact.name) e), store) :=
  runOn_ofFile_attempt (Path.join directory artifact.name)
    (·.writeText (Path.join directory artifact.name) artifact.text) store

theorem runOn_writeArtifact_ok {directory : String} {artifact : Artifact} {u : Unit} :
    runOn (writeArtifact directory artifact) store = (.ok u, final) ↔
      store.writeText (Path.join directory artifact.name) artifact.text = .ok final := by
  rw [runOn_writeArtifact]
  cases store.writeText (Path.join directory artifact.name) artifact.text with
  | ok later => simp
  | error e => simp

theorem runOn_writeArtifacts_ok {directory : String} {items : List Artifact} {u : Unit} :
    runOn (items.forM (writeArtifact directory)) store = (.ok u, final) ↔
      Writes store (items.map fun artifact => (Path.join directory artifact.name, artifact.text))
        final := by
  induction items generalizing store with
  | nil =>
      rw [List.forM, List.map_nil, runOn_pure]
      constructor
      · rintro ⟨⟩
        exact .nil _
      · rintro ⟨⟩
        rfl
  | cons artifact items ih =>
      rw [List.forM, List.map_cons, runOn_bind_ok]
      constructor
      · rintro ⟨_, middle, hfirst, hrest⟩
        exact .cons (runOn_writeArtifact_ok.mp hfirst) (ih.mp hrest)
      · rintro (_ | ⟨hfirst, hrest⟩)
        exact ⟨(), _, runOn_writeArtifact_ok.mpr hfirst, ih.mpr hrest⟩

theorem runOn_makeDirectory_ok {path : String} {u : Unit} :
    runOn (makeDirectory path) store = (.ok u, final) ↔
      (FileSystem.makeAllDirectories path : StateM FileStore _).run store = (.ok (), final) := by
  have hrun : runOn (makeDirectory path) store =
      (((FileSystem.makeAllDirectories path : StateM FileStore _).run store).1.mapError
        (.file path), ((FileSystem.makeAllDirectories path : StateM FileStore _).run store).2) :=
    rfl
  rw [hrun, Prod.mk.injEq, mapError_eq_ok]
  constructor
  · rintro ⟨hresult, hfinal⟩
    exact Prod.ext hresult hfinal
  · intro h
    rw [h]
    exact ⟨rfl, rfl⟩

end Attempt

/-! ### Whole compilations -/

/-- The script that the service gives, if it gives one. -/
def rewrittenArtifacts : Rewrite.Outcome → List Artifact
  | .ok (some script) => [⟨rewrittenScriptFile, script⟩]
  | _ => []

namespace CompileOptions

def path (options : CompileOptions) (name : String) : String :=
  Path.join options.outDirectory name

def outcome (options : CompileOptions) (flow : Flow) : Rewrite.Outcome :=
  options.rewriter flow (flow.script options.replay)

/-- The options with a service that gives this outcome. -/
def answered (options : CompileOptions) (outcome : Rewrite.Outcome) : CompileOptions :=
  { options with rewriter := fun _ _ => outcome }

/-- What is written, in this order. -/
def writes (options : CompileOptions) (events : List Event) (flow : Flow) :
    List (String × String) :=
  (artifacts options.replay events flow ++ rewrittenArtifacts (options.outcome flow)).map
    fun artifact => (options.path artifact.name, artifact.text)

/-- What is reported. -/
def compiled (options : CompileOptions) (events : List Event) (flow : Flow) : Compiled where
  events := events
  flow := flow
  digest := flow.digest
  outDirectory := options.outDirectory
  rewritten := options.outcome flow matches .ok (some _)
  rewriteFailure := match options.outcome flow with | .error e => some e | .ok _ => none

/-- The store once the trace is written. -/
def traced (options : CompileOptions) (events : List Event) (store : FileStore) : FileStore :=
  let records := BrowserFlow.trace options.segment events
  ((writeTrace options.trace records : StateM FileStore Unit).run store).2

variable {options : CompileOptions} {store final : FileStore}

theorem extends_traced (options : CompileOptions) (events : List Event) (store : FileStore) :
    (options.traced events store).Extends store := by
  unfold traced writeTrace
  cases options.trace with
  | none => exact .refl store
  | some path =>
      generalize BrowserFlow.trace options.segment events = records
      induction records generalizing store with
      | nil => exact .refl store
      | cons record records ih =>
          simp only [List.forM, FileStore.run_bind]
          have happended := FileStore.extends_appendText path
            (record.line store.readClock.1) store.readClock.2
          exact (ih _).trans (happended.trans (FileStore.extends_readClock store))

theorem runOn_writeRewritten_ok {directory : String} {outcome : Rewrite.Outcome} {u : Unit} :
    Attempt.runOn (writeRewritten directory outcome) store = (.ok u, final) ↔
      Writes store ((rewrittenArtifacts outcome).map
        fun artifact => (Path.join directory artifact.name, artifact.text)) final := by
  rw [← Attempt.runOn_writeArtifacts_ok (u := u)]
  rcases outcome with e | _ | script
  · rfl
  · rfl
  · rw [rewrittenArtifacts, List.forM, Attempt.runOn_bind_ok]
    constructor
    · intro h
      exact ⟨u, final, h, rfl⟩
    · rintro ⟨_, _, h, ⟨⟩⟩
      exact h

/-- A compilation that succeeds, step by step. -/
theorem runOn_compile_ok {path : String} {compiled : Compiled} :
    Attempt.runOn (compile options path) store = (.ok compiled, final) ↔
      ∃ text events flow made, store.readText path = .ok text ∧
        readEvents path text = .ok events ∧ Flow.build options.segment events = .ok flow ∧
        (FileSystem.makeAllDirectories options.outDirectory : StateM FileStore _).run
          (options.traced events store) = (.ok (), made) ∧
        Writes made (options.writes events flow) final ∧
        compiled = options.compiled events flow := by
  have hwrites : ∀ events flow, options.writes events flow =
      ((artifacts options.replay events flow).map
        fun artifact => (Path.join options.outDirectory artifact.name, artifact.text)) ++
        (rewrittenArtifacts (options.outcome flow)).map
          fun artifact => (Path.join options.outDirectory artifact.name, artifact.text) :=
    fun _ _ => List.map_append
  unfold compile loadEvents
  simp only [Attempt.runOn_bind_ok, Attempt.runOn_readText_ok, Attempt.runOn_ofExcept_ok,
    Attempt.runOn_lift_ok, Attempt.runOn_makeDirectory_ok, Attempt.runOn_writeArtifacts_ok,
    runOn_writeRewritten_ok, Attempt.runOn_pure, hwrites]
  constructor
  · rintro ⟨events, _, ⟨text, _, ⟨htext, rfl⟩, hevents, rfl⟩, flow, _, ⟨hflow, rfl⟩, _, _, rfl, _,
      made, hmade, _, middle, hartifacts, _, _, hrewritten, ⟨⟩⟩
    exact ⟨text, events, flow, made, htext, hevents, hflow, hmade, hartifacts.append hrewritten,
      rfl⟩
  · rintro ⟨text, events, flow, made, htext, hevents, hflow, hmade, hwritten, rfl⟩
    obtain ⟨middle, hartifacts, hrewritten⟩ := hwritten.exists_of_append
    exact ⟨events, store, ⟨text, store, ⟨htext, rfl⟩, hevents, rfl⟩, flow, store, ⟨hflow, rfl⟩, (),
      _, rfl, (), made, hmade, (), middle, hartifacts, (), final, hrewritten, rfl⟩

end CompileOptions

end BrowserFlow
