import BrowserFlow.Proofs.Compile.Run

/-!
# The stages of a compilation

A compilation accepts or rejects the events, writes everything that does not depend on the service,
asks the service, and writes the script that it gives. The service is an action of any kind here, so
that a service which keeps a record of its own, or touches files, can be told from one that is never
asked.
-/

namespace BrowserFlow

/-- Files next to a memory of another kind. -/
instance {m : Type → Type} {Memory : Type} [Monad m] [FileSystem m] :
    FileSystem (StateT Memory m) where
  readText path := StateT.lift (FileSystem.readText path)
  writeText path text := StateT.lift (FileSystem.writeText path text)
  makeDirectory path := StateT.lift (FileSystem.makeDirectory path)
  isDirectory path := StateT.lift (FileSystem.isDirectory path)
  openForAppend path := StateT.lift (FileSystem.openForAppend path)
  appendText path text := StateT.lift (FileSystem.appendText path text)
  clock := StateT.lift FileSystem.clock

/-- What the file of events decides, given how it was read. -/
def accept (config : SegmentConfig) (path : String) (found : Except FileError String) :
    Except CompileError (List Event × Flow) :=
  ((found.mapError (CompileError.file path)).bind (readEvents path)).bind fun events =>
    (Flow.build config events).map (Prod.mk events)

theorem accept_of_rejected {config : SegmentConfig} {path text : String} {e : CompileError}
    (h : readEvents path text = .error e) : accept config path (.ok text) = .error e := by
  have hread : accept config path (.ok text) = (readEvents path text).bind fun events =>
      (Flow.build config events).map (Prod.mk events) := rfl
  rw [hread, h]
  rfl

theorem accept_of_read {config : SegmentConfig} {path text : String} {events : List Event}
    (h : readEvents path text = .ok events) :
    accept config path (.ok text) = (Flow.build config events).map (Prod.mk events) := by
  have hread : accept config path (.ok text) = (readEvents path text).bind fun events =>
      (Flow.build config events).map (Prod.mk events) := rfl
  rw [hread, h]
  rfl

section

variable {m : Type → Type} [Monad m] [FileSystem m]

def loadAccepted (config : SegmentConfig) (path : String) : Attempt m (List Event × Flow) := do
  let events ← loadEvents path
  let flow ← Attempt.ofExcept (Flow.build config events)
  return (events, flow)

namespace CompileOptions

/-- Writes what a compilation of accepted events writes in any case. -/
def writeBaseline (options : CompileOptions) (events : List Event) (flow : Flow) :
    Attempt m Unit := do
  let records := BrowserFlow.trace options.segment events
  liftM (n := Attempt m) (writeTrace options.trace records : m Unit)
  Attempt.makeDirectory options.outDirectory
  (artifacts options.replay events flow).forM (Attempt.writeArtifact options.outDirectory)

/-- All that comes before the service is asked. -/
def baseline (options : CompileOptions) (path : String) : Attempt m (List Event × Flow) := do
  let (events, flow) ← loadAccepted options.segment path
  options.writeBaseline events flow
  return (events, flow)

/-- All that comes after the service was asked. -/
def conclude (options : CompileOptions) (events : List Event) (flow : Flow)
    (outcome : Rewrite.Outcome) : Attempt m Compiled := do
  writeRewritten options.outDirectory outcome
  return (options.answered outcome).compiled events flow

end CompileOptions

/-- A compilation whose service is asked by an action. -/
def compileAsking (ask : Flow → String → m Rewrite.Outcome) (options : CompileOptions)
    (path : String) : Attempt m Compiled := do
  let (events, flow) ← options.baseline path
  let outcome ← liftM (n := Attempt m) (ask flow (flow.script options.replay))
  options.conclude events flow outcome

variable [LawfulMonad m]

/-- A service that answers at once is a service that is asked for nothing else. -/
theorem compile_eq_compileAsking (options : CompileOptions) (path : String) :
    (compile options path : Attempt m Compiled) =
      compileAsking (fun flow script => pure (options.rewriter flow script)) options path := by
  simp only [compile, compileAsking, CompileOptions.baseline, CompileOptions.writeBaseline,
    CompileOptions.conclude, loadAccepted, bind_assoc, pure_bind, liftM_pure]
  rfl

/-- Loading only reads one file. -/
theorem run_loadAccepted (config : SegmentConfig) (path : String) :
    (loadAccepted config path : Attempt m _).run = (do
      return accept config path (← FileSystem.readText path)) := by
  have hread : (Attempt.readText path : Attempt m String).run = (do
      return (← FileSystem.readText path).mapError (CompileError.file path)) := rfl
  simp only [loadAccepted, loadEvents, bind_assoc, ExceptT.run_bind, hread, pure_bind]
  congr 1
  funext found
  rcases found with e | text
  · rfl
  · simp only [Except.mapError, Attempt.ofExcept, ExceptT.run_mk, pure_bind]
    cases hevents : readEvents path text with
    | error e => rw [accept_of_rejected hevents]
    | ok events =>
        rw [accept_of_read hevents]
        dsimp only
        cases Flow.build config events <;> rfl

/-- Nothing but the file of events decides whether anything is done besides reading it. -/
theorem run_compileAsking (ask : Flow → String → m Rewrite.Outcome) (options : CompileOptions)
    (path : String) :
    (compileAsking ask options path).run = (do
      match accept options.segment path (← FileSystem.readText path) with
      | .error e => return .error e
      | .ok (events, flow) =>
        (do
          options.writeBaseline events flow
          let outcome ← liftM (n := Attempt m) (ask flow (flow.script options.replay))
          options.conclude events flow outcome : Attempt m Compiled).run) := by
  simp only [compileAsking, CompileOptions.baseline, bind_assoc, pure_bind]
  rw [ExceptT.run_bind, run_loadAccepted, bind_assoc]
  congr 1
  funext found
  rw [pure_bind]
  rcases accept options.segment path found with e | ⟨events, flow⟩
  · rfl
  · rfl

end

namespace Attempt

theorem runOn_loadAccepted (config : SegmentConfig) (path : String) (store : FileStore) :
    runOn (loadAccepted config path) store = (accept config path (store.readText path), store) := by
  rw [runOn, run_loadAccepted]
  rfl

theorem runOn_baseline (options : CompileOptions) (path : String) (store : FileStore) :
    runOn (options.baseline path) store =
      match accept options.segment path (store.readText path) with
      | .error e => (.error e, store)
      | .ok (events, flow) =>
        match runOn (options.writeBaseline events flow) store with
        | (.ok _, middle) => (.ok (events, flow), middle)
        | (.error e, middle) => (.error e, middle) := by
  rw [CompileOptions.baseline, runOn_bind, runOn_loadAccepted]
  rcases accept options.segment path (store.readText path) with e | ⟨events, flow⟩
  · rfl
  · simp only [runOn_bind, runOn_pure]
    rcases runOn (options.writeBaseline events flow) store with ⟨e | u, middle⟩
    · rfl
    · rfl

/-- A compilation is its baseline, and then the one answer of the service. -/
theorem runOn_compile (options : CompileOptions) (path : String) (store : FileStore) :
    runOn (compile options path) store =
      match runOn (options.baseline path) store with
      | (.error e, middle) => (.error e, middle)
      | (.ok (events, flow), middle) =>
        runOn (options.conclude events flow (options.outcome flow)) middle := by
  rw [compile_eq_compileAsking, compileAsking, runOn_bind]
  rcases runOn (options.baseline path) store with ⟨e | ⟨events, flow⟩, middle⟩
  · rfl
  · rfl

end Attempt

end BrowserFlow
