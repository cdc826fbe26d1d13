import BrowserFlow.Proofs.Compile.Recompile
import BrowserFlow.Proofs.Compile.Stages
import BrowserFlow.Proofs.Files.Agreement

/-!
# What the service can change

The service is asked once, after everything else was written, and only the script that it gives is
written after that. Two compilations with different services therefore agree in every file but that
script.
-/

namespace BrowserFlow

open FileStore (SameBut Writes)

namespace CompileOptions

variable {options : CompileOptions} {path : String} {store middle final : FileStore}
  {events : List Event} {flow : Flow} {compiled : Compiled}

/-! ### The last stage -/

/-- Only a script is written, and only to the file that is meant for it. -/
theorem runOn_conclude (options : CompileOptions) (events : List Event) (flow : Flow)
    (outcome : Rewrite.Outcome) (store : FileStore) :
    Attempt.runOn (options.conclude events flow outcome) store =
      match outcome with
      | .ok (some script) =>
        match store.writeText (options.path rewrittenScriptFile) script with
        | .ok later => (.ok ((options.answered outcome).compiled events flow), later)
        | .error e => (.error (.file (options.path rewrittenScriptFile) e), store)
      | _ => (.ok ((options.answered outcome).compiled events flow), store) := by
  rw [conclude, Attempt.runOn_bind]
  rcases outcome with e | _ | script
  · rfl
  · rfl
  · rw [writeRewritten, Attempt.runOn_writeArtifact]
    simp only [path]
    cases store.writeText (Path.join options.outDirectory rewrittenScriptFile) script <;> rfl

theorem sameBut_conclude (options : CompileOptions) (events : List Event) (flow : Flow)
    (outcome : Rewrite.Outcome) (store : FileStore) :
    SameBut (options.path rewrittenScriptFile) store
      (Attempt.runOn (options.conclude events flow outcome) store).2 := by
  rw [runOn_conclude]
  rcases outcome with e | _ | script
  · exact .refl _ store
  · exact .refl _ store
  · cases hwrite : store.writeText (options.path rewrittenScriptFile) script with
    | ok later =>
        simp only [hwrite]
        exact .of_update hwrite
    | error e =>
        simp only [hwrite]
        exact .refl _ store

/-- What a compilation adds to its baseline is at most the script. -/
theorem sameBut_compile (options : CompileOptions) (path : String) (store : FileStore) :
    SameBut (options.path rewrittenScriptFile)
      (Attempt.runOn (options.baseline path) store).2
      (Attempt.runOn (compile options path) store).2 := by
  rw [Attempt.runOn_compile]
  rcases Attempt.runOn (options.baseline path) store with ⟨e | ⟨events, flow⟩, middle⟩
  · exact .refl _ middle
  · exact options.sameBut_conclude events flow _ middle

theorem compiled_of_conclude {outcome : Rewrite.Outcome}
    (h : (Attempt.runOn (options.conclude events flow outcome) store).1 = .ok compiled) :
    compiled = (options.answered outcome).compiled events flow := by
  rw [runOn_conclude] at h
  split at h
  · split at h
    · exact (Except.ok.inj h).symm
    · exact nomatch h
  · exact (Except.ok.inj h).symm

/-- What is reported was computed before the service was asked. -/
theorem exists_baseline_of_compile
    (h : (Attempt.runOn (compile options path) store).1 = .ok compiled) :
    ∃ events flow middle,
      Attempt.runOn (options.baseline path) store = (.ok (events, flow), middle) ∧
        compiled = options.compiled events flow := by
  rw [Attempt.runOn_compile] at h
  rcases hbaseline : Attempt.runOn (options.baseline path) store with ⟨e | ⟨events, flow⟩, middle⟩
  · rw [hbaseline] at h
    exact nomatch h
  · rw [hbaseline] at h
    exact ⟨events, flow, middle, rfl, compiled_of_conclude h⟩

/-! ### Two services -/

/-- A compilation with another service. -/
def runWith (options : CompileOptions) (rewriter : Rewrite.Rewriter) (path : String)
    (store : FileStore) : Except CompileError Compiled × FileStore :=
  Attempt.runOn (compile { options with rewriter := rewriter } path) store

/-- Two services make no difference but for the script, however far the compilations come and
whatever the clock shows. -/
structure SameBaseline (options : CompileOptions) (path : String) (store : FileStore)
    (first second : Rewrite.Rewriter) : Prop where
  files : SameBut (options.path rewrittenScriptFile) (options.runWith first path store).2
    (options.runWith second path store).2
  texts : ∀ other,
    (options.runWith first path store).2.locate other ≠
      (options.runWith first path store).2.locate (options.path rewrittenScriptFile) →
    ∀ text, (options.runWith second path store).2.readText other = .ok text ↔
      (options.runWith first path store).2.readText other = .ok text
  reports : ∀ {compiled other}, (options.runWith first path store).1 = .ok compiled →
    (options.runWith second path store).1 = .ok other →
    other.events = compiled.events ∧ other.flow = compiled.flow ∧
      other.digest = compiled.digest ∧ other.outDirectory = compiled.outDirectory

theorem sameBaseline (options : CompileOptions) (path : String) (store : FileStore)
    (first second : Rewrite.Rewriter) : options.SameBaseline path store first second := by
  have hfiles : SameBut (options.path rewrittenScriptFile) (options.runWith first path store).2
      (options.runWith second path store).2 :=
    (sameBut_compile { options with rewriter := first } path store).symm.trans
      (sameBut_compile { options with rewriter := second } path store)
  refine ⟨hfiles, fun other hother text => hfiles.readText_eq_ok hother, ?_⟩
  intro compiled other hcompiled hother
  obtain ⟨events, flow, middle, hbaseline, rfl⟩ := exists_baseline_of_compile hcompiled
  obtain ⟨otherEvents, otherFlow, otherMiddle, hotherBaseline, rfl⟩ :=
    exists_baseline_of_compile hother
  -- The baseline does not mention the service, so both compilations have the same one.
  cases hbaseline.symm.trans hotherBaseline
  exact ⟨rfl, rfl, rfl, rfl⟩

/-! ### One service -/

theorem runOn_compile_of_declined
    (hbaseline : Attempt.runOn (options.baseline path) store = (.ok (events, flow), middle))
    (h : ∀ script, options.outcome flow ≠ .ok (some script)) :
    Attempt.runOn (compile options path) store = (.ok (options.compiled events flow), middle) := by
  rw [Attempt.runOn_compile, hbaseline]
  have hanswered : (options.answered (options.outcome flow)).compiled events flow =
      options.compiled events flow := rfl
  simp only [runOn_conclude, hanswered]

theorem runOn_compile_of_script {script : String}
    (hbaseline : Attempt.runOn (options.baseline path) store = (.ok (events, flow), middle))
    (h : options.outcome flow = .ok (some script))
    (hwrite : middle.writeText (options.path rewrittenScriptFile) script = .ok final) :
    Attempt.runOn (compile options path) store = (.ok (options.compiled events flow), final) := by
  rw [Attempt.runOn_compile, hbaseline]
  have hanswered : (options.answered (options.outcome flow)).compiled events flow =
      options.compiled events flow := rfl
  simp only [runOn_conclude, hanswered]
  simp only [h, hwrite]

/-- The file that is meant for the script of the service takes that script and nothing else. -/
structure ScriptWritten (options : CompileOptions) (compiled : Compiled)
    (store made final : FileStore) : Prop where
  writes : Writes made (options.writes compiled.events compiled.flow) final
  script : ∀ script,
    (∃ write ∈ options.writes compiled.events compiled.flow,
      final.locate write.1 = final.locate (options.path rewrittenScriptFile) ∧ write.2 = script) ↔
    options.outcome compiled.flow = .ok (some script)
  rewritten : compiled.rewritten ↔ ∃ script, options.outcome compiled.flow = .ok (some script)
  text : ∀ script, options.outcome compiled.flow = .ok (some script) →
    final.IsFile (options.path rewrittenScriptFile) →
    final.readText (options.path rewrittenScriptFile) = .ok script
  /-- Without a script no artifact is written to the file. -/
  kept : ¬compiled.rewritten → ∀ place,
    final.locate (options.path rewrittenScriptFile) = .ok (.entry place false) →
    final.node? place = made.node? place
  /-- It is then what it was before the compilation, unless it is the trace. -/
  untouched : ¬compiled.rewritten →
    (∀ path ∈ options.trace, final.locate path ≠
      final.locate (options.path rewrittenScriptFile)) → ∀ place,
    final.locate (options.path rewrittenScriptFile) = .ok (.entry place false) →
    ∀ node, node ≠ .directory →
      (final.node? place = some node ↔ store.node? place = some node)

/-- The data file is the only one that could stand in the place of the script. -/
theorem locate_ne_rewritten {made : FileStore}
    (h : Writes made (options.writes events flow) final)
    (hdata : final.locate (options.path options.replay.dataFile) ≠
      final.locate (options.path rewrittenScriptFile)) :
    ∀ artifact ∈ artifacts options.replay events flow,
      final.locate (options.path artifact.name) ≠
        final.locate (options.path rewrittenScriptFile) := by
  intro artifact hartifact
  obtain ⟨fixed, data, hartifacts, hnames, hname⟩ := exists_artifacts options.replay events flow
  have hmem : artifact ∈ fixed ++ [data] := hartifacts ▸ hartifact
  rcases List.mem_append.mp hmem with hfixed | hlast
  · have hthree : artifact.name ∈ [eventsFile, flowFile, scriptFile] :=
      hnames ▸ List.mem_map_of_mem hfixed
    refine locate_ne_of_fixed h hartifact (List.mem_append_left [rewrittenScriptFile] hthree)
      (by decide) ?_
    intro heq
    rw [heq] at hthree
    exact absurd hthree (by decide)
  · rw [List.mem_singleton.mp hlast, hname]
    exact hdata

theorem mem_rewrittenArtifacts {outcome : Rewrite.Outcome} {artifact : Artifact} :
    artifact ∈ rewrittenArtifacts outcome ↔
      ∃ script, outcome = .ok (some script) ∧ artifact = ⟨rewrittenScriptFile, script⟩ := by
  rcases outcome with e | _ | script
  · simp [rewrittenArtifacts]
  · simp [rewrittenArtifacts]
  · simp [rewrittenArtifacts]

theorem script_mem_writes (events : List Event) {script : String}
    (h : options.outcome flow = .ok (some script)) :
    (options.path rewrittenScriptFile, script) ∈ options.writes events flow := by
  have hartifact : ⟨rewrittenScriptFile, script⟩ ∈ rewrittenArtifacts (options.outcome flow) :=
    mem_rewrittenArtifacts.mpr ⟨script, h, rfl⟩
  exact List.mem_map.mpr ⟨_, List.mem_append_right _ hartifact, rfl⟩

theorem rewritten_iff :
    (options.compiled events flow).rewritten ↔
      ∃ script, options.outcome flow = .ok (some script) := by
  simp only [compiled]
  rcases options.outcome flow with e | _ | script
  · simp
  · simp
  · simp

/-- What is written to the file of the script, if the data file is not there. -/
theorem exists_write_iff {made : FileStore}
    (hwrites : Writes made (options.writes events flow) final)
    (hdata : final.locate (options.path options.replay.dataFile) ≠
      final.locate (options.path rewrittenScriptFile)) (script : String) :
    (∃ write ∈ options.writes events flow,
      final.locate write.1 = final.locate (options.path rewrittenScriptFile) ∧
        write.2 = script) ↔ options.outcome flow = .ok (some script) := by
  constructor
  · rintro ⟨write, hwrite, hlocate, rfl⟩
    obtain ⟨artifact, hartifact, rfl⟩ := List.mem_map.mp hwrite
    rcases List.mem_append.mp hartifact with hartifact | hartifact
    · exact absurd hlocate (locate_ne_rewritten hwrites hdata artifact hartifact)
    · obtain ⟨script, houtcome, rfl⟩ := mem_rewrittenArtifacts.mp hartifact
      exact houtcome
  · intro houtcome
    exact ⟨_, script_mem_writes events houtcome, rfl, rfl⟩

theorem readText_of_script {made : FileStore} {script : String}
    (hwrites : Writes made (options.writes events flow) final)
    (houtcome : options.outcome flow = .ok (some script))
    (hfile : final.IsFile (options.path rewrittenScriptFile)) :
    final.readText (options.path rewrittenScriptFile) = .ok script := by
  rw [writes, houtcome, List.map_append] at hwrites
  obtain ⟨middle, -, hlast⟩ := hwrites.exists_of_append
  exact hlast.readText (List.pairwise_singleton _ _) (options.path rewrittenScriptFile, script)
    List.mem_cons_self hfile

theorem node?_of_declined {made : FileStore}
    (hwrites : Writes made (options.writes events flow) final)
    (hdata : final.locate (options.path options.replay.dataFile) ≠
      final.locate (options.path rewrittenScriptFile))
    (h : ∀ script, options.outcome flow ≠ .ok (some script)) {place : List String}
    (hplace : final.locate (options.path rewrittenScriptFile) = .ok (.entry place false)) :
    final.node? place = made.node? place := by
  apply hwrites.node?_eq
  intro write hwrite hlocate
  exact h write.2 ((exists_write_iff hwrites hdata write.2).mp
    ⟨write, hwrite, hlocate.trans hplace.symm, rfl⟩)

theorem sameBut_appendText (path text : String) (store : FileStore) :
    SameBut path store ((FileSystem.appendText path text : StateM FileStore _).run store).2 := by
  rw [FileStore.run_appendText]
  cases hlater : store.appendText path text with
  | ok later => exact .of_update hlater
  | error e => exact .refl path store

theorem sameBut_readClock (path : String) (store : FileStore) :
    SameBut path store store.readClock.2 where
  home := rfl
  directories := Iff.rfl
  elsewhere _ := rfl

theorem sameBut_traced (htrace : options.trace = some path) (events : List Event)
    (store : FileStore) : SameBut path store (options.traced events store) := by
  unfold traced writeTrace
  rw [htrace]
  generalize BrowserFlow.trace options.segment events = records
  induction records generalizing store with
  | nil => exact .refl path store
  | cons record records ih =>
      simp only [List.forM, FileStore.run_bind]
      have happended := sameBut_appendText path (record.line store.readClock.1) store.readClock.2
      exact (sameBut_readClock path store).trans (happended.trans (ih _))

/-- Before the artifacts are written, only the trace and directories are. -/
theorem node?_of_made {made : FileStore}
    (hmade : (FileSystem.makeAllDirectories options.outDirectory : StateM FileStore _).run
      (options.traced events store) = (.ok (), made)) (hfinal : final.Extends made)
    {place : List String}
    (htrace : ∀ path ∈ options.trace, final.locate path ≠ .ok (.entry place false))
    {node : FileNode} (hnode : node ≠ .directory) :
    made.node? place = some node ↔ store.node? place = some node := by
  have hgrows := (FileStore.made_makeDirectories hmade).grows
  have hextends : final.Extends store :=
    (hfinal.trans hgrows.toExtends).trans (extends_traced options events store)
  have htraced : (options.traced events store).node? place = store.node? place := by
    cases hpath : options.trace with
    | none =>
        unfold traced writeTrace
        rw [hpath]
        rfl
    | some path =>
        apply (sameBut_traced hpath events store).elsewhere
        intro hlocate
        exact htrace path hpath (hextends.locate hlocate)
  rw [hgrows.files hnode, htraced]

theorem scriptWritten {made : FileStore}
    (hmade : (FileSystem.makeAllDirectories options.outDirectory : StateM FileStore _).run
      (options.traced events store) = (.ok (), made))
    (hwrites : Writes made (options.writes events flow) final)
    (hdata : final.locate (options.path options.replay.dataFile) ≠
      final.locate (options.path rewrittenScriptFile)) :
    options.ScriptWritten (options.compiled events flow) store made final := by
  have hkept : ¬(options.compiled events flow).rewritten → ∀ place,
      final.locate (options.path rewrittenScriptFile) = .ok (.entry place false) →
      final.node? place = made.node? place := by
    intro h place hplace
    refine node?_of_declined hwrites hdata (fun script hscript => ?_) hplace
    exact h (rewritten_iff.mpr ⟨script, hscript⟩)
  refine ⟨hwrites, exists_write_iff hwrites hdata, rewritten_iff, fun script houtcome =>
    readText_of_script hwrites houtcome, hkept, ?_⟩
  intro h htrace place hplace node hnode
  rw [hkept h place hplace]
  refine node?_of_made hmade hwrites.toExtends (fun path hpath hlocate => ?_) hnode
  exact htrace path hpath (hlocate.trans hplace.symm)

/-- Whatever the service answers, and however far a compilation comes, every file but the one for
its script is left the same, and the same is reported. The script is written exactly when the
service gives one, and a service that declines or fails stops nothing. -/
theorem service_cannot_change_baseline (options : CompileOptions) (path : String)
    (store : FileStore) :
    (∀ first second, options.SameBaseline path store first second) ∧
      (∀ e middle, Attempt.runOn (options.baseline path) store = (.error e, middle) →
        Attempt.runOn (compile options path) store = (.error e, middle)) ∧
      (∀ events flow middle,
        Attempt.runOn (options.baseline path) store = (.ok (events, flow), middle) →
        ((∀ script, options.outcome flow ≠ .ok (some script)) →
          Attempt.runOn (compile options path) store =
            (.ok (options.compiled events flow), middle)) ∧
        ∀ script final, options.outcome flow = .ok (some script) →
          middle.writeText (options.path rewrittenScriptFile) script = .ok final →
          Attempt.runOn (compile options path) store =
            (.ok (options.compiled events flow), final)) ∧
      ∀ compiled final, Attempt.runOn (compile options path) store = (.ok compiled, final) →
        final.locate (options.path options.replay.dataFile) ≠
          final.locate (options.path rewrittenScriptFile) →
        ∃ made, (FileSystem.makeAllDirectories options.outDirectory : StateM FileStore _).run
            (options.traced compiled.events store) = (.ok (), made) ∧
          options.ScriptWritten compiled store made final := by
  refine ⟨options.sameBaseline path store, ?_, ?_, ?_⟩
  · intro e middle hbaseline
    rw [Attempt.runOn_compile, hbaseline]
  · intro events flow middle hbaseline
    refine ⟨runOn_compile_of_declined hbaseline, ?_⟩
    intro script final houtcome hwrite
    exact runOn_compile_of_script hbaseline houtcome hwrite
  · intro compiled final h hdata
    obtain ⟨text, events, flow, made, -, -, -, hmade, hwrites, rfl⟩ := runOn_compile_ok.mp h
    exact ⟨made, hmade, scriptWritten hmade hwrites hdata⟩

theorem locate_ne_of_looseOptions {final : FileStore} {name : String}
    (hname : name ∈ artifactNames looseOptions.replay)
    (hfile : final.IsFile (looseOptions.path name)) :
    final.locate (looseOptions.path name) ≠
      final.locate (looseOptions.path rewrittenScriptFile) := by
  have hnames : ∀ name ∈ artifactNames looseOptions.replay,
      Path.IsName name ∧ name ≠ rewrittenScriptFile := by decide
  obtain ⟨place, _, hplace, -⟩ := hfile
  exact FileStore.locate_join_ne (hnames name hname).1 (by decide) (hnames name hname).2 hplace

/-- A service that declines leaves no script, and one that gives a script changes nothing else. -/
theorem script_of_looseStore :
    ∃ declined rewritten : FileStore,
      Attempt.runOn (compile looseOptions "in.json") looseStore =
        (.ok (looseOptions.compiled looseEvents looseFlow), declined) ∧
      Attempt.runOn (compile (looseOptions.answered (.ok (some "run();"))) "in.json") looseStore =
        (.ok ((looseOptions.answered (.ok (some "run();"))).compiled looseEvents looseFlow),
          rewritten) ∧
      declined.node? ["home", "out", "llm-run.ts"] = none ∧
      rewritten.readText "out/llm-run.ts" = .ok "run();" ∧
      ∀ name ∈ artifactNames looseOptions.replay, ∀ text,
        rewritten.readText (looseOptions.path name) = .ok text ↔
          declined.readText (looseOptions.path name) = .ok text := by
  obtain ⟨declined, hdeclined, hdeclinedFiles⟩ := exists_compile_looseStore
  obtain ⟨rewritten, hrewritten, hfiles⟩ := exists_compile_answered (.ok (some "run();"))
  have hdata : "data.json" ∈ artifactNames looseOptions.replay := by decide
  have hdataFile : rewritten.IsFile (looseOptions.path "data.json") := by
    obtain ⟨text, hwrite⟩ :=
      exists_mem_writes (looseOptions.answered (.ok (some "run();"))) looseEvents looseFlow hdata
    exact hfiles (looseOptions.path "data.json", text) hwrite
  have hscriptFile : rewritten.IsFile (looseOptions.path rewrittenScriptFile) :=
    hfiles (looseOptions.path rewrittenScriptFile, "run();") (script_mem_writes looseEvents rfl)
  obtain ⟨hsame, -, -, hkeeps⟩ := service_cannot_change_baseline looseOptions "in.json" looseStore
  obtain ⟨-, -, -, hwrites⟩ := service_cannot_change_baseline
    (looseOptions.answered (.ok (some "run();"))) "in.json" looseStore
  refine ⟨declined, rewritten, hdeclined, hrewritten, ?_, ?_, ?_⟩
  · obtain ⟨made, hmade, hkept⟩ := hkeeps _ _ hdeclined
      (locate_ne_of_looseOptions hdata (hdeclinedFiles _ hdata))
    cases hmade
    have hplace : looseMade.locate (looseOptions.path rewrittenScriptFile) =
        .ok (.entry ["home", "out", "llm-run.ts"] false) := rfl
    exact hkept.kept (by decide) _ (hkept.writes.toExtends.locate hplace)
  · obtain ⟨made, -, hwritten⟩ := hwrites _ _ hrewritten
      (locate_ne_of_looseOptions hdata hdataFile)
    exact hwritten.text "run();" rfl hscriptFile
  · intro name hname text
    have hfirst : (looseOptions.runWith looseOptions.rewriter "in.json" looseStore).2 = declined :=
      congrArg Prod.snd hdeclined
    have hsecond : (looseOptions.runWith (fun _ _ => .ok (some "run();")) "in.json" looseStore).2 =
        rewritten := congrArg Prod.snd hrewritten
    have htexts := (hsame looseOptions.rewriter fun _ _ => .ok (some "run();")).texts
      (looseOptions.path name)
    rw [hfirst, hsecond] at htexts
    exact htexts (locate_ne_of_looseOptions hname (hdeclinedFiles name hname)) text

end CompileOptions

end BrowserFlow
