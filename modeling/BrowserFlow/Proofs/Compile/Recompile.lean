import BrowserFlow.Proofs.Compile.Run
import BrowserFlow.Proofs.Evidence.Reload
import BrowserFlow.Proofs.Files.Place

/-!
# Compiling what was written

Events that were read are read back from the text in which a compilation stores them, so a
compilation of that text computes what the first one did. On a store that still has what the first
one left, nothing stands in its way: the directory is there, every artifact can be written again,
and the trace is written before them.
-/

namespace BrowserFlow

open FileStore (Writes)

theorem readEvents_eq_ok {origin text : String} {events : List Event} :
    readEvents origin text = .ok events ↔ Event.listOfText text = .ok events :=
  mapError_eq_ok

namespace CompileOptions

variable {options : CompileOptions} {store final : FileStore} {path again text other : String}
  {events : List Event} {flow : Flow} {compiled : Compiled}

/-! ### Compilations of the same events -/

theorem runOn_loadEvents (htext : store.readText path = .ok text)
    (hevents : Event.listOfText text = .ok events) :
    Attempt.runOn (loadEvents path) store = (.ok events, store) :=
  Attempt.runOn_bind_ok.mpr ⟨text, store, Attempt.runOn_readText_ok.mpr ⟨htext, rfl⟩,
    Attempt.runOn_ofExcept_ok.mpr ⟨readEvents_eq_ok.mpr hevents, rfl⟩⟩

/-- Only the events count, not the text that they are read from. -/
theorem runOn_compile_congr (htext : store.readText path = .ok text)
    (hother : store.readText again = .ok other) (hevents : Event.listOfText text = .ok events)
    (heventsAgain : Event.listOfText other = .ok events) :
    Attempt.runOn (compile options again) store = Attempt.runOn (compile options path) store := by
  rw [compile, compile, Attempt.runOn_bind, Attempt.runOn_bind, runOn_loadEvents htext hevents,
    runOn_loadEvents hother heventsAgain]

theorem parts_of_compile (h : Attempt.runOn (compile options path) store = (.ok compiled, final))
    (htext : store.readText path = .ok text) (hevents : Event.listOfText text = .ok events) :
    ∃ flow made, Flow.build options.segment events = .ok flow ∧
      (FileSystem.makeAllDirectories options.outDirectory : StateM FileStore _).run
        (options.traced events store) = (.ok (), made) ∧
      Writes made (options.writes events flow) final ∧
      compiled = options.compiled events flow := by
  obtain ⟨found, loaded, flow, made, hfound, hloaded, hparts⟩ := runOn_compile_ok.mp h
  cases htext.symm.trans hfound
  cases hevents.symm.trans (readEvents_eq_ok.mp hloaded)
  exact ⟨flow, made, hparts⟩

/-- A compilation that succeeded succeeds again on what it left, and writes the same. -/
theorem exists_recompile (h : Attempt.runOn (compile options path) store = (.ok compiled, final))
    (htext : store.readText path = .ok text) (hevents : Event.listOfText text = .ok events)
    {later : FileStore} (hlater : later.Extends final) (hother : later.readText again = .ok other)
    (heventsAgain : Event.listOfText other = .ok events) :
    ∃ latest, Attempt.runOn (compile options again) later = (.ok compiled, latest) ∧
      ∀ write ∈ options.writes events compiled.flow,
        latest.readText write.1 = final.readText write.1 := by
  obtain ⟨flow, made, hflow, hmade, hwrites, rfl⟩ := parts_of_compile h htext hevents
  -- The trace may grow, but it cannot take anything away from what was left.
  have htraced : (options.traced events later).Extends final :=
    (extends_traced options events later).trans hlater
  have hpresent : options.outDirectory.isEmpty ∨
      (options.traced events later).isDirectory options.outDirectory :=
    ((FileStore.made_makeDirectories hmade).present rfl).imp_right
      (htraced.trans hwrites.toExtends).isDirectory
  obtain ⟨latest, hlatest, -, hreads⟩ := hwrites.again htraced
  refine ⟨latest, runOn_compile_ok.mpr ⟨other, events, flow, _, hother,
    readEvents_eq_ok.mpr heventsAgain, hflow, ?_, hlatest, rfl⟩, hreads⟩
  exact FileStore.run_makeAllDirectories_of_present hpresent

/-! ### What a compilation leaves -/

/-- The names of the files that are not the data file. -/
def fixedNames : List String := [eventsFile, flowFile, scriptFile, rewrittenScriptFile]

theorem isName_of_fixed : ∀ name ∈ fixedNames, Path.IsName name := by decide

/-- The data file is in the place of no other file. -/
def DataApart (options : CompileOptions) (store : FileStore) : Prop :=
  ∀ name ∈ fixedNames,
    store.locate (options.path options.replay.dataFile) ≠ store.locate (options.path name)

/-- A plain name that is none of the others is enough. -/
theorem dataApart_of_isName (hname : Path.IsName options.replay.dataFile)
    (hnew : options.replay.dataFile ∉ fixedNames) {place : FileStore.Place}
    (hplace : store.locate (options.path options.replay.dataFile) = .ok place) :
    options.DataApart store := fun _ hfixed =>
  FileStore.locate_join_ne hname (isName_of_fixed _ hfixed) (fun heq => hnew (heq ▸ hfixed)) hplace

theorem name_of_rewritten {outcome : Rewrite.Outcome} {artifact : Artifact}
    (h : artifact ∈ rewrittenArtifacts outcome) : artifact.name = rewrittenScriptFile := by
  rcases outcome with e | _ | script
  · exact nomatch h
  · exact nomatch h
  · rw [List.mem_singleton.mp h]

theorem pairwise_rewritten (outcome : Rewrite.Outcome) (R : Artifact → Artifact → Prop) :
    (rewrittenArtifacts outcome).Pairwise R := by
  rcases outcome with e | _ | script
  · exact .nil
  · exact .nil
  · exact List.pairwise_singleton R _

/-- The artifacts apart from the data file, which comes last. -/
theorem exists_artifacts (config : ReplayConfig) (events : List Event) (flow : Flow) :
    ∃ fixed data, artifacts config events flow = fixed ++ [data] ∧
      fixed.map Artifact.name = [eventsFile, flowFile, scriptFile] ∧ data.name = config.dataFile :=
  ⟨[_, _, _], _, rfl, rfl, rfl⟩

/-- The names of the files that every compilation writes. -/
def artifactNames (config : ReplayConfig) : List String :=
  [eventsFile, flowFile, scriptFile, config.dataFile]

theorem exists_mem_writes (options : CompileOptions) (events : List Event) (flow : Flow)
    {name : String} (h : name ∈ artifactNames options.replay) :
    ∃ text, (options.path name, text) ∈ options.writes events flow := by
  have hnames : artifactNames options.replay =
      (artifacts options.replay events flow).map Artifact.name := rfl
  obtain ⟨artifact, hartifact, rfl⟩ := List.mem_map.mp (hnames ▸ h)
  exact ⟨artifact.text, List.mem_map.mpr ⟨artifact, List.mem_append_left _ hartifact, rfl⟩⟩

/-- Names tell the files that are not the data file apart. -/
theorem locate_ne_of_fixed {made : FileStore} (h : Writes made (options.writes events flow) final)
    {artifact : Artifact} (hartifact : artifact ∈ artifacts options.replay events flow)
    (hfixed : artifact.name ∈ fixedNames) {name : String} (hname : name ∈ fixedNames)
    (hne : artifact.name ≠ name) :
    final.locate (options.path artifact.name) ≠ final.locate (options.path name) := by
  obtain ⟨place, hplace⟩ :=
    h.exists_locate (List.mem_map_of_mem (List.mem_append_left _ hartifact))
  exact FileStore.locate_join_ne (isName_of_fixed _ hfixed) (isName_of_fixed name hname) hne hplace

theorem pairwise_writes {made : FileStore} (h : Writes made (options.writes events flow) final)
    (hapart : options.DataApart final) :
    (options.writes events flow).Pairwise fun write other =>
      final.locate write.1 ≠ final.locate other.1 := by
  obtain ⟨fixed, data, hartifacts, hnames, hdata⟩ := exists_artifacts options.replay events flow
  have hdistinct : (fixed.map Artifact.name ++ [rewrittenScriptFile]).Nodup := by
    rw [hnames]
    decide
  obtain ⟨hnodup, -, hnotRewritten⟩ := List.nodup_append.mp hdistinct
  have hmem : ∀ artifact ∈ fixed, artifact.name ∈ fixedNames := fun artifact hartifact =>
    List.mem_append_left [rewrittenScriptFile] (hnames ▸ List.mem_map_of_mem hartifact)
  have hfixed : ∀ artifact ∈ fixed, ∀ name ∈ fixedNames, artifact.name ≠ name →
      final.locate (options.path artifact.name) ≠ final.locate (options.path name) :=
    fun artifact hartifact name hname hne =>
      locate_ne_of_fixed h (hartifacts ▸ List.mem_append_left _ hartifact)
        (hmem artifact hartifact) hname hne
  rw [writes, hartifacts, List.append_assoc, List.pairwise_map, List.pairwise_append]
  -- Names tell the fixed files apart; the data file is apart from each of them by assumption.
  refine ⟨?_, ?_, ?_⟩
  · exact (List.pairwise_map.mp hnodup).imp_of_mem fun hartifact hother hne =>
      hfixed _ hartifact _ (hmem _ hother) hne
  · refine List.pairwise_cons.mpr ⟨fun other hother => ?_, pairwise_rewritten _ _⟩
    rw [hdata, name_of_rewritten hother]
    exact hapart _ (by decide)
  · intro artifact hartifact other hother
    rcases List.mem_cons.mp hother with rfl | hother
    · rw [hdata]
      exact (hapart _ (hmem artifact hartifact)).symm
    · rw [name_of_rewritten hother]
      exact hfixed artifact hartifact _ (by decide)
        (hnotRewritten _ (List.mem_map_of_mem hartifact) _ List.mem_cons_self)

/-- What is read back from the files after a compilation is what was written to them. -/
theorem readText_of_compile (h : Attempt.runOn (compile options path) store = (.ok compiled, final))
    (htext : store.readText path = .ok text) (hevents : Event.listOfText text = .ok events)
    (hapart : options.DataApart final) :
    ∀ write ∈ options.writes events compiled.flow, final.IsFile write.1 →
      final.readText write.1 = .ok write.2 := by
  obtain ⟨flow, made, -, -, hwrites, rfl⟩ := parts_of_compile h htext hevents
  exact hwrites.readText (pairwise_writes hwrites hapart)

theorem stored_mem_writes (options : CompileOptions) (events : List Event) (flow : Flow) :
    (options.path eventsFile, Event.listText events) ∈ options.writes events flow := by
  have hstored : ⟨eventsFile, Event.listText events⟩ ∈ artifacts options.replay events flow :=
    List.mem_cons_self
  exact List.mem_map.mpr ⟨_, List.mem_append_left _ hstored, rfl⟩

/-- A second text, in place of the one that was compiled first, makes no difference. -/
structure SameCompiled (options : CompileOptions) (events : List Event)
    (path text again other : String) : Prop where
  /-- On one store the two compilations are the same, also when they fail. -/
  same : ∀ store : FileStore, store.readText path = .ok text → store.readText again = .ok other →
    Attempt.runOn (compile options again) store = Attempt.runOn (compile options path) store
  /-- On two stores, of whatever contents, they leave the same texts if both succeed. -/
  alike : ∀ {store final storeAgain finalAgain : FileStore} {compiled compiledAgain : Compiled},
    store.readText path = .ok text → storeAgain.readText again = .ok other →
    Attempt.runOn (compile options path) store = (.ok compiled, final) →
    Attempt.runOn (compile options again) storeAgain = (.ok compiledAgain, finalAgain) →
    compiledAgain = compiled ∧
      (options.DataApart final → options.DataApart finalAgain →
        ∀ write ∈ options.writes events compiled.flow, final.IsFile write.1 →
          finalAgain.IsFile write.1 → final.readText write.1 = .ok write.2 ∧
            finalAgain.readText write.1 = final.readText write.1)
  /-- After the first one, and whatever was added or edited since, the second succeeds and writes
  every file as it was. -/
  next : ∀ {store final later : FileStore} {compiled : Compiled},
    store.readText path = .ok text →
    Attempt.runOn (compile options path) store = (.ok compiled, final) →
    later.Extends final → later.readText again = .ok other →
    ∃ latest, Attempt.runOn (compile options again) later = (.ok compiled, latest) ∧
      ∀ write ∈ options.writes events compiled.flow,
        latest.readText write.1 = final.readText write.1

theorem sameCompiled (options : CompileOptions) (path again : String)
    (hevents : Event.listOfText text = .ok events)
    (heventsAgain : Event.listOfText other = .ok events) :
    options.SameCompiled events path text again other where
  same _ htext hother := runOn_compile_congr htext hother hevents heventsAgain
  alike {store final storeAgain finalAgain compiled compiledAgain} htext hother h hagain := by
    have hcompiled : compiledAgain = compiled := by
      obtain ⟨flow, -, hflow, -, -, rfl⟩ := parts_of_compile h htext hevents
      obtain ⟨flowAgain, -, hflowAgain, -, -, rfl⟩ := parts_of_compile hagain hother heventsAgain
      cases hflow.symm.trans hflowAgain
      rfl
    subst hcompiled
    refine ⟨rfl, fun hapart hapartAgain write hwrite hfile hfileAgain => ?_⟩
    have hread : final.readText write.1 = .ok write.2 :=
      readText_of_compile h htext hevents hapart write hwrite hfile
    have hreadAgain : finalAgain.readText write.1 = .ok write.2 :=
      readText_of_compile hagain hother heventsAgain hapartAgain write hwrite hfileAgain
    exact ⟨hread, hreadAgain.trans hread.symm⟩
  next htext h hlater hother := exists_recompile h htext hevents hlater hother heventsAgain

/-- Events without bounds, from whatever text they were read, are read back from the text in which
they are stored. Compiling that text is compiling the first one, and compiling the stored events in
their place changes nothing. -/
theorem recompile_stored_events {origin text : String} {events : List Event}
    (hread : readEvents origin text = .ok events) (hunbounded : ∀ e ∈ events, e.Unbounded) :
    (∀ other, readEvents other (Event.listText events) = .ok events) ∧
      ∀ (options : CompileOptions) (path : String),
        (∀ again, options.SameCompiled events path text again (Event.listText events)) ∧
        ∀ {store final : FileStore} {compiled : Compiled}, store.readText path = .ok text →
          Attempt.runOn (compile options path) store = (.ok compiled, final) →
          options.DataApart final → final.IsFile (options.path eventsFile) →
          ∃ latest,
            Attempt.runOn (compile options (options.path eventsFile)) final =
              (.ok compiled, latest) ∧
            ∀ write ∈ options.writes events compiled.flow,
              latest.readText write.1 = final.readText write.1 := by
  have hevents : Event.listOfText text = .ok events := readEvents_eq_ok.mp hread
  have hstored : Event.listOfText (Event.listText events) = .ok events :=
    Event.listOfText_listText_of_read hevents hunbounded
  refine ⟨fun other => readEvents_eq_ok.mpr hstored, fun options path =>
    ⟨fun again => sameCompiled options path again hevents hstored, ?_⟩⟩
  intro store final compiled htext h hapart hfile
  have hinPlace : final.readText (options.path eventsFile) = .ok (Event.listText events) :=
    readText_of_compile h htext hevents hapart (options.path eventsFile, Event.listText events)
      (stored_mem_writes options events compiled.flow) hfile
  exact exists_recompile h htext hevents (.refl final) hinPlace hstored

/-- Two events: one as an array of its fields without the last, the other with fields in another
order, one field that is not known and many that are missing. -/
def looseValue : Json.Value :=
  .array
    [.array [.string "click", .nat 2, .null, .array [], .null],
      .object [("note", .array []), ("timestamp", .nat 3), ("eventType", .string "submit"),
        ("context", .array [.array [], .array [.string "Name"]])]]

def looseEvents : List Event :=
  [{ (default : Event) with type := .click, timestamp := 2 },
    { (default : Event) with
      type := .submit
      timestamp := 3
      context := ⟨[], ["Name"]⟩ }]

theorem readEvents_looseValue :
    readEvents "in.json" looseValue.pretty = .ok looseEvents := by
  have hexact : looseValue.IsExact := by
    simp [looseValue, Json.Value.IsExact, Json.exactItems_iff, Json.exactFields_iff,
      Json.Value.nat, Json.Number.IsExact]
  have hsettle : (Json.Document.read looseValue.pretty.toList).settle = .ok looseValue :=
    Json.Document.settle_read_pretty hexact rfl
  rw [readEvents, Event.listOfText, hsettle]
  rfl

def looseOptions : CompileOptions where
  outDirectory := "out"
  segment := .standard
  replay := .standard
  rewriter _ _ := .ok none
  trace := none

def looseStore : FileStore :=
  FileStore.empty.put ["home", "in.json"] (.file looseValue.pretty)

/-- The store in which the output directory was made. -/
def looseMade : FileStore := looseStore.put ["home", "out"] .directory

theorem readText_looseStore : looseStore.readText "in.json" = .ok looseValue.pretty := rfl

theorem run_makeAllDirectories_looseStore :
    (FileSystem.makeAllDirectories "out" : StateM FileStore _).run looseStore =
      (.ok (), looseMade) := rfl

theorem takesFile_looseMade {name : String}
    (h : name ∈ artifactNames looseOptions.replay ++ [rewrittenScriptFile]) :
    looseMade.TakesFile (looseOptions.path name) := by
  simp only [artifactNames, List.cons_append, List.nil_append, List.mem_cons, List.not_mem_nil,
    or_false] at h
  rcases h with rfl | rfl | rfl | rfl | rfl
  · exact ⟨["home", "out", "events.json"], rfl, fun _ h => nomatch h⟩
  · exact ⟨["home", "out", "flow.json"], rfl, fun _ h => nomatch h⟩
  · exact ⟨["home", "out", "run.ts"], rfl, fun _ h => nomatch h⟩
  · exact ⟨["home", "out", "data.json"], rfl, fun _ h => nomatch h⟩
  · exact ⟨["home", "out", "llm-run.ts"], rfl, fun _ h => nomatch h⟩

def looseFlow : Flow := ⟨Flow.defaultName, BrowserFlow.segment .standard looseEvents⟩

theorem exists_compile_answered (outcome : Rewrite.Outcome) :
    ∃ final, Attempt.runOn (compile (looseOptions.answered outcome) "in.json") looseStore =
        (.ok ((looseOptions.answered outcome).compiled looseEvents looseFlow), final) ∧
      ∀ write ∈ (looseOptions.answered outcome).writes looseEvents looseFlow,
        final.IsFile write.1 := by
  have hbuild : Flow.build looseOptions.segment looseEvents = .ok looseFlow := rfl
  have htakes : ∀ write ∈ (looseOptions.answered outcome).writes looseEvents looseFlow,
      looseMade.TakesFile write.1 := by
    intro write hwrite
    obtain ⟨artifact, hartifact, rfl⟩ := List.mem_map.mp hwrite
    refine takesFile_looseMade ?_
    rcases List.mem_append.mp hartifact with hartifact | hartifact
    · exact List.mem_append_left _ (List.mem_map_of_mem hartifact)
    · rw [name_of_rewritten hartifact]
      exact List.mem_append_right _ List.mem_cons_self
  obtain ⟨final, hwrites, hfiles⟩ := FileStore.exists_writes htakes
  exact ⟨final, runOn_compile_ok.mpr ⟨looseValue.pretty, looseEvents, looseFlow, looseMade,
    readText_looseStore, readEvents_looseValue, hbuild, run_makeAllDirectories_looseStore, hwrites,
    rfl⟩, hfiles⟩

theorem exists_compile_looseStore :
    ∃ final, Attempt.runOn (compile looseOptions "in.json") looseStore =
        (.ok (looseOptions.compiled looseEvents looseFlow), final) ∧
      ∀ name ∈ artifactNames looseOptions.replay, final.IsFile (looseOptions.path name) := by
  obtain ⟨final, hcompile, hfiles⟩ := exists_compile_answered (.ok none)
  refine ⟨final, hcompile, fun name hname => ?_⟩
  obtain ⟨text, hwrite⟩ := exists_mem_writes looseOptions looseEvents looseFlow hname
  exact hfiles (looseOptions.path name, text) hwrite

/-- The stored events are compiled in their place, and nothing changes. -/
theorem recompile_looseStore :
    readEvents "in.json" looseValue.pretty = .ok looseEvents ∧
      (∀ e ∈ looseEvents, e.Unbounded) ∧
      ∃ compiled final latest,
        Attempt.runOn (compile looseOptions "in.json") looseStore = (.ok compiled, final) ∧
        Attempt.runOn (compile looseOptions (looseOptions.path eventsFile)) final =
          (.ok compiled, latest) ∧
        ∀ name ∈ [eventsFile, flowFile, scriptFile, "data.json"],
          latest.readText (looseOptions.path name) = final.readText (looseOptions.path name) := by
  have hunbounded : ∀ e ∈ looseEvents, e.Unbounded := by
    intro e he target htarget
    simp only [looseEvents, List.mem_cons, List.not_mem_nil, or_false] at he
    rcases he with rfl | rfl
    · exact nomatch htarget
    · exact nomatch htarget
  obtain ⟨final, hcompile, hfiles⟩ := exists_compile_looseStore
  obtain ⟨place, _, hplace, -⟩ := hfiles "data.json" (by decide)
  have hapart : looseOptions.DataApart final :=
    dataApart_of_isName (by decide) (by decide) hplace
  obtain ⟨latest, hlatest, hreads⟩ :=
    ((recompile_stored_events readEvents_looseValue hunbounded).2 looseOptions "in.json").2
      readText_looseStore hcompile hapart (hfiles eventsFile List.mem_cons_self)
  refine ⟨readEvents_looseValue, hunbounded, _, final, latest, hcompile, hlatest,
    fun name hname => ?_⟩
  obtain ⟨text, hwrite⟩ := exists_mem_writes looseOptions looseEvents looseFlow hname
  exact hreads (looseOptions.path name, text) hwrite

end CompileOptions

end BrowserFlow
