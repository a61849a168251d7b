import FloodRisk.Ingestion.SourceSteps
import FloodRisk.Realtime.SourceHealth

/-!
# Failed sources report their failure

Every failure of a tick is stamped with a generation that the row of its source
accepts: no outcome and no job of the source is newer.
-/

namespace FloodRisk.Ingestion
open Promotion Realtime Transition

/-! ### One source of the tick -/

/-- A step of the tick about one source; a failure that it logs is reported. -/
structure Settles (key : String) (before after : TickState) : Prop where
  within : Within (sourceView key after.db) after.now
  reported : after.failures = before.failures ∨
    (ReportsFailure (sourceView key after.db) ∧ after.hadFailure = true)

section Source

variable {key : String} {source : SourceRun} {state : TickState}

theorem settles_constructSource (within : Within (sourceView key state.db) state.now) :
    Settles key state (constructSource source key state) := by
  have hwait := Touches.wait key source.untilConstruction state
  have hwithin : Within (sourceView key (state.wait source.untilConstruction).db)
      (state.wait source.untilConstruction).now := within.mono hwait.clock
  unfold constructSource
  simp only
  cases source.construction with
  | gatedOff => exact ⟨hwithin, Or.inl rfl⟩
  | built => exact ⟨hwithin, Or.inl rfl⟩
  | raised errorCode =>
      exact ⟨hwithin.recordFailure (le_refl _) _,
        Or.inr ⟨reportsFailure_recordFailure hwithin (le_refl _) _, rfl⟩⟩

theorem mem_coverageSummary {result : ManagedRuntimeIngestionResult}
    {summary : AdapterBatchRunSummary} (h : coverageSummary key result = some summary) :
    summary ∈ result.summaries := by
  unfold coverageSummary at h
  split at h
  · exact List.mem_of_find?_eq_some h
  · exact absurd h (by simp)

theorem settles_finishSource (source : SourceRun) {before : TickState}
    {result : ManagedRuntimeIngestionResult} (within : Within (sourceView key state.db) state.now)
    (returns : Returns key before result state) :
    Settles key before (finishSource source key before.now result state) := by
  have hlater := (Touches.wait key source.untilFailure state).clock
  have hwithin : Within (sourceView key (state.wait source.untilFailure).db)
      (state.wait source.untilFailure).now := within.mono hlater
  unfold finishSource
  simp only
  by_cases hfailed : result.status = .failed
  · rw [if_pos hfailed, if_pos (returns.explained hfailed)]
    refine ⟨hwithin.recordFailure (returns.stamp.trans hlater) _, Or.inr ⟨?_, rfl⟩⟩
    rcases returns.stamped hfailed with hreported | hstamped
    · have hview : ReportsFailure (sourceView key (state.wait source.untilFailure).db) := hreported
      exact hview.recordFailure _ _
    · have hview : Within (sourceView key (state.wait source.untilFailure).db)
          (sourceFailureRunAt result.summaries key before.now) := hstamped
      exact reportsFailure_recordFailure hview (le_refl _) _
  · rw [if_neg hfailed]
    cases hsummary : coverageSummary key result with
    | none => exact ⟨hwithin, Or.inl (returns.quiet hfailed)⟩
    | some summary =>
        obtain ⟨hstarted, hclock⟩ := returns.started summary (mem_coverageSummary hsummary)
        have hview : sourceView key
            ((state.wait source.untilFailure).work source.coverage.work).db =
              sourceView key state.db := sourceView_work _ key state.db
        have hcovered : Within (sourceView key
            ((state.wait source.untilFailure).work source.coverage.work).db) summary.startedAt := by
          rw [hview]
          exact hstarted
        have hbound := hclock.trans hlater
        simp only
        cases source.coverage.raised with
        | none => exact ⟨hcovered.mono hbound, Or.inl (returns.quiet hfailed)⟩
        | some errorCode =>
            exact ⟨(hcovered.mono hbound).recordFailure hbound _,
              Or.inr ⟨reportsFailure_recordFailure hcovered (le_refl _) _, rfl⟩⟩

theorem settles_runSource (within : Within (sourceView key state.db) state.now) :
    Settles key state (runSource source key state) := by
  have hwait := Touches.wait key source.untilSource state
  have hwithin : Within (sourceView key (state.wait source.untilSource).db)
      (state.wait source.untilSource).now := within.mono hwait.clock
  have hspec := cycleSpec_runBaselineAdapterCycle source.cycle hwithin
  unfold runSource
  simp only
  cases hcycle : runBaselineAdapterCycle key source.cycle (state.wait source.untilSource) with
  | mk outcome finished =>
      rw [hcycle] at hspec
      cases outcome with
      | error errorCode =>
          have hlater := Touches.wait key source.untilFailure finished
          have hview : Within (sourceView key (finished.wait source.untilFailure).db)
              (finished.wait source.untilFailure).now := hspec.within.mono hlater.clock
          exact ⟨hview.recordFailure (le_refl _) _,
            Or.inr ⟨reportsFailure_recordFailure hview (le_refl _) _, rfl⟩⟩
      | ok result =>
          have hsettles := settles_finishSource source hspec.within (hspec.returns result rfl)
          exact ⟨hsettles.within, hsettles.reported⟩

theorem settles_catalogFailure {runAt : ℤ} (within : Within (sourceView key state.db) runAt)
    (clock : runAt ≤ state.now) (errorCode : String) :
    Settles key state
      (recordFailure key runAt (some errorCode) (state.fail key .catalog)).report :=
  ⟨(within.mono clock).recordFailure clock _,
    Or.inr ⟨reportsFailure_recordFailure within (le_refl _) _, rfl⟩⟩

end Source

/-! ### The sources of a list -/

structure Progress (fails : String → Prop) (keys : List String) (before after : TickState) :
    Prop where
  clock : before.now ≤ after.now
  within : ∀ key ∈ keys, Within (sourceView key after.db) after.now
  others : ∀ key, key ∉ keys → sourceView key after.db = sourceView key before.db
  reported : ∀ failure ∈ after.failures, failure ∈ before.failures ∨
    (failure.1 ∈ keys ∧ fails failure.1 ∧ ReportsFailure (sourceView failure.1 after.db))
  returned : after.failures ≠ before.failures → after.hadFailure = true
  kept : before.hadFailure = true → after.hadFailure = true

/-- Distinct sources one after the other; induction over the list, with the
state generalised and the sources to come still within the bound. -/
theorem progress_foldSources {step : String → TickState → TickState} (fails : String → Prop)
    {bound : ℤ} (touches : ∀ key state, Touches key state (step key state))
    (settles : ∀ key state, Within (sourceView key state.db) bound → bound ≤ state.now →
      Settles key state (step key state))
    (logs : ∀ key state, ¬ fails key → (step key state).failures = state.failures)
    {keys : List String} (hnodup : keys.Nodup) (state : TickState)
    (within : ∀ key ∈ keys, Within (sourceView key state.db) bound) (clock : bound ≤ state.now) :
    Progress fails keys state (foldSources step keys state) := by
  induction keys generalizing state with
  | nil =>
      exact ⟨le_refl _, fun _ hkey => absurd hkey List.not_mem_nil, fun _ _ => rfl,
        fun _ hfailure => Or.inl hfailure, fun hne => absurd rfl hne, id⟩
  | cons key rest ih =>
      obtain ⟨hnot, hrest⟩ := List.nodup_cons.mp hnodup
      have htouches := touches key state
      have hsettles := settles key state (within key List.mem_cons_self) clock
      have hwithin : ∀ other ∈ rest, Within (sourceView other (step key state).db) bound := by
        intro other hother
        have hne : other ≠ key := fun heq => hnot (heq ▸ hother)
        rw [htouches.others other hne]
        exact within other (List.mem_cons_of_mem key hother)
      have hnext := ih hrest (step key state) hwithin (clock.trans htouches.clock)
      have hfold : foldSources step (key :: rest) state = foldSources step rest (step key state) := rfl
      rw [hfold]
      have hkey : sourceView key (foldSources step rest (step key state)).db =
          sourceView key (step key state).db := hnext.others key hnot
      refine ⟨htouches.clock.trans hnext.clock, ?_, ?_, ?_, ?_,
        fun hbefore => hnext.kept (htouches.returned hbefore)⟩
      · intro other hother
        rcases List.mem_cons.mp hother with hfirst | htail
        · rw [hfirst, hkey]
          exact hsettles.within.mono hnext.clock
        · exact hnext.within other htail
      · intro other hother
        have hne : other ≠ key := fun heq => hother (heq ▸ List.mem_cons_self)
        rw [hnext.others other fun hmem => hother (List.mem_cons_of_mem key hmem),
          htouches.others other hne]
      · intro failure hfailure
        rcases hnext.reported failure hfailure with hearlier | ⟨hmem, hfails, hreports⟩
        · obtain ⟨new, hnew, hown⟩ := htouches.logged
          rw [hnew] at hearlier
          rcases List.mem_append.mp hearlier with hbefore | hlogged
          · exact Or.inl hbefore
          · have hfirst := hown failure hlogged
            have hchanged : (step key state).failures ≠ state.failures := by
              intro hsame
              rw [hnew] at hsame
              rw [List.append_right_eq_self.mp hsame] at hlogged
              exact absurd hlogged List.not_mem_nil
            rcases hsettles.reported with hsame | hreports
            · exact absurd hsame hchanged
            · refine Or.inr ⟨hfirst ▸ List.mem_cons_self, ?_, ?_⟩
              · by_contra hquiet
                exact hchanged (logs key state (hfirst ▸ hquiet))
              · rw [hfirst, hkey]
                exact hreports.1
        · exact Or.inr ⟨List.mem_cons_of_mem key hmem, hfails, hreports⟩
      · intro hchanged
        by_cases hsame : (foldSources step rest (step key state)).failures =
            (step key state).failures
        · rcases hsettles.reported with hkept | hreports
          · exact absurd (hsame.trans hkept) hchanged
          · exact hnext.kept hreports.2
        · exact hnext.returned hsame

/-! ### The tick -/

/-- Every stored instant of every source lies before the clock. -/
def Dated (state : TickState) : Prop := ∀ key, Within (sourceView key state.db) state.now

structure TickSpec (tick : TickRun) (before after : TickState) : Prop where
  dated : Dated after
  others : ∀ key, key ∉ tick.configuredKeys →
    sourceView key after.db = sourceView key before.db
  reported : ∀ failure ∈ after.failures, ReportsFailure (sourceView failure.1 after.db)
  returned : after.failures ≠ [] → after.hadFailure = true

theorem constructSource_failures {source : SourceRun} {key : String} {state : TickState}
    (h : ¬ ∃ errorCode, source.construction = .raised errorCode) :
    (constructSource source key state).failures = state.failures := by
  unfold constructSource
  simp only
  cases hconstruction : source.construction with
  | gatedOff => rfl
  | built => rfl
  | raised errorCode => exact absurd ⟨errorCode, hconstruction⟩ h

theorem tickSpec_runBaselineTick {state : TickState} (dated : Dated state) (tick : TickRun) :
    TickSpec tick state (runBaselineTick state tick) := by
  let waited := (startTick state).wait tick.untilCatalog
  have hclock : state.now ≤ waited.now := (Touches.wait "" tick.untilCatalog (startTick state)).clock
  have hwaited : ∀ key, Within (sourceView key waited.db) waited.now :=
    fun key => (dated key).mono hclock
  have hafter : ∀ {keys : List String} {after : TickState},
      (∀ key ∈ keys, Within (sourceView key after.db) after.now) →
      (∀ key, key ∉ keys → sourceView key after.db = sourceView key waited.db) →
      waited.now ≤ after.now → Dated after := by
    intro keys after hkeys hothers hlater key
    by_cases hmem : key ∈ keys
    · exact hkeys key hmem
    · rw [hothers key hmem]
      exact (hwaited key).mono hlater
  cases hcatalog : tick.catalog with
  | none =>
      have hrun : runBaselineTick state tick = foldSources (fun key current =>
          (recordFailure key waited.now (some "SourceCatalogUnavailable")
            (current.fail key .catalog)).report) tick.configuredKeys waited := by
        simp only [runBaselineTick, hcatalog]
        rfl
      have hprogress := progress_foldSources (fun _ => True)
        (fun key current => (Touches.fail key .catalog current).trans
          (touches_reportedFailure key _ waited.now (some "SourceCatalogUnavailable")))
        (fun key current hwithin hbound =>
          settles_catalogFailure hwithin hbound "SourceCatalogUnavailable")
        (fun _ _ hfalse => absurd trivial hfalse) tick.distinct waited
        (fun key _ => hwaited key) (le_refl waited.now)
      rw [hrun]
      refine ⟨hafter hprogress.within hprogress.others hprogress.clock, ?_, ?_, ?_⟩
      · intro key hkey
        exact hprogress.others key hkey
      · intro failure hfailure
        rcases hprogress.reported failure hfailure with hnone | ⟨-, -, hreports⟩
        · exact absurd hnone List.not_mem_nil
        · exact hreports
      · exact hprogress.returned
  | some enabledKeys =>
      let keys := executionKeys tick enabledKeys
      let builtKeys := keys.filter fun key => isBuilt (tick.sources key)
      let constructed :=
        foldSources (fun key => constructSource (tick.sources key) key) keys waited
      let selected := if tick.selectionRaised then constructed.report else constructed
      have hrun : runBaselineTick state tick =
          foldSources (fun key => runSource (tick.sources key) key) builtKeys selected := by
        simp only [runBaselineTick, hcatalog]
        rfl
      have hkeys : keys.Nodup := tick.distinct.filter _
      have hconstructed := progress_foldSources
        (fun key => ∃ errorCode, (tick.sources key).construction = .raised errorCode)
        (fun key current => touches_constructSource key (tick.sources key) current)
        (fun key current hwithin hbound => settles_constructSource (hwithin.mono hbound))
        (fun key current hquiet => constructSource_failures hquiet) hkeys waited
        (fun key _ => hwaited key) (le_refl waited.now)
      have hdated : Dated constructed :=
        hafter hconstructed.within hconstructed.others hconstructed.clock
      have hselected : selected.db = constructed.db ∧ selected.now = constructed.now ∧
          selected.failures = constructed.failures ∧
          (constructed.hadFailure = true → selected.hadFailure = true) := by
        simp only [selected]
        split
        · exact ⟨rfl, rfl, rfl, fun _ => rfl⟩
        · exact ⟨rfl, rfl, rfl, id⟩
      obtain ⟨hdb, hnow, hfailures, hkept⟩ := hselected
      have hprogress := progress_foldSources (fun _ => True)
        (fun key current => touches_runSource key (tick.sources key) current)
        (fun key current hwithin hbound => settles_runSource (hwithin.mono hbound))
        (fun _ _ hfalse => absurd trivial hfalse) (hkeys.filter _ : builtKeys.Nodup)
        selected (fun key _ => by rw [hdb]; exact hdated key) (le_of_eq hnow.symm)
      rw [hrun]
      refine ⟨?_, ?_, ?_, ?_⟩
      · intro key
        by_cases hmem : key ∈ builtKeys
        · exact hprogress.within key hmem
        · rw [hprogress.others key hmem, hdb]
          exact (hdated key).mono (hnow ▸ hprogress.clock)
      · intro key hkey
        have hnot : key ∉ keys := fun hmem => hkey (List.mem_of_mem_filter hmem)
        have hnotBuilt : key ∉ builtKeys := fun hmem => hnot (List.mem_of_mem_filter hmem)
        rw [hprogress.others key hnotBuilt, hdb]
        exact hconstructed.others key hnot
      · intro failure hfailure
        rcases hprogress.reported failure hfailure with hearlier | ⟨-, -, hreports⟩
        · rw [hfailures] at hearlier
          rcases hconstructed.reported failure hearlier with hnone | ⟨-, hraised, hreports⟩
          · exact absurd hnone List.not_mem_nil
          · -- a source whose construction raised is not run, so its row stays
            have hnotBuilt : failure.1 ∉ builtKeys := by
              intro hmem
              obtain ⟨errorCode, hconstruction⟩ := hraised
              have hbuilt := (List.mem_filter.mp hmem).2
              simp only [isBuilt, hconstruction, Bool.false_eq_true] at hbuilt
            rw [hprogress.others failure.1 hnotBuilt, hdb]
            exact hreports
        · exact hreports
      · intro hne
        by_cases hsame : (foldSources (fun key => runSource (tick.sources key) key) builtKeys
            selected).failures = selected.failures
        · apply hprogress.kept
          apply hkept
          apply hconstructed.returned
          intro hnone
          exact hne (hsame.trans (hfailures.trans hnone))
        · exact hprogress.returned hsame

theorem dated_runBaselineTicks {state : TickState} (dated : Dated state) (ticks : List TickRun) :
    Dated (run runBaselineTick state ticks) := by
  have preserved : ∀ before tick, Dated before → Dated (runBaselineTick before tick) :=
    fun before tick hdated => (tickSpec_runBaselineTick hdated tick).dated
  exact run_invariant preserved dated ticks

/-! ### The public health of a failed source -/

def latestGeneration (jobs : List IngestionJob) : Option ℤ := (jobs.map jobGeneration).max?

/-- The health row is read from the catalogue row and the jobs of the source. -/
structure ReadsSource (view : SourceView) (row : RealtimeSourceHealthRow) : Prop where
  exists_source : ∃ source ∈ view.source,
    row.lastSuccessAt = source.lastSuccessAt ∧ row.lastFailureAt = source.lastFailureAt ∧
    row.runtimePipelineStatus = source.runtimePipelineStatus ∧
    row.runtimePipelineCheckedAt = source.runtimePipelineCheckedAt ∧
    row.runtimePipelineRunAt = source.runtimePipelineRunAt ∧
    row.runtimePipelineErrorCode = source.runtimePipelineErrorCode
  latestRunAt : row.latestRunAt = latestGeneration view.jobs

theorem ReportsFailure.ne_healthy {view : SourceView} (h : ReportsFailure view)
    {row : RealtimeSourceHealthRow} (reads : ReadsSource view row) (signalType : SignalType)
    (evaluatedAt : ℤ) :
    (sourceHealthDecision row signalType evaluatedAt).healthStatus ≠ .healthy := by
  obtain ⟨source, hsource, hsuccess, hfailure, hstatus, hchecked, hrunAt, -⟩ := reads.exists_source
  obtain ⟨hfailed, hsome, runAt, hstored, hwithin⟩ := h source hsource
  obtain ⟨checkedAt, hcheckedAt⟩ := Option.isSome_iff_exists.mp hsome
  refine sourceHealthDecision_ne_healthy (hstatus.trans hfailed) (hchecked.trans hcheckedAt)
    (hrunAt.trans hstored) ?_ signalType evaluatedAt
  intro latest hlatest
  unfold latestRunReference at hlatest
  rw [reads.latestRunAt] at hlatest
  cases hjobs : view.jobs with
  | cons job rest =>
      have hmax : ∃ newest, latestGeneration view.jobs = some newest := by
        simp only [latestGeneration, hjobs, List.map_cons, List.max?_cons]
        exact ⟨_, rfl⟩
      obtain ⟨newest, hnewest⟩ := hmax
      rw [hnewest] at hlatest
      have heq : newest = latest := Option.some.inj hlatest
      obtain ⟨other, hother, hgeneration⟩ := List.mem_map.mp (List.max?_mem hnewest)
      rw [← heq, ← hgeneration]
      exact hwithin.jobs other hother
  | nil =>
      have hnone : latestGeneration view.jobs = none := by
        simp only [latestGeneration, hjobs, List.map_nil, List.max?_nil]
      obtain ⟨hsuccessBound, hfailureBound⟩ := hwithin.unrun hjobs source hsource
      rw [hnone, Option.none_or, hsuccess, hfailure] at hlatest
      cases hlast : source.lastSuccessAt with
      | some instant =>
          rw [hlast] at hlatest
          have heq : instant = latest := Option.some.inj hlatest
          exact heq ▸ hsuccessBound instant hlast
      | none =>
          rw [hlast, Option.none_or] at hlatest
          exact hfailureBound latest hlatest

/-! ### Failed sources -/

/-- After any ticks, a source that failed a step of the last one reports a
failure no older than its jobs and is not shown as healthy; and no source
changes what another one sees. -/
theorem failed_sources_report_failure {state : TickState} (dated : Dated state)
    (ticks : List TickRun) (last : TickRun) :
    (∀ failure ∈ (run runBaselineTick state (ticks ++ [last])).failures,
      ReportsFailure (sourceView failure.1 (run runBaselineTick state (ticks ++ [last])).db) ∧
      ∀ row, ReadsSource
          (sourceView failure.1 (run runBaselineTick state (ticks ++ [last])).db) row →
        ∀ signalType evaluatedAt,
          (sourceHealthDecision row signalType evaluatedAt).healthStatus ≠ .healthy) ∧
    ∀ source key other current, other ≠ key →
      sourceView other (constructSource source key current).db = sourceView other current.db ∧
      sourceView other (runSource source key current).db = sourceView other current.db := by
  refine ⟨?_, ?_⟩
  · intro failure hfailure
    rw [run_append] at hfailure ⊢
    have hspec := tickSpec_runBaselineTick (dated_runBaselineTicks dated ticks) last
    have hreports := hspec.reported failure hfailure
    exact ⟨hreports, fun row hreads signalType evaluatedAt =>
      hreports.ne_healthy hreads signalType evaluatedAt⟩
  · intro source key other current hother
    exact ⟨(touches_constructSource key source current).others other hother,
      (touches_runSource key source current).others other hother⟩

/-! ### A tick with a failure of every kind -/

def idleStep : DataStep := ⟨id, fun _ => rfl, fun _ => rfl⟩

def completed : Attempt := ⟨idleStep, none⟩

def failedAttempt (errorCode : String) : Attempt := ⟨idleStep, some errorCode⟩

def completedCycle (key : String) : CycleRun where
  metadataKey := key
  snapshotGenerationMode := none
  raisedFirst := none
  catalog := .enabled
  hasDatabase := true
  staging := idleStep
  batch := .summarised
    { adapterKey := key
      status := .succeeded
      startedAt := 0
      finishedAt := 0
      itemsFetched := 1
      itemsPromoted := 1
      itemsRejected := 0
      rawRef := some ("raw/" ++ key) }
  raisedAfterBatch := none
  retirement := completed
  promotion := completed
  isTransient := false
  retriedPromotion := completed
  raisedLast := none
  untilCycle := 1
  untilBatch := 1
  batchTook := 5
  untilRecord := 1

def completedSource (key : String) : SourceRun where
  construction := .built
  untilConstruction := 1
  untilSource := 1
  cycle := completedCycle key
  untilFailure := 1
  coverage := completed

def sampleKeys : List String :=
  ["official.cwa.rainfall", "official.cwa.tide_level", "official.ncdr.cap",
    "official.nstc.flood_disaster_points", "official.wra.water_level",
    "official.wra_iow.flood_depth"]

def noActiveBatch (key : String) : BatchOutcome :=
  .summarised
    { adapterKey := key
      status := .succeeded
      startedAt := 0
      finishedAt := 0
      itemsFetched := 0
      itemsPromoted := 0
      itemsRejected := 0
      errorCode := some "no_active_event" }

/-- Promotion twice in vain, a failed fetch, a failed retirement, a failed
coverage writer, a failed construction, and a source that succeeds. -/
def failingSource (key : String) : SourceRun :=
  let source := completedSource key
  if key = "official.cwa.rainfall" then
    { source with
      cycle := { source.cycle with
        promotion := failedAttempt "OperationalError", isTransient := true,
        retriedPromotion := failedAttempt "OperationalError" } }
  else if key = "official.cwa.tide_level" then
    { source with cycle := { source.cycle with batch := .adapterRaised "FetchError" "timeout" } }
  else if key = "official.ncdr.cap" then
    { source with
      cycle := { source.cycle with
        batch := noActiveBatch key, retirement := failedAttempt "LockNotAvailable" } }
  else if key = "official.nstc.flood_disaster_points" then
    { source with coverage := failedAttempt "HistoricalCoverageWriteError" }
  else if key = "official.wra.water_level" then
    { source with construction := .raised "ValueError" }
  else source

def sampleTick (sources : String → SourceRun) : TickRun where
  configuredKeys := sampleKeys
  distinct := by decide
  catalog := some sampleKeys
  untilCatalog := 1
  isDue := fun _ => true
  selectionRaised := false
  sources := sources

def sampleState : TickState where
  db := catalogued sampleKeys
  now := 1000

theorem dated_of_unrun {state : TickState} (hjobs : state.db.ingestionJobs = [])
    (hsources : ∀ source ∈ state.db.dataSources.rows, source.runtimePipelineRunAt = none ∧
      source.lastSuccessAt = none ∧ source.lastFailureAt = none) : Dated state := by
  intro key
  have hrow : ∀ source ∈ (sourceView key state.db).source, source.runtimePipelineRunAt = none ∧
      source.lastSuccessAt = none ∧ source.lastFailureAt = none := by
    intro source hsource
    exact hsources source (Table.find_eq_some_iff.mp hsource).1
  refine ⟨?_, ?_, ?_⟩
  · intro source hsource runAt hrunAt
    rw [(hrow source hsource).1] at hrunAt
    exact absurd hrunAt (by simp)
  · intro job hjob
    have hmem := List.mem_of_mem_filter hjob
    rw [hjobs] at hmem
    exact absurd hmem List.not_mem_nil
  · intro _ source hsource
    obtain ⟨-, hsuccess, hfailure⟩ := hrow source hsource
    rw [hsuccess, hfailure]
    exact ⟨by simp, by simp⟩

theorem sample_failures_reported :
    (run runBaselineTick sampleState [sampleTick completedSource, sampleTick failingSource]).failures
      = [("official.wra.water_level", .construction), ("official.cwa.rainfall", .promotion),
          ("official.cwa.tide_level", .fetch), ("official.ncdr.cap", .retirement),
          ("official.nstc.flood_disaster_points", .coverage)] ∧
    ∀ failure ∈ (run runBaselineTick sampleState
        [sampleTick completedSource, sampleTick failingSource]).failures,
      ReportsFailure (sourceView failure.1 (run runBaselineTick sampleState
        [sampleTick completedSource, sampleTick failingSource]).db) := by
  have dated : Dated sampleState := dated_of_unrun rfl (by decide +kernel)
  have hreports := failed_sources_report_failure dated [sampleTick completedSource]
    (sampleTick failingSource)
  refine ⟨by decide +kernel, ?_⟩
  intro failure hfailure
  exact (hreports.1 failure hfailure).1

end FloodRisk.Ingestion
