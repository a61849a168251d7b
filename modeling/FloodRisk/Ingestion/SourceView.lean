import FloodRisk.Ingestion.ManagedCycle

/-!
# What a source sees of the database

The outcome of a source is compared with its row and its jobs.  `Within` bounds
everything it is compared with, `ReportsFailure` is a stored failure that
nothing of the source is after.
-/

namespace FloodRisk.Ingestion
open Promotion

structure SourceView where
  source : Option DataSource
  jobs : List IngestionJob

def sourceView (key : String) (db : Database) : SourceView where
  source := db.dataSources.find key
  jobs := db.ingestionJobs.filter fun job => job.adapterKey = some key

def jobGeneration (job : IngestionJob) : ℤ := job.startedAt.getD job.createdAt

/-- Nothing that an outcome of the source is compared with is after `bound`. -/
structure Within (view : SourceView) (bound : ℤ) : Prop where
  runAt : ∀ source ∈ view.source, ∀ runAt ∈ source.runtimePipelineRunAt, runAt ≤ bound
  jobs : ∀ job ∈ view.jobs, jobGeneration job ≤ bound
  unrun : view.jobs = [] → ∀ source ∈ view.source,
    (∀ instant ∈ source.lastSuccessAt, instant ≤ bound) ∧
      ∀ instant ∈ source.lastFailureAt, instant ≤ bound

/-- The row says `failed`, in a generation that nothing of the source is after. -/
def ReportsFailure (view : SourceView) : Prop :=
  ∀ source ∈ view.source, source.runtimePipelineStatus = some .failed ∧
    source.runtimePipelineCheckedAt.isSome ∧
    ∃ runAt, source.runtimePipelineRunAt = some runAt ∧ Within view runAt

theorem Within.mono {view : SourceView} {bound later : ℤ} (h : Within view bound)
    (hle : bound ≤ later) : Within view later := by
  refine ⟨?_, ?_, ?_⟩
  · intro source hsource runAt hrunAt
    have hbound := h.runAt source hsource runAt hrunAt
    omega
  · intro job hjob
    have hbound := h.jobs job hjob
    omega
  · intro hnone source hsource
    obtain ⟨hsuccess, hfailure⟩ := h.unrun hnone source hsource
    refine ⟨?_, ?_⟩
    · intro instant hinstant
      have hbound := hsuccess instant hinstant
      omega
    · intro instant hinstant
      have hbound := hfailure instant hinstant
      omega

theorem hasNewerJob_eq_false_iff {db : Database} {key : String} {bound : ℤ} :
    hasNewerJob db.ingestionJobs key bound = false ↔
      ∀ job ∈ (sourceView key db).jobs, jobGeneration job ≤ bound := by
  simp only [hasNewerJob, List.any_eq_false, Bool.and_eq_true, decide_eq_true_eq, sourceView,
    List.mem_filter, jobGeneration]
  constructor
  · intro h job hjob
    by_contra hlater
    exact h job hjob.1 ⟨hjob.2, by omega⟩
  · intro h job hjob hnewer
    have hbound := h job ⟨hjob, hnewer.1⟩
    omega

/-! ### The writes of one source -/

theorem sourceView_work (step : DataStep) (key : String) (db : Database) :
    sourceView key (step.apply db) = sourceView key db := by
  simp only [sourceView, step.dataSources, step.ingestionJobs]

theorem sourceView_outcome (key : String) {outcome : PipelineOutcome} {own : String}
    (hkeys : outcome.adapterKeys = [own]) (hvalid : pipelineOutcomeError outcome = none)
    (db : Database) :
    sourceView key (statusStep db (.outcome outcome)) =
      if key = own then
        { source := (sourceView key db).source.map fun source =>
            if source.runtimePipelineRunAt.all (· ≤ outcome.runAt) &&
                !hasNewerJob db.ingestionJobs key outcome.runAt
            then pipelineColumns outcome source else source
          jobs := (sourceView key db).jobs }
      else sourceView key db := by
  have hwrite : ∃ next, writePipelineStatus outcome db = .ok next ∧
      next.ingestionJobs = db.ingestionJobs := by
    unfold writePipelineStatus
    rw [if_neg (by simp [hkeys]), hvalid]
    exact ⟨_, rfl, rfl⟩
  obtain ⟨next, hnext, hjobs⟩ := hwrite
  have hstep : statusStep db (.outcome outcome) = next := by
    simp only [statusStep, hnext]
  rw [hstep]
  simp only [sourceView, hjobs, find_writePipelineStatus hnext]
  cases hfind : db.dataSources.find key with
  | none =>
      by_cases hown : key = own
      · rw [if_pos hown]
        rfl
      · rw [if_neg hown]
        rfl
  | some source =>
      have hkey : source.adapterKey = key := (Table.find_eq_some_iff.mp hfind).2
      simp only [Option.map_some, acceptsOutcome, hkeys, List.mem_singleton, hkey]
      by_cases hown : key = own
      · simp only [hown, decide_true, Bool.true_and, if_true]
      · simp only [hown, decide_false, Bool.false_and, Bool.false_eq_true, if_false]

theorem sourceView_summary (key : String) (summary : AdapterBatchRunSummary) (createdAt : ℤ)
    (db : Database) :
    sourceView key (statusStep db (.summary summary createdAt)) =
      if key = summary.adapterKey then
        { source := (sourceView key db).source.map fun source =>
            if hasNewerJob db.ingestionJobs key summary.startedAt = false
            then healthColumns summary source else source
          jobs := (sourceView key db).jobs ++ [ingestionJob summary createdAt] }
      else sourceView key db := by
  simp only [statusStep, sourceView, find_writeSummary]
  have hjobs : (writeSummary summary createdAt db).ingestionJobs =
      db.ingestionJobs ++ [ingestionJob summary createdAt] := rfl
  rw [hjobs, List.filter_append]
  by_cases hown : key = summary.adapterKey
  · rw [if_pos hown]
    simp only [hown, true_and, ingestionJob, decide_true, List.filter_cons_of_pos,
      List.filter_nil]
  · rw [if_neg hown]
    have hother : ¬ (some summary.adapterKey = some key) := by
      intro heq
      exact hown (Option.some.inj heq).symm
    simp only [hown, false_and, if_false, Option.map_id', ingestionJob, hother, decide_false,
      Bool.false_eq_true, not_false_eq_true, List.filter_cons_of_neg, List.filter_nil,
      List.append_nil]

section Writes

variable {key : String} {state : TickState} {bound runAt : ℤ} {errorCode : Option String}

theorem sourceView_recordFailure (key own : String) (runAt : ℤ) (errorCode : Option String)
    (state : TickState) :
    sourceView key (recordFailure own runAt errorCode state).db =
      if key = own then
        { source := (sourceView key state.db).source.map fun source =>
            if source.runtimePipelineRunAt.all (· ≤ runAt) &&
                !hasNewerJob state.db.ingestionJobs key runAt
            then pipelineColumns
              { adapterKeys := [own], status := .failed, complete := false,
                checkedAt := state.now, runAt := runAt, errorCode := errorCode } source
            else source
          jobs := (sourceView key state.db).jobs }
      else sourceView key state.db :=
  sourceView_outcome key rfl rfl state.db

theorem Within.recordFailure (h : Within (sourceView key state.db) bound) (hle : runAt ≤ bound)
    (errorCode : Option String) :
    Within (sourceView key (recordFailure key runAt errorCode state).db) bound := by
  rw [sourceView_recordFailure, if_pos rfl]
  refine ⟨?_, h.jobs, ?_⟩
  · intro source hsource stored hstored
    obtain ⟨old, hold, heq⟩ := Option.map_eq_some_iff.mp hsource
    split at heq
    · rw [← heq] at hstored
      have hrunAt : runAt = stored := Option.some.inj hstored
      omega
    · rw [← heq] at hstored
      exact h.runAt old hold stored hstored
  · intro hnone source hsource
    obtain ⟨old, hold, heq⟩ := Option.map_eq_some_iff.mp hsource
    have hlast := h.unrun hnone old hold
    split at heq
    · rw [← heq]
      exact hlast
    · rw [← heq]
      exact hlast

theorem reportsFailure_recordFailure (h : Within (sourceView key state.db) bound)
    (hle : bound ≤ runAt) (errorCode : Option String) :
    ReportsFailure (sourceView key (recordFailure key runAt errorCode state).db) := by
  have hwithin := (h.mono hle).recordFailure (le_refl runAt) errorCode
  intro source hsource
  have hview := hsource
  rw [sourceView_recordFailure, if_pos rfl] at hview
  obtain ⟨old, hold, heq⟩ := Option.map_eq_some_iff.mp hview
  have hjobs : hasNewerJob state.db.ingestionJobs key runAt = false :=
    hasNewerJob_eq_false_iff.mpr (h.mono hle).jobs
  have hstored : old.runtimePipelineRunAt.all (· ≤ runAt) = true := by
    rw [Option.all_eq_true]
    intro stored hstored
    exact decide_eq_true ((h.mono hle).runAt old hold stored hstored)
  simp only [hjobs, hstored, Bool.not_false, Bool.and_self, if_true] at heq
  refine ⟨by rw [← heq]; rfl, by rw [← heq]; rfl, runAt, by rw [← heq]; rfl, hwithin⟩

theorem ReportsFailure.recordFailure (h : ReportsFailure (sourceView key state.db)) (runAt : ℤ)
    (errorCode : Option String) :
    ReportsFailure (sourceView key (recordFailure key runAt errorCode state).db) := by
  cases hsource : (sourceView key state.db).source with
  | none =>
      intro source hnew
      rw [sourceView_recordFailure, if_pos rfl] at hnew
      simp [hsource] at hnew
  | some old =>
      obtain ⟨hstatus, hchecked, stored, hstored, hwithin⟩ := h old hsource
      by_cases haccepts : (old.runtimePipelineRunAt.all (· ≤ runAt) &&
          !hasNewerJob state.db.ingestionJobs key runAt) = true
      · have hle : stored ≤ runAt := by
          have hall := (Bool.and_eq_true_iff.mp haccepts).1
          rw [Option.all_eq_true] at hall
          exact of_decide_eq_true (hall stored hstored)
        exact reportsFailure_recordFailure hwithin hle errorCode
      · have hsame : sourceView key (Ingestion.recordFailure key runAt errorCode state).db =
            sourceView key state.db := by
          rw [sourceView_recordFailure, if_pos rfl, hsource]
          simp only [Option.map_some, if_neg haccepts]
          rw [← hsource]
        rw [hsame]
        exact h

theorem Within.summary {summary : AdapterBatchRunSummary}
    (h : Within (sourceView summary.adapterKey state.db) bound)
    (hle : bound ≤ summary.startedAt) (createdAt : ℤ) :
    Within (sourceView summary.adapterKey (state.write (.summary summary createdAt)).db)
      summary.startedAt := by
  have hview := sourceView_summary summary.adapterKey summary createdAt state.db
  rw [if_pos rfl] at hview
  have hdb : (state.write (.summary summary createdAt)).db =
      statusStep state.db (.summary summary createdAt) := rfl
  rw [hdb, hview]
  refine ⟨?_, ?_, ?_⟩
  · intro source hsource stored hstored
    obtain ⟨old, hold, heq⟩ := Option.map_eq_some_iff.mp hsource
    have holdBound := (h.mono hle).runAt old hold
    split at heq
    · rw [← heq] at hstored
      simp only [healthColumns] at hstored
      split at hstored
      · have hstarted : summary.startedAt = stored := Option.some.inj hstored
        omega
      · exact holdBound stored hstored
    · rw [← heq] at hstored
      exact holdBound stored hstored
  · intro job hjob
    rcases List.mem_append.mp hjob with hold | hnew
    · exact (h.mono hle).jobs job hold
    · rw [List.mem_singleton.mp hnew]
      exact le_refl _
  · intro hnone
    exact absurd hnone (by simp)

theorem Within.recordSuccess {summary : AdapterBatchRunSummary} {recorded : TickState}
    (h : Within (sourceView key state.db) summary.startedAt)
    (hrecorded : Ingestion.recordSuccess key summary state = .ok recorded) :
    Within (sourceView key recorded.db) summary.startedAt := by
  unfold Ingestion.recordSuccess at hrecorded
  split at hrecorded
  · cases hrecorded
    exact h
  · unfold recordPipelineStatus at hrecorded
    simp only [Option.getD_some] at hrecorded
    split at hrecorded
    · exact absurd hrecorded (by simp)
    · rename_i hvalid
      cases hrecorded
      have hview := sourceView_outcome key rfl hvalid state.db
      rw [if_pos rfl] at hview
      simp only [TickState.write]
      rw [hview]
      refine ⟨?_, h.jobs, ?_⟩
      · intro source hsource stored hstored
        obtain ⟨old, hold, heq⟩ := Option.map_eq_some_iff.mp hsource
        split at heq
        · rw [← heq] at hstored
          have hstarted : summary.startedAt = stored := Option.some.inj hstored
          omega
        · rw [← heq] at hstored
          exact h.runAt old hold stored hstored
      · intro hnone source hsource
        obtain ⟨old, hold, heq⟩ := Option.map_eq_some_iff.mp hsource
        have hlast := h.unrun hnone old hold
        split at heq
        · rw [← heq]
          exact hlast
        · rw [← heq]
          exact hlast

end Writes

end FloodRisk.Ingestion
