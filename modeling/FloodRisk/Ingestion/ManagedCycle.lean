import FloodRisk.Ingestion.PipelineStatus

/-!
# The managed cycle of one source (jobs/runtime_managed.py, jobs/ingestion.py)

What the adapter, the staging writer and the promotion writer do outside
`data_sources` and `ingestion_jobs` is a parameter of the cycle, as is every
point at which they raise.
-/

namespace FloodRisk.Ingestion
open Promotion

/-! ### What a cycle meets -/

/-- Work on the other tables; a step that raised may have committed in part. -/
structure DataStep where
  apply : Database → Database
  dataSources : ∀ db, (apply db).dataSources = db.dataSources
  ingestionJobs : ∀ db, (apply db).ingestionJobs = db.ingestionJobs

/-- `raised` is the class name of the exception. -/
structure Attempt where
  work : DataStep
  raised : Option String

inductive CatalogRead where
  | enabled | disabled | unavailable
  deriving DecidableEq

inductive BatchOutcome where
  | adapterRaised (errorCode errorMessage : String)
  | stagingRaised (itemsFetched itemsRejected : ℕ) (stationInventoryProof : Bool)
      (errorCode errorMessage : String)
  | summarised (summary : AdapterBatchRunSummary)

/-- The adapter, the outcome of each step, and the time between the readings of
the clock. -/
structure CycleRun where
  metadataKey : String
  snapshotGenerationMode : Option SnapshotGenerationMode
  raisedFirst : Option String
  catalog : CatalogRead
  hasDatabase : Bool
  staging : DataStep
  batch : BatchOutcome
  raisedAfterBatch : Option String
  retirement : Attempt
  promotion : Attempt
  isTransient : Bool
  retriedPromotion : Attempt
  raisedLast : Option String
  untilCycle : ℕ
  untilBatch : ℕ
  batchTook : ℕ
  untilRecord : ℕ

/-! ### The state of a tick -/

inductive FailedStep where
  | catalog | construction | cycle | fetch | retirement | promotion | coverage
  deriving DecidableEq, Repr

/-- `failures` lists the steps that failed, by source, in their order;
`hadFailure` is what the tick returns. -/
structure TickState where
  db : Database
  now : ℤ
  failures : List (String × FailedStep) := []
  hadFailure : Bool := false

namespace TickState

def wait (elapsed : ℕ) (state : TickState) : TickState :=
  { state with now := state.now + elapsed }

def fail (key : String) (step : FailedStep) (state : TickState) : TickState :=
  { state with failures := state.failures ++ [(key, step)] }

def report (state : TickState) : TickState :=
  { state with hadFailure := true }

def work (step : DataStep) (state : TickState) : TickState :=
  { state with db := step.apply state.db }

def write (write : StatusWrite) (state : TickState) : TickState :=
  { state with db := statusStep state.db write }

end TickState

/-- `record_pipeline_status`; a refused snapshot reference raises. -/
def recordPipelineStatus (key : String) (status : PipelineStatus) (complete : Bool)
    (runAt : Option ℤ) (activeSnapshotRawRef errorCode : Option String) (state : TickState) :
    Except String TickState :=
  let outcome : PipelineOutcome :=
    { adapterKeys := [key]
      status := status
      complete := complete
      checkedAt := state.now
      runAt := runAt.getD state.now
      activeSnapshotRawRef := activeSnapshotRawRef
      errorCode := errorCode }
  match pipelineOutcomeError outcome with
  | some error => .error error
  | none => .ok (state.write (.outcome outcome))

/-- The status `failed`; it names no snapshot, so it is never refused. -/
def recordFailure (key : String) (runAt : ℤ) (errorCode : Option String) (state : TickState) :
    TickState :=
  state.write (.outcome
    { adapterKeys := [key]
      status := .failed
      complete := false
      checkedAt := state.now
      runAt := runAt
      errorCode := errorCode })

theorem recordPipelineStatus_failed (key : String) (runAt : ℤ) (errorCode : Option String)
    (state : TickState) :
    recordPipelineStatus key .failed false (some runAt) none errorCode state =
      .ok (recordFailure key runAt errorCode state) := rfl

/-! ### `run_adapter_batch` -/

def batchSummary (key : String) (run : CycleRun) (startedAt finishedAt : ℤ) :
    AdapterBatchRunSummary :=
  match run.batch with
  | .adapterRaised errorCode errorMessage =>
      { adapterKey := key
        status := .failed
        startedAt := startedAt
        finishedAt := finishedAt
        itemsFetched := 0
        itemsPromoted := 0
        itemsRejected := 0
        snapshotGenerationMode := run.snapshotGenerationMode
        errorCode := some errorCode
        errorMessage := some errorMessage }
  | .stagingRaised itemsFetched itemsRejected stationInventoryProof errorCode errorMessage =>
      { adapterKey := key
        status := .failed
        startedAt := startedAt
        finishedAt := finishedAt
        itemsFetched := itemsFetched
        itemsPromoted := 0
        itemsRejected := itemsRejected
        snapshotGenerationMode := run.snapshotGenerationMode
        errorCode := some errorCode
        errorMessage := some errorMessage
        stationInventoryProof := stationInventoryProof }
  | .summarised summary =>
      { summary with adapterKey := key, startedAt := startedAt, finishedAt := finishedAt }

def runAdapterBatch (key : String) (run : CycleRun) (state : TickState) :
    AdapterBatchRunSummary × TickState :=
  let started := state.wait run.untilBatch
  let finished := (started.work run.staging).wait run.batchTook
  let summary := batchSummary key run started.now finished.now
  let written := finished.write (.summary summary finished.now)
  (summary, if summary.status = .failed then written.fail key .fetch else written)

/-! ### `_execute_managed_runtime_ingestion_cycle` -/

structure ManagedRuntimeIngestionResult where
  status : AdapterBatchStatus
  reason : Option String := none
  summaries : List AdapterBatchRunSummary := []
  errorCode : Option String := none

def statusFromCycle (summaries : List AdapterBatchRunSummary) : AdapterBatchStatus :=
  if summaries = [] then .skipped
  else if summaries.any (fun summary => summary.status = .failed) then .failed
  else if summaries.any (fun summary =>
      summary.status = .partialBatch || summary.status = .skipped) then .partialBatch
  else .succeeded

/-- The `active_snapshot_raw_ref` of `_record_pipeline_status_for_adapter_keys`
for a complete success. -/
def activeSnapshotRawRef (summary : AdapterBatchRunSummary) : Option String :=
  if (summary.status = .succeeded ∨ summary.status = .partialBatch) ∧
      summary.snapshotGenerationMode = some .completeReplace ∧
      summary.snapshotActivationEligible = true
  then summary.rawRef else none

/-- `_record_pipeline_status_for_adapter_keys` with the status `succeeded`. -/
def recordSuccess (key : String) (summary : AdapterBatchRunSummary) (state : TickState) :
    Except String TickState :=
  if summary.status = .failed then .ok state
  else
    recordPipelineStatus key .succeeded true (some summary.startedAt)
      (activeSnapshotRawRef summary) none state

/-- `_promote_accepted_staging_with_retry`: the class name of what it raised. -/
def promoteWithRetry (run : CycleRun) (state : TickState) : Option String × TickState :=
  let first := state.work run.promotion.work
  match run.promotion.raised with
  | none => (none, first)
  | some errorCode =>
      if run.isTransient then
        (run.retriedPromotion.raised, first.work run.retriedPromotion.work)
      else (some errorCode, first)

/-- A failed step of the promotion stage and the result that reports it. -/
def failedResult (key reason errorCode : String) (step : FailedStep)
    (summary : AdapterBatchRunSummary) (state : TickState) :
    Except String ManagedRuntimeIngestionResult × TickState :=
  (.ok { status := .failed, reason := some reason, summaries := [summary],
         errorCode := some errorCode },
    recordFailure key summary.startedAt (some errorCode) (state.fail key step))

def promoteBatch (key : String) (run : CycleRun) (summary : AdapterBatchRunSummary)
    (state : TickState) : Except String ManagedRuntimeIngestionResult × TickState :=
  let promotes : Bool :=
    (summary.status = .succeeded || summary.status = .partialBatch) && summary.rawRef.isSome
  let attempted := if promotes then promoteWithRetry run state else (none, state)
  let promoted := attempted.2.wait run.untilRecord
  match attempted.1 with
  | some errorCode => failedResult key "promotion_failed" errorCode .promotion summary promoted
  | none =>
      match recordSuccess key summary promoted with
      | .error errorCode => (.error errorCode, promoted.fail key .cycle)
      | .ok recorded =>
          match run.raisedLast with
          | some errorCode => (.error errorCode, recorded.fail key .cycle)
          | none =>
              (.ok { status := statusFromCycle [summary], summaries := [summary] }, recorded)

def finishBatch (key : String) (run : CycleRun) (summary : AdapterBatchRunSummary)
    (state : TickState) : Except String ManagedRuntimeIngestionResult × TickState :=
  if isSuccessfulNoActiveWarningSummary summary then
    let retired := state.work run.retirement.work
    match run.retirement.raised with
    | some errorCode =>
        failedResult key "no_active_event_retirement_failed" errorCode .retirement summary
          (retired.wait run.untilRecord)
    | none => promoteBatch key run summary retired
  else promoteBatch key run summary state

def executeManagedCycle (key : String) (run : CycleRun) (state : TickState) :
    Except String ManagedRuntimeIngestionResult × TickState :=
  let started := state.wait run.untilCycle
  match run.raisedFirst with
  | some errorCode => (.error errorCode, started.fail key .cycle)
  | none =>
      match run.catalog with
      | .unavailable =>
          (.ok { status := .failed, reason := some "source_catalog_unavailable",
                 errorCode := some "source_catalog_unavailable" },
            recordFailure key started.now none (started.fail key .catalog))
      | .disabled => (.ok { status := .skipped, reason := some "source_catalog_disabled" }, started)
      | .enabled =>
          if !run.hasDatabase then
            (.ok { status := .skipped, reason := some "no_database_url" }, started)
          else
            let (summary, batched) := runAdapterBatch key run started
            match run.raisedAfterBatch with
            | some errorCode => (.error errorCode, batched.fail key .cycle)
            | none => finishBatch key run summary batched

/-- `run_v1_baseline_adapter_cycle` with the arguments of the tick. -/
def runBaselineAdapterCycle (key : String) (run : CycleRun) (state : TickState) :
    Except String ManagedRuntimeIngestionResult × TickState :=
  if run.metadataKey ≠ key then
    (.ok { status := .failed, reason := some "invalid_v1_baseline_scope",
           errorCode := some "invalid_v1_baseline_scope" }, state.fail key .cycle)
  else executeManagedCycle key run state

end FloodRisk.Ingestion
