import FloodRisk.Promotion.Store

/-!
# Run summaries and pipeline status (jobs/ingestion.py, pipelines/ingestion_runs.py)

`writeSummary` appends one job row and updates the health columns of its source,
`writePipelineStatus` updates the pipeline columns.  Both look for a newer job
of the source, each with its own further condition.
-/

namespace FloodRisk.Ingestion
open Promotion

/-! ### Summaries -/

inductive AdapterBatchStatus where
  | succeeded | partialBatch | failed | skipped
  deriving DecidableEq, Repr

inductive SnapshotGenerationMode where
  | completeReplace
  deriving DecidableEq, Repr

/-- `stationInventoryProof` says whether the summary carries a proof. -/
structure AdapterBatchRunSummary where
  adapterKey : String
  status : AdapterBatchStatus
  startedAt : ℤ
  finishedAt : ℤ
  itemsFetched : ℕ
  itemsPromoted : ℕ
  itemsRejected : ℕ
  snapshotGenerationMode : Option SnapshotGenerationMode := none
  snapshotActivationEligible : Bool := false
  rawRef : Option String := none
  errorCode : Option String := none
  errorMessage : Option String := none
  sourceTimestampMin : Option ℤ := none
  sourceTimestampMax : Option ℤ := none
  stationInventoryProof : Bool := false
  eventActiveFromMin : Option ℤ := none
  eventActiveUntilMax : Option ℤ := none
  deriving DecidableEq

/-- `is_successful_no_active_warning_summary`: the zero-fetch poll and the
cancel-only complete NCDR snapshot. -/
def isSuccessfulNoActiveWarningSummary (summary : AdapterBatchRunSummary) : Bool :=
  let common :=
    summary.adapterKey ∈ reviewedWarningAdapterKeys && summary.status = .succeeded &&
      summary.errorCode = some "no_active_event" && summary.itemsRejected = 0 &&
      !summary.stationInventoryProof && summary.eventActiveFromMin.isNone &&
      summary.eventActiveUntilMax.isNone
  common &&
    if summary.itemsFetched = 0 then
      summary.itemsPromoted = 0 && summary.rawRef.isNone && summary.sourceTimestampMin.isNone &&
        summary.sourceTimestampMax.isNone
    else
      summary.adapterKey = ncdrCap && summary.itemsFetched = summary.itemsPromoted &&
        0 < summary.itemsPromoted && summary.snapshotGenerationMode = some .completeReplace &&
        summary.snapshotActivationEligible && summary.rawRef.isSome &&
        summary.sourceTimestampMin.isSome && summary.sourceTimestampMax.isSome

/-! ### `write_summary` -/

def jobStatus (summary : AdapterBatchRunSummary) : JobStatus :=
  match summary.status with
  | .partialBatch => .succeeded
  | .succeeded => .succeeded
  | .failed => .failed
  | .skipped => .skipped

/-- The row of `_insert_ingestion_job`; `createdAt` is the default of the column. -/
def ingestionJob (summary : AdapterBatchRunSummary) (createdAt : ℤ) : IngestionJob where
  adapterKey := some summary.adapterKey
  startedAt := some summary.startedAt
  finishedAt := some summary.finishedAt
  createdAt := createdAt
  status := jobStatus summary
  itemsFetched := summary.itemsFetched
  itemsPromoted := summary.itemsPromoted
  itemsRejected := summary.itemsRejected
  errorCode := summary.errorCode
  errorMessage := summary.errorMessage
  sourceTimestampMin := summary.sourceTimestampMin
  sourceTimestampMax := summary.sourceTimestampMax

/-- `EXISTS` a job of the adapter with a generation after the given one. -/
def hasNewerJob (jobs : List IngestionJob) (adapterKey : String) (generation : ℤ) : Bool :=
  jobs.any fun job =>
    job.adapterKey = some adapterKey && job.startedAt.getD job.createdAt > generation

/-- The columns `_update_data_source_health` sets. -/
def healthColumns (summary : AdapterBatchRunSummary) (source : DataSource) : DataSource :=
  let failed : Bool := summary.status = .failed
  { source with
    lastSuccessAt :=
      if summary.status = .succeeded ∨ summary.status = .partialBatch then some summary.finishedAt
      else source.lastSuccessAt
    lastFailureAt := if failed then some summary.finishedAt else source.lastFailureAt
    healthStatus :=
      match summary.status with
      | .succeeded => .healthy
      | .partialBatch => .degraded
      | .failed => .failed
      | .skipped => .unknown
    runtimePipelineStatus := if failed then some .failed else source.runtimePipelineStatus
    runtimePipelineCheckedAt :=
      if failed then some summary.finishedAt else source.runtimePipelineCheckedAt
    runtimePipelineComplete := if failed then some false else source.runtimePipelineComplete
    runtimePipelineRunAt := if failed then some summary.startedAt else source.runtimePipelineRunAt
    sourceTimestampMin := summary.sourceTimestampMin.or source.sourceTimestampMin
    sourceTimestampMax := summary.sourceTimestampMax.or source.sourceTimestampMax }

def updateDataSourceHealth (summary : AdapterBatchRunSummary) (db : Database) : Database :=
  { db with
    dataSources := db.dataSources.update
      (fun source =>
        if source.adapterKey = summary.adapterKey ∧
            hasNewerJob db.ingestionJobs source.adapterKey summary.startedAt = false then
          healthColumns summary source
        else source) (by
        intro source
        split <;> rfl) }

def writeSummary (summary : AdapterBatchRunSummary) (createdAt : ℤ) (db : Database) : Database :=
  updateDataSourceHealth summary
    { db with ingestionJobs := db.ingestionJobs ++ [ingestionJob summary createdAt] }

/-! ### `write_pipeline_status` -/

structure PipelineOutcome where
  adapterKeys : List String
  status : PipelineStatus
  complete : Bool
  checkedAt : ℤ
  runAt : ℤ
  activeSnapshotRawRef : Option String := none
  errorCode : Option String := none
  deriving DecidableEq

/-- The `ValueError` of an active snapshot reference that may not be stored. -/
def pipelineOutcomeError (outcome : PipelineOutcome) : Option String :=
  match outcome.activeSnapshotRawRef with
  | none => none
  | some rawRef =>
      if rawRef = "" ∨ rawRef ≠ strip rawRef ∨ 256 < rawRef.length then
        some "active snapshot raw ref must be a trimmed 1..256 value"
      else if outcome.status ≠ .succeeded ∨ outcome.complete = false then
        some "active snapshot requires a succeeded complete pipeline status"
      else none

def pipelineColumns (outcome : PipelineOutcome) (source : DataSource) : DataSource :=
  { source with
    runtimePipelineStatus := some outcome.status
    runtimePipelineCheckedAt := some outcome.checkedAt
    runtimePipelineComplete := some outcome.complete
    runtimePipelineRunAt := some outcome.runAt
    runtimePipelineErrorCode := if outcome.status = .failed then outcome.errorCode else none
    activeSnapshotRawRef := outcome.activeSnapshotRawRef.or source.activeSnapshotRawRef }

/-- The `WHERE` of the update: the stored outcome is not newer, and no job is. -/
def acceptsOutcome (db : Database) (outcome : PipelineOutcome) (source : DataSource) : Bool :=
  source.adapterKey ∈ outcome.adapterKeys &&
    source.runtimePipelineRunAt.all (· ≤ outcome.runAt) &&
    !hasNewerJob db.ingestionJobs source.adapterKey outcome.runAt

def writePipelineStatus (outcome : PipelineOutcome) (db : Database) : Except String Database :=
  if outcome.adapterKeys = [] then .ok db
  else
    match pipelineOutcomeError outcome with
    | some error => .error error
    | none =>
        .ok { db with
          dataSources := db.dataSources.update
            (fun source => if acceptsOutcome db outcome source then pipelineColumns outcome source
              else source) (by
              intro source
              split <;> rfl) }

end FloodRisk.Ingestion
