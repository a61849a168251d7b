import FloodRisk.Ingestion.ManagedCycle
import FloodRisk.Promotion.Reruns

/-!
# Overlapping cycles and a complete-replace source

A poll of a source in the mode `complete_replace` is staged under a raw
reference derived from its content.  A cycle stages its polls, promotes them
one transaction after the other and then stores the reference of an eligible
poll in `data_sources.metadata`, which is what the nearby evidence query shows
of the source.  Every commit of every cycle is a step of its own here.
-/

namespace FloodRisk.Ingestion
open Promotion Transition

/-! ### Polls (pipelines/staging.py, jobs/ingestion.py:365-467) -/

/-- `raw/{adapter_path}/{content_hash}.json`. -/
def snapshotRawRef (adapterKey digest : String) : String :=
  "raw/" ++ adapterKey.map (fun c => if c = '.' then '/' else c) ++ "/" ++ digest ++ ".json"

/-- What `_to_staging_upsert` makes of a record of a historical source. -/
structure IsSnapshotItem (adapterKey : String) (item : StagingEvidenceUpsert) : Prop where
  adapterKey : item.adapterKey = adapterKey
  status : item.validationStatus = .accepted
  historical : item.payload.evidenceScope = some .historical
  stagingEvidenceId : item.payload.stagingEvidenceId = .absent
  rawSnapshotId : item.payload.rawSnapshotId = none

/-- A source in the mode `complete_replace`.  The records with one digest are
the same records: `accepted` and `rejected` are what they normalise to, up to
the generation of the poll. -/
structure SnapshotSource where
  adapterKey : String
  keyed : adapterKey ≠ ""
  accepted : String → List StagingEvidenceUpsert
  rejected : String → List StagingEvidenceUpsert
  acceptedItems : ∀ digest, ∀ item ∈ accepted digest, IsSnapshotItem adapterKey item
  rejectedItems : ∀ digest, ∀ item ∈ rejected digest, item.validationStatus = .rejected

structure SnapshotPoll where
  digest : String
  startedAt : ℤ
  finishedAt : ℤ
  itemsFetched : ℕ
  rejectedRawSourceIds : ℕ
  sourceTimestampMin : Option ℤ
  sourceTimestampMax : Option ℤ

/-- `COMPLETE_REPLACE_MIN_VALID_FRACTION` is 0.75. -/
def snapshotActivationEligible (accepted rejected rejectedRawSourceIds : ℕ) : Bool :=
  accepted ≠ 0 && rejected = 0 && 3 * (accepted + rejectedRawSourceIds) ≤ 4 * accepted

namespace SnapshotSource

variable (source : SnapshotSource)

def rawRef (digest : String) : String := snapshotRawRef source.adapterKey digest

def sourceIds (digest : String) : List String :=
  (source.accepted digest).map StagingEvidenceUpsert.sourceId

def batch (poll : SnapshotPoll) : AdapterStagingBatch where
  adapterKey := source.adapterKey
  rawRef := source.rawRef poll.digest
  accepted := (source.accepted poll.digest).map fun item =>
    { item with
      payload :=
        { item.payload with ingestionGenerationStartedAt := some (.aware poll.startedAt) } }
  rejected := source.rejected poll.digest

/-- `_summary_from_result`. -/
def summary (poll : SnapshotPoll) : AdapterBatchRunSummary :=
  let accepted := (source.accepted poll.digest).length
  let rejected := (source.rejected poll.digest).length
  let itemsRejected := rejected + poll.rejectedRawSourceIds
  { adapterKey := source.adapterKey
    status := if itemsRejected = 0 then .succeeded else .partialBatch
    startedAt := poll.startedAt
    finishedAt := poll.finishedAt
    itemsFetched := poll.itemsFetched
    itemsPromoted := accepted
    itemsRejected := itemsRejected
    snapshotGenerationMode := some .completeReplace
    snapshotActivationEligible :=
      snapshotActivationEligible accepted rejected poll.rejectedRawSourceIds
    rawRef := some (source.rawRef poll.digest)
    sourceTimestampMin := poll.sourceTimestampMin
    sourceTimestampMax := poll.sourceTimestampMax }

end SnapshotSource

/-- A poll of another source; its raw references lie under its own path. -/
structure OtherPoll (source : SnapshotSource) where
  batch : AdapterStagingBatch
  summary : AdapterBatchRunSummary
  elsewhere : ∀ digest, batch.rawRef ≠ source.rawRef digest
  otherKey : summary.adapterKey ≠ source.adapterKey

inductive CyclePoll (source : SnapshotSource) where
  | snapshot (poll : SnapshotPoll)
  | other (poll : OtherPoll source)

def CyclePoll.batch {source : SnapshotSource} : CyclePoll source → AdapterStagingBatch
  | .snapshot poll => source.batch poll
  | .other poll => poll.batch

def CyclePoll.summary {source : SnapshotSource} : CyclePoll source → AdapterBatchRunSummary
  | .snapshot poll => source.summary poll
  | .other poll => poll.summary

/-! ### Cycles -/

/-- A cycle collects its polls, then works through the chunks of one promotion
call; `current` is what is left of the chunk whose settling has committed. -/
inductive CyclePhase where
  | collecting
  | promoting (targets : List String) (chunks : List (List EvidencePromotionPayload))
      (current : List EvidencePromotionPayload)

structure CycleState where
  summaries : List AdapterBatchRunSummary := []
  phase : CyclePhase := .collecting

structure CycleSystem where
  db : Database
  cycles : ℕ → Option CycleState

/-- A status write that leaves the active reference of the source alone. -/
def LeavesReference (adapterKey : String) : StatusWrite → Prop
  | .summary _ _ => True
  | .outcome outcome =>
      outcome.activeSnapshotRawRef = none ∨ adapterKey ∉ outcome.adapterKeys

/-- One commit of a cycle, or its beginning and its end.  A crash and a failure
stop the cycle; a retried promotion fetches again. -/
inductive CycleAction (source : SnapshotSource) where
  | begin (cycle : ℕ)
  | stage (cycle : ℕ) (poll : CyclePoll source)
  | report (write : StatusWrite) (leaves : LeavesReference source.adapterKey write)
  | retire (adapterKey : String) (generationStartedAt completedAt : Datetime)
  | fetch (cycle : ℕ) (targets : List String)
  | settle (cycle : ℕ) (now : ℤ)
  | write (cycle : ℕ) (now : ℤ)
  | activate (cycle : ℕ) (summary : AdapterBatchRunSummary) (checkedAt : ℤ)
  | stop (cycle : ℕ)

/-- `current_raw_refs` of a cycle. -/
def currentRawRefs (summaries : List AdapterBatchRunSummary) (targets : List String) :
    List String :=
  (summaries.filter fun summary => summary.adapterKey ∈ targets &&
    (summary.status = .succeeded || summary.status = .partialBatch)).filterMap
      AdapterBatchRunSummary.rawRef

/-- The outcome `_record_pipeline_status_for_adapter_keys` writes for a batch
that did not fail. -/
def successOutcome (summary : AdapterBatchRunSummary) (checkedAt : ℤ) : PipelineOutcome where
  adapterKeys := [summary.adapterKey]
  status := .succeeded
  complete := true
  checkedAt := checkedAt
  runAt := summary.startedAt
  activeSnapshotRawRef := activeSnapshotRawRef summary

namespace CycleSystem

variable (s : CycleSystem)

def set (cycle : ℕ) (state : Option CycleState) (db : Database) : CycleSystem where
  db := db
  cycles := Function.update s.cycles cycle state

def fetch (cycle : ℕ) (targets : List String) : CycleSystem :=
  match s.cycles cycle with
  | none => s
  | some state =>
      let rawRefs := currentRawRefs state.summaries targets
      if rawRefs = [] then s
      else
        let payloads := fetchAcceptedStaging none (some targets) (some rawRefs) s.db
        let chunks := chunksOf defaultPromotionBatchSize payloads.length payloads
        s.set cycle (some { state with phase := .promoting targets chunks [] }) s.db

def stage {source : SnapshotSource} (cycle : ℕ) (poll : CyclePoll source) : CycleSystem :=
  match s.cycles cycle with
  | some ⟨summaries, .collecting⟩ =>
      s.set cycle (some ⟨summaries ++ [poll.summary], .collecting⟩) (writeBatch poll.batch s.db)
  | _ => s

def settle (env : Environment) (cycle : ℕ) (now : ℤ) : CycleSystem :=
  match s.cycles cycle with
  | some ⟨summaries, .promoting targets (chunk :: chunks) []⟩ =>
      let settled := settleUnchangedObservations env now chunk s.db
      let current := chunk.filter fun payload => !isSettled settled.1 payload
      s.set cycle (some ⟨summaries, .promoting targets chunks current⟩) settled.2
  | _ => s

def write (env : Environment) (cycle : ℕ) (now : ℤ) : CycleSystem :=
  match s.cycles cycle with
  | some ⟨summaries, .promoting targets chunks (payload :: current)⟩ =>
      s.set cycle (some ⟨summaries, .promoting targets chunks current⟩)
        (writeStep env s.db (now, payload))
  | _ => s

def activate (cycle : ℕ) (summary : AdapterBatchRunSummary) (checkedAt : ℤ) : CycleSystem :=
  match s.cycles cycle with
  | some ⟨summaries, .promoting targets [] []⟩ =>
      if summary ∈ summaries ∧ summary.adapterKey ∈ targets ∧ summary.status ≠ .failed then
        { s with db := statusStep s.db (.outcome (successOutcome summary checkedAt)) }
      else s
  | _ => s

def retire (adapterKey : String) (generationStartedAt completedAt : Datetime) : CycleSystem :=
  match retireWarningLatestForNoActiveEvent adapterKey generationStartedAt completedAt s.db with
  | .ok db => { s with db := db }
  | .error _ => s

end CycleSystem

def cycleStep {source : SnapshotSource} (env : Environment) (s : CycleSystem) :
    CycleAction source → CycleSystem
  | .begin cycle => s.set cycle (some {}) s.db
  | .stage cycle poll => s.stage cycle poll
  | .report write _ => { s with db := statusStep s.db write }
  | .retire adapterKey generationStartedAt completedAt =>
      s.retire adapterKey generationStartedAt completedAt
  | .fetch cycle targets => s.fetch cycle targets
  | .settle cycle now => s.settle env cycle now
  | .write cycle now => s.write env cycle now
  | .activate cycle summary checkedAt => s.activate cycle summary checkedAt
  | .stop cycle => s.set cycle none s.db

/-! ### What the nearby evidence query shows (evidence/repository.py:459-465) -/

/-- `NULLIF(metadata ->> 'active_snapshot_raw_ref', '')`. -/
def activeReference (adapterKey : String) (db : Database) : Option String :=
  (db.dataSources.find adapterKey).bind fun source =>
    source.activeSnapshotRawRef.filter (· ≠ "")

def visibleSnapshot (adapterKey : String) (db : Database) : List Evidence :=
  match db.dataSources.find adapterKey with
  | none => []
  | some source =>
      db.evidence.rows.filter fun stored =>
        stored.dataSourceId = source.id && stored.rawRef.isSome &&
          stored.rawRef = activeReference adapterKey db

/-- Nothing staged, nothing promoted and no reference stored. -/
structure IsFresh (adapterKey : String) (s : CycleSystem) : Prop where
  rawSnapshots : s.db.rawSnapshots.rows = []
  stagingEvidence : s.db.stagingEvidence.rows = []
  evidence : s.db.evidence.rows = []
  inactive : activeReference adapterKey s.db = none
  idle : ∀ cycle, s.cycles cycle = none

end FloodRisk.Ingestion
