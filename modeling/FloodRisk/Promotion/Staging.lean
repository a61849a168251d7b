import FloodRisk.Promotion.Write
import Mathlib.Data.List.Sort

/-!
# Staging and the promotion loop (pipelines/postgres_writer.py, pipelines/promotion.py)

`writeBatch` stores one poll, `fetchAcceptedStaging` reads back the rows that
are ready for promotion and `promoteAcceptedStaging` runs the batched writer
over their payloads in chunks.
-/

namespace FloodRisk.Promotion

/-- The database whose catalogue lists the adapters and nothing else. -/
def catalogued (adapterKeys : List String) : Database where
  dataSources := (adapterKeys.zipIdx.map fun entry =>
      { id := entry.2, adapterKey := entry.1 }).foldl
    (fun (sources : Table DataSource.adapterKey) source =>
      sources.upsertWhen (fun _ _ => false) source) Table.empty
  rawSnapshots := Table.empty
  stagingEvidence := Table.empty
  evidence := Table.empty
  officialRealtimeLatest := Table.empty
  ingestionJobs := []

/-- Empty boundary and profile tables, exact geometry and no near points. -/
def bareEnvironment : Environment where
  validTopology _ := true
  withinDuplicateDistance _ _ := false
  asGeoJson := id
  reviewedWarningBoundary _ := none
  reviewedNcdrWarningBoundary _ := none
  adminAreaProfile _ := none

/-! ### `PostgresStagingBatchWriter.write_batch` -/

structure StagingEvidenceUpsert where
  adapterKey : String
  sourceId : String
  sourceType : SourceType
  eventType : EventType
  title : String := ""
  summary : String := ""
  url : Option String := none
  occurredAt : ℤ
  observedAt : ℤ
  confidence : ℚ := 0
  validationStatus : ValidationStatus := .accepted
  rejectionReason : Option String := none
  payload : Properties
  deriving DecidableEq

/-- One poll: the raw snapshot and its accepted and rejected items. -/
structure AdapterStagingBatch where
  adapterKey : String
  rawRef : String
  accepted : List StagingEvidenceUpsert
  rejected : List StagingEvidenceUpsert := []

def dataSourceIdOf (db : Database) (adapterKey : String) : Option ℕ :=
  (db.dataSources.find adapterKey).map DataSource.id

/-- `_upsert_raw_snapshot`: the stored id and adapter key survive a conflict. -/
def upsertRawSnapshot (batch : AdapterStagingBatch) (db : Database) : ℕ × Database :=
  match db.rawSnapshots.find batch.rawRef with
  | some stored =>
      (stored.id,
        { db with
          rawSnapshots := db.rawSnapshots.update
            (fun row =>
              if row.rawRef = batch.rawRef then
                { row with
                  dataSourceId := (dataSourceIdOf db batch.adapterKey).or row.dataSourceId }
              else row) (by
              intro row
              split <;> rfl) })
  | none =>
      let id := freshId (db.rawSnapshots.rows.map RawSnapshot.id)
      (id,
        { db with
          rawSnapshots := db.rawSnapshots.upsertWhen (fun _ _ => false)
            ⟨id, dataSourceIdOf db batch.adapterKey, batch.adapterKey, batch.rawRef⟩ })

def insertStagingEvidence (rawSnapshotId : ℕ) (db : Database) (item : StagingEvidenceUpsert) :
    Database :=
  { db with
    stagingEvidence := db.stagingEvidence.upsertWhen (fun _ _ => false)
      { id := freshId (db.stagingEvidence.rows.map StagingEvidence.id)
        rawSnapshotId := some rawSnapshotId
        dataSourceId := dataSourceIdOf db item.adapterKey
        sourceId := some item.sourceId
        sourceType := item.sourceType
        eventType := item.eventType
        title := item.title
        summary := item.summary
        url := item.url
        occurredAt := some item.occurredAt
        observedAt := some item.observedAt
        confidence := some item.confidence
        validationStatus := item.validationStatus
        rejectionReason := item.rejectionReason
        payload := { item.payload with adapterKey := some item.adapterKey } } }

def writeBatch (batch : AdapterStagingBatch) (db : Database) : Database :=
  let (rawSnapshotId, stored) := upsertRawSnapshot batch db
  (batch.accepted ++ batch.rejected).foldl (insertStagingEvidence rawSnapshotId) stored

/-- A CAP message of one reviewed area, with its boundary, as an adapter stages it. -/
def warningItem (adapterKey identifier : String) (sent generation : ℤ)
    (messageType : CapMessageType) (references : List CapReference) : StagingEvidenceUpsert where
  adapterKey := adapterKey
  sourceId := "cap:" ++ identifier
  sourceType := .official
  eventType := .floodWarning
  occurredAt := sent
  observedAt := sent
  payload :=
    { evidenceScope := some .current
      ingestionGenerationStartedAt := some (.aware generation)
      locationPayload := .object (.object
        (.polygon [[[121, 25], [122, 25], [122, 26], [121, 25]]]))
      latestPointGeometry := .object (.point [121 + 1 / 2, 25 + 1 / 4])
      adminCode := some "67000000"
      capSender := some "cwa"
      capIdentifier := some identifier
      capSent := some (.aware sent)
      capStatus := some "Actual"
      capMessageType := some messageType
      capReferences := some references
      activeFrom := some (.aware 0)
      activeUntil := some (.aware 100000) }

/-! ### `fetch_accepted_staging` -/

/-- The raw snapshot that the fetch joins; without `raw_refs` the join is outer. -/
def rawSnapshotOf (db : Database) (row : StagingEvidence) : Option RawSnapshot :=
  db.rawSnapshots.rows.find? (fun raw => some raw.id = row.rawSnapshotId)

/-- `WHERE` of `_accepted_staging_sql`. -/
def isReadyForPromotion (db : Database) (adapterKeys rawRefs : Option (List String))
    (row : StagingEvidence) : Bool :=
  let raw := rawSnapshotOf db row
  let rawRef := raw.map RawSnapshot.rawRef
  row.validationStatus = .accepted &&
    (adapterKeys.all fun keys =>
      (row.payload.adapterKey.or (raw.map RawSnapshot.adapterKey)).any (· ∈ keys)) &&
    (rawRefs.all fun refs => rawRef.any (· ∈ refs)) &&
    !(db.evidence.rows.any fun evidence =>
      some evidence.sourceId = row.sourceId && evidence.rawRef = rawRef)

/-- The payload `build_evidence_promotion_payload` makes of a fetched row. -/
def candidatePayload (db : Database) (row : StagingEvidence) : EvidencePromotionPayload :=
  let raw := rawSnapshotOf db row
  let catalogued := (row.payload.adapterKey.or (raw.map RawSnapshot.adapterKey)).bind
    (dataSourceIdOf db)
  { dataSourceId := (row.dataSourceId.or (raw.bind RawSnapshot.dataSourceId)).or catalogued
    adapterKey := row.payload.adapterKey.filter (· ≠ "")
    sourceId := row.sourceId.getD "None"
    sourceType := row.sourceType
    eventType := row.eventType
    title := row.title
    summary := row.summary
    url := row.url
    occurredAt := row.occurredAt.map .aware
    observedAt := row.observedAt.map .aware
    confidence := row.confidence.getD 0
    rawRef := raw.map RawSnapshot.rawRef
    properties :=
      { row.payload with
        stagingEvidenceId := .uuid row.id true
        rawSnapshotId := row.rawSnapshotId } }

/-- `ORDER BY source_id, raw_ref`; nulls come last. -/
def precedes (first second : EvidencePromotionPayload) : Prop :=
  first.sourceId < second.sourceId ∨
    (first.sourceId = second.sourceId ∧
      match first.rawRef, second.rawRef with
      | some left, some right => left ≤ right
      | _, none => True
      | none, some _ => False)

instance : DecidableRel precedes := by
  intro first second
  unfold precedes
  cases first.rawRef <;> cases second.rawRef <;> infer_instance

/-- `DISTINCT ON (source_id, raw_ref)` keeps the earliest staged row. -/
def distinctOn : List (String × Option String) → List EvidencePromotionPayload →
    List EvidencePromotionPayload
  | _, [] => []
  | seen, payload :: rest =>
      if (payload.sourceId, payload.rawRef) ∈ seen then distinctOn seen rest
      else payload :: distinctOn ((payload.sourceId, payload.rawRef) :: seen) rest

def fetchAcceptedStaging (limit : Option ℕ) (adapterKeys rawRefs : Option (List String))
    (db : Database) : List EvidencePromotionPayload :=
  let ready := db.stagingEvidence.rows.filter (isReadyForPromotion db adapterKeys rawRefs)
  let ordered := (distinctOn [] (ready.map (candidatePayload db))).insertionSort precedes
  limit.elim ordered (fun count => ordered.take count)

/-! ### `promote_accepted_staging` -/

def defaultPromotionBatchSize : ℕ := 100

/-- The chunks of a promotion, each with the clock reading of its transactions. -/
def promoteChunks (env : Environment) : List (ℤ × List EvidencePromotionPayload) → Database →
    List (Option ℕ) × Database
  | [], db => ([], db)
  | (now, chunk) :: rest, db =>
      let (results, next) := writeEvidenceBatch env now chunk db
      let (others, final) := promoteChunks env rest next
      (results ++ others, final)

def chunksOf (size : ℕ) : ℕ → List EvidencePromotionPayload →
    List (List EvidencePromotionPayload)
  | 0, _ => []
  | _ + 1, [] => []
  | fuel + 1, payloads => payloads.take size :: chunksOf size fuel (payloads.drop size)

def promoteAcceptedStaging (env : Environment) (now : ℤ) (limit : Option ℕ)
    (adapterKeys rawRefs : Option (List String)) (db : Database) : List ℕ × Database :=
  let payloads := fetchAcceptedStaging limit adapterKeys rawRefs db
  let chunks := chunksOf defaultPromotionBatchSize payloads.length payloads
  let (results, final) := promoteChunks env (chunks.map fun chunk => (now, chunk)) db
  (results.filterMap id, final)

end FloodRisk.Promotion
