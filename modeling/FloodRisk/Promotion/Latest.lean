import FloodRisk.Promotion.Store

/-!
# Staging and latest-row statements of the promotion writer (pipelines/promotion.py)

One definition for each helper of `PostgresEvidencePromotionWriter` that reads
or writes `staging_evidence` and `official_realtime_latest`.
-/

namespace FloodRisk.Promotion

/-! ### Staging rows -/

def validatedStagingId (payload : EvidencePromotionPayload) : Option ℕ :=
  match payload.properties.stagingEvidenceId with
  | .uuid id _ => some id
  | _ => none

/-- `_staging_payload_json`: the members staged for the candidate. -/
def stagingPayload (properties : Properties) : Properties :=
  { properties with stagingEvidenceId := .absent, rawSnapshotId := none }

/-- The row that `/* authorize-staging-candidate */` selects. -/
def stagingRowAuthorizes (db : Database) (payload : EvidencePromotionPayload)
    (row : StagingEvidence) (raw : RawSnapshot) : Bool :=
  let dataSourceId := row.dataSourceId.or raw.dataSourceId
  let source := db.dataSources.rows.find? (fun source => some source.id = dataSourceId)
  row.validationStatus = .accepted &&
    dataSourceId.or (source.map DataSource.id) = payload.dataSourceId &&
    row.sourceId = some payload.sourceId &&
    row.sourceType = payload.sourceType &&
    row.eventType = payload.eventType &&
    row.occurredAt = payload.occurredAt.map Datetime.timestamptz &&
    row.observedAt = payload.observedAt.map Datetime.timestamptz &&
    row.title = payload.title &&
    row.summary = payload.summary &&
    row.url = payload.url &&
    row.confidence = some payload.confidence &&
    (row.payload.adapterKey.or (some raw.adapterKey)).or (source.map DataSource.adapterKey) =
      payload.adapterKey &&
    some raw.rawRef = payload.rawRef &&
    row.rawSnapshotId = payload.properties.rawSnapshotId &&
    row.payload = stagingPayload payload.properties

/-- `_authorize_staging_candidate`: `none` when the payload names no staging row. -/
def authorizeStagingCandidate (db : Database) (payload : EvidencePromotionPayload) :
    Option Bool :=
  match payload.properties.stagingEvidenceId with
  | .absent => none
  | .invalid => some false
  | .uuid id _ =>
      match db.stagingEvidence.find id with
      | none => some false
      | some row =>
          match db.rawSnapshots.rows.find? (fun raw => some raw.id = row.rawSnapshotId) with
          | none => some false
          | some raw => some (stagingRowAuthorizes db payload row raw)

def rejectStagingRow (reason : RejectionReason) (row : StagingEvidence) : StagingEvidence :=
  if row.validationStatus = .accepted then
    { row with validationStatus := .rejected, rejectionReason := some reason.text }
  else row

theorem rejectStagingRow_id (reason : RejectionReason) (row : StagingEvidence) :
    (rejectStagingRow reason row).id = row.id := by
  unfold rejectStagingRow
  split <;> rfl

def rejectRows (ids : List ℕ) (reason : RejectionReason) (staging : StagingTable) :
    StagingTable :=
  staging.update (fun row => if row.id ∈ ids then rejectStagingRow reason row else row) (by
    intro row
    split
    · exact rejectStagingRow_id reason row
    · rfl)

/-- `UPDATE staging_evidence SET validation_status = 'rejected' WHERE id = ANY(ids)`. -/
def rejectStagingRows (ids : List ℕ) (reason : RejectionReason) (db : Database) : Database :=
  { db with stagingEvidence := rejectRows ids reason db.stagingEvidence }

def terminallyRejectStaging (payload : EvidencePromotionPayload) (reason : RejectionReason)
    (authorized : Bool) (db : Database) : Database :=
  if authorized then
    match validatedStagingId payload with
    | none => db
    | some id => rejectStagingRows [id] reason db
  else db

def stagingEvidenceWasAlreadyUsed (db : Database) (payload : EvidencePromotionPayload) : Bool :=
  match validatedStagingId payload with
  | none => false
  | some id =>
      db.evidence.rows.any (fun row => row.properties.stagingEvidenceId = .uuid id true)

/-! ### Latest rows -/

def officialRealtimeRiskFactor (payload : EvidencePromotionPayload) : Option ℚ :=
  let properties := payload.properties
  match payload.eventType with
  | .rainfall =>
      properties.rainfallMm1h.map fun rainfall =>
        if rainfall ≥ 80 then 1 else if rainfall ≥ 40 then 7 / 10
        else if rainfall ≥ 20 then 35 / 100 else if rainfall ≥ 10 then 15 / 100 else 0
  | .waterLevel =>
      match properties.waterLevelM, properties.warningLevelM with
      | some waterLevel, some warningLevel =>
          if warningLevel ≤ 0 then none
          else
            let ratio := waterLevel / warningLevel
            some (if ratio ≥ 1 then 1 else if ratio ≥ 8 / 10 then 8 / 10
              else if ratio ≥ 5 / 10 then 5 / 10 else if ratio ≥ 25 / 100 then 25 / 100 else 0)
      | _, _ => none
  | .floodReport =>
      properties.floodDepthCm.map fun depth =>
        if depth ≥ 50 then 1 else if depth ≥ 30 then 8 / 10
        else if depth ≥ 15 then 5 / 10 else if depth ≥ 3 then 25 / 100 else 0
  | .floodWarning => some 1
  | _ => none

/-- `_quality_flags`; adapters never stage a `quality_flags` member of their own. -/
def qualityFlags (properties : Properties) (rawRef : Option String) : QualityFlags where
  locationPrecision := properties.locationPrecision.filter (· ≠ "")
  activeFrom := properties.activeFrom
  activeUntil := properties.activeUntil
  ingestionGenerationStartedAt := properties.ingestionGenerationStartedAt
  activeSnapshotRawRef := rawRef
  capMessageDigest := ownCapTriple properties

/-- `ST_GeomFromGeoJSON` of a Point. -/
def pointPosition : Geometry → Option Position
  | .point [longitude, latitude] => some (longitude, latitude)
  | _ => none

/-- The row that `_upsert_official_realtime_latest` proposes: none without a
station id or a point. -/
def latestRow (payload : EvidencePromotionPayload) (evidenceId : ℕ) :
    Option OfficialRealtimeLatest := do
  let stationId ← officialRealtimeStationId payload
  let geom ← (geojsonPointGeometry payload.properties).bind pointPosition
  let adapterKey ← payload.adapterKey
  let observedAt ← payload.observedAt.map Datetime.timestamptz
  let properties := payload.properties
  some
    { sourceId := payload.sourceId
      adapterKey := adapterKey
      eventType := payload.eventType
      stationId := stationId
      stationName := optionalText properties.stationName
      authority := optionalText properties.authority
      observedAt := observedAt
      geom := geom
      rainfallMm1h := properties.rainfallMm1h
      rainfallMm24h := properties.rainfallMm24h
      waterLevelM := properties.waterLevelM
      floodDepthCm := properties.floodDepthCm
      warningLevelM := properties.warningLevelM
      confidence := payload.confidence
      freshnessScore := properties.freshnessScore
      sourceWeight := properties.sourceWeight
      riskFactor := officialRealtimeRiskFactor payload
      evidenceId := evidenceId
      sourceUrl := optionalText properties.sourceUrl
      attribution := optionalText properties.attribution
      qualityFlags := qualityFlags properties
        (if payload.adapterKey = some ncdrCap then payload.rawRef else none) }

/-- The `WHERE EXCLUDED.observed_at > official_realtime_latest.observed_at`
of the upsert. -/
def observedAfter (excluded stored : OfficialRealtimeLatest) : Bool :=
  excluded.observedAt > stored.observedAt

def upsertOfficialRealtimeLatest (payload : EvidencePromotionPayload) (evidenceId : ℕ)
    (db : Database) : Database :=
  match latestRow payload evidenceId with
  | none => db
  | some row =>
      { db with
        officialRealtimeLatest := db.officialRealtimeLatest.upsertWhen observedAfter row }

/-- The `DELETE` condition of `_retire_inactive_station_latest`. -/
def retiredByInactiveStation (payload : EvidencePromotionPayload)
    (row : OfficialRealtimeLatest) : Bool :=
  if isMetadataInactiveStationCandidate payload then
    match row.qualityFlags.ingestionGenerationStartedAt, candidateGeneration payload with
    | some stored, some generation => stored.timestamptz ≤ generation
    | none, _ => true
    | _, none => false
  else
    payload.observedAt.any (fun observedAt => row.observedAt ≤ observedAt.timestamptz)

def retireInactiveStationLatest (payload : EvidencePromotionPayload) (db : Database) :
    Database :=
  match officialRealtimeStationId payload with
  | none => db
  | some stationId =>
      if isMetadataInactiveStationCandidate payload && (candidateGeneration payload).isNone then
        db
      else
        { db with
          officialRealtimeLatest := db.officialRealtimeLatest.deleteWhere fun row =>
            some row.adapterKey = payload.adapterKey && row.eventType = payload.eventType &&
              row.stationId = stationId && retiredByInactiveStation payload row }

/-! ### The decision against the stored row -/

/-- `_latest_row_fingerprint` and `_candidate_latest_fingerprint`. -/
structure LatestFingerprint where
  eventType : EventType
  stationId : StationId
  rainfallMm1h : Option ℚ
  rainfallMm24h : Option ℚ
  waterLevelM : Option ℚ
  floodDepthCm : Option ℚ
  warningLevelM : Option ℚ
  geometry : Option (ℤ × ℤ)
  observedAt : ℤ
  deriving DecidableEq

def latestRowFingerprint (env : Environment) (row : OfficialRealtimeLatest) :
    LatestFingerprint :=
  let printed := env.asGeoJson row.geom
  { eventType := row.eventType
    stationId := row.stationId
    rainfallMm1h := row.rainfallMm1h
    rainfallMm24h := row.rainfallMm24h
    waterLevelM := row.waterLevelM
    floodDepthCm := row.floodDepthCm
    warningLevelM := row.warningLevelM
    geometry := roundedGeometry (some (.point [printed.1, printed.2]))
    observedAt := row.observedAt }

def candidateLatestFingerprint (payload : EvidencePromotionPayload) (stationId : StationId)
    (observedAt : ℤ) : LatestFingerprint :=
  { eventType := payload.eventType
    stationId := stationId
    rainfallMm1h := payload.properties.rainfallMm1h
    rainfallMm24h := payload.properties.rainfallMm24h
    waterLevelM := payload.properties.waterLevelM
    floodDepthCm := payload.properties.floodDepthCm
    warningLevelM := payload.properties.warningLevelM
    geometry := roundedGeometry (geojsonPointGeometry payload.properties)
    observedAt := observedAt }

inductive LatestDecision where
  | insert | historicalOnly | update | idempotent | conflict
  deriving DecidableEq, Repr

/-- The comparison with the row `/* latest-decision */` reads. -/
def compareWithStored (env : Environment) (payload : EvidencePromotionPayload)
    (stationId : StationId) (observedAt : ℤ) : Option OfficialRealtimeLatest → LatestDecision
  | none => .insert
  | some row =>
      if observedAt < row.observedAt then .historicalOnly
      else if observedAt > row.observedAt then .update
      else if latestRowFingerprint env row =
          candidateLatestFingerprint payload stationId observedAt then .idempotent
      else .conflict

def classifyLatestDecision (env : Environment) (db : Database)
    (payload : EvidencePromotionPayload) : LatestDecision :=
  match officialRealtimeStationId payload, payload.adapterKey, payload.observedAt with
  | some stationId, some adapterKey, some observedAt =>
      compareWithStored env payload stationId observedAt.timestamptz
        (db.officialRealtimeLatest.find (adapterKey, payload.eventType, stationId))
  | _, _, _ => .historicalOnly

/-! ### The central and the local flood sensors -/

def StationId.text : StationId → String
  | .station text => text
  | .cap adminCode _ => "cap:" ++ adminCode

/-- First row in the order of `station_id`. -/
def firstByStationId : List OfficialRealtimeLatest → Option OfficialRealtimeLatest
  | [] => none
  | row :: rest =>
      match firstByStationId rest with
      | none => some row
      | some other => if row.stationId.text ≤ other.stationId.text then some row else some other

/-- The parameters of `/* exact-central-local-duplicate */`. -/
structure DuplicateProbe where
  peerAdapterKey : String
  localCandidate : Bool
  observedAt : ℤ
  stationId : StationId
  point : Position
  floodDepthCm : ℚ

/-- `(peer_adapter_key, local_candidate)`. -/
def duplicatePeer (payload : EvidencePromotionPayload) : Option (String × Bool) :=
  if payload.adapterKey = some tainanFloodSensor then some (wraIowFloodDepth, true)
  else if payload.adapterKey = some wraIowFloodDepth then some (tainanFloodSensor, false)
  else none

def duplicateProbe (payload : EvidencePromotionPayload) : Option DuplicateProbe :=
  if payload.eventType ≠ .floodReport then none
  else do
    let observed ← payload.observedAt
    let peer ← duplicatePeer payload
    let stationId ← officialRealtimeStationId payload
    let point ← (geojsonPointGeometry payload.properties).bind pointPosition
    let floodDepthCm ← payload.properties.floodDepthCm
    some ⟨peer.1, peer.2, observed.timestamptz, stationId, point, floodDepthCm⟩

def isExactDuplicate (env : Environment) (probe : DuplicateProbe)
    (row : OfficialRealtimeLatest) : Bool :=
  row.adapterKey = probe.peerAdapterKey && row.eventType = .floodReport &&
    row.observedAt = probe.observedAt && row.floodDepthCm = some probe.floodDepthCm &&
    (row.stationId = probe.stationId || env.withinDuplicateDistance row.geom probe.point)

/-- The `DELETE` of the local peer row. -/
def isReplacedLocal (probe : DuplicateProbe) (peer row : OfficialRealtimeLatest) : Bool :=
  row.adapterKey = probe.peerAdapterKey && row.eventType = .floodReport &&
    row.stationId = peer.stationId && row.observedAt = probe.observedAt &&
    row.floodDepthCm = some probe.floodDepthCm

/-- The rows the query matches, before `ORDER BY station_id LIMIT 1`. -/
def exactDuplicates (env : Environment) (payload : EvidencePromotionPayload) (db : Database) :
    List OfficialRealtimeLatest :=
  match duplicateProbe payload with
  | none => []
  | some probe => db.officialRealtimeLatest.rows.filter (isExactDuplicate env probe)

inductive DuplicateDecision where
  | duplicateCentral | replacedLocal
  deriving DecidableEq, Repr

def handleExactCentralLocalDuplicate (env : Environment) (payload : EvidencePromotionPayload)
    (db : Database) : Option DuplicateDecision × Database :=
  match duplicateProbe payload, firstByStationId (exactDuplicates env payload db) with
  | some probe, some peer =>
      if probe.localCandidate then (some .duplicateCentral, db)
      else
        (some .replacedLocal,
          { db with
            officialRealtimeLatest :=
              db.officialRealtimeLatest.deleteWhere (isReplacedLocal probe peer) })
  | _, _ => (none, db)

end FloodRisk.Promotion
