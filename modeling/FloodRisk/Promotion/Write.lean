import FloodRisk.Promotion.Cap

/-!
# The promotion transaction (pipelines/promotion.py:267-693)

`writeEvidenceTransaction` is `_write_evidence_transaction` in the order of the
source; every branch ends in one commit (or, when the staging authorisation
fails, in a rollback).  The advisory locks make a transaction atomic with
respect to every other transaction on the same warning lifecycle, station or
observation time, so the database after it is a function of the database
before it.
-/

namespace FloodRisk.Promotion

/-- The catalogue row of `resolved_candidate`. -/
def resolvedDataSource (db : Database) (payload : EvidencePromotionPayload) :
    Option DataSource :=
  match payload.dataSourceId with
  | some id => db.dataSources.rows.find? (fun source => source.id = id)
  | none => payload.adapterKey.bind db.dataSources.find

def evidenceRow (payload : EvidencePromotionPayload) (source : DataSource) (id : ℕ) : Evidence where
  id := id
  dataSourceId := source.id
  sourceId := payload.sourceId
  sourceType := payload.sourceType
  eventType := payload.eventType
  title := payload.title
  summary := payload.summary
  url := payload.url
  occurredAt := payload.occurredAt.map Datetime.timestamptz
  observedAt := payload.observedAt.map Datetime.timestamptz
  confidence := payload.confidence
  geometry := geojsonGeometry payload.properties
  rawRef := payload.rawRef
  properties := payload.properties

/-- The outcome of the evidence insert. -/
inductive EvidenceInsert where
  | sourceCatalogMissing
  | alreadyStored
  | inserted (id : ℕ) (db : Database)

def insertEvidence (payload : EvidencePromotionPayload) (db : Database) : EvidenceInsert :=
  match resolvedDataSource db payload with
  | none => .sourceCatalogMissing
  | some source =>
      let id := freshId (db.evidence.rows.map Evidence.id)
      match db.evidence.insertNew (evidenceRow payload source id) with
      | none => .alreadyStored
      | some evidence => .inserted id { db with evidence := evidence }

/-- Lines 317-368: the lifecycle checks that settle a CAP candidate before
anything is inserted, with the reason written to its staging row. -/
def settleCapCandidate (env : Environment) (now : ℤ) (payload : EvidencePromotionPayload)
    (db : Database) : Option (RejectionReason × Database) :=
  if !isCurrentCapLifecycleCandidate payload then none
  else
    match capRejectionReason now db payload with
    | some reason => some (reason, db)
    | none =>
        match canonicalCapMessageEvidenceId db payload with
        | none => none
        | some evidenceId =>
            if payload.adapterKey = some ncdrCap then
              let enriched := withAdminAreaEnrichment env payload
              match warningBoundaryRejectionReason enriched with
              | some reason => some (reason, db)
              | none =>
                  if isAlertOrUpdate enriched.properties &&
                      shouldUpsertOfficialRealtimeLatest enriched then
                    some (.idempotentExistingCapMessage,
                      refreshNcdrLatestSnapshotMarker enriched
                        (upsertOfficialRealtimeLatest enriched evidenceId db))
                  else some (.idempotentExistingCapMessage, db)
            else some (.idempotentExistingCapMessage, db)

/-- The generation of the no-active poll that keeps an Alert or Update out of
the latest table (lines 369-383). -/
def blockingNoActiveGeneration (payload : EvidencePromotionPayload) (db : Database) : Option ℤ :=
  if isCurrentCapLifecycleCandidate payload then
    match maxSuccessfulNoActiveEventGeneration db payload, candidateGeneration payload with
    | some noActive, some generation =>
        if generation ≤ noActive && isAlertOrUpdate payload.properties then some noActive
        else none
    | _, _ => none
  else none

/-- `promote_latest` after the no-active check. -/
def promotesLatest (payload : EvidencePromotionPayload) (db : Database) : Bool :=
  shouldUpsertOfficialRealtimeLatest payload && (blockingNoActiveGeneration payload db).isNone

def duplicateDecision (env : Environment) (payload : EvidencePromotionPayload) (db : Database) :
    Option DuplicateDecision × Database :=
  if promotesLatest payload db then handleExactCentralLocalDuplicate env payload db
  else (none, db)

/-- `decision`, taken on the table after the duplicate handling. -/
def latestDecision (env : Environment) (payload : EvidencePromotionPayload) (db : Database) :
    LatestDecision :=
  if promotesLatest payload db && payload.eventType ≠ .floodWarning then
    classifyLatestDecision env (duplicateDecision env payload db).2 payload
  else .insert

def weightedPayload (env : Environment) (payload : EvidencePromotionPayload) (db : Database) :
    EvidencePromotionPayload :=
  let enriched := withAdminAreaEnrichment env payload
  match blockingNoActiveGeneration payload db with
  | some noActive => historicalWarningPayload enriched noActive
  | none => enriched

/-- Retire the references of a stored Update or Cancel, then publish the row
(lines 559-573).  The flags are those of the source. -/
def publishEvidence (weighted : EvidencePromotionPayload)
    (capLifecycleCandidate blockedByNoActiveEvent promoteLatest : Bool) (evidenceId : ℕ)
    (db : Database) : Database :=
  let retired :=
    if capLifecycleCandidate && !blockedByNoActiveEvent &&
        isUpdateOrCancel weighted.properties then
      retireCapReferences weighted db
    else db
  if promoteLatest && weighted.properties.capMessageType ≠ some .cancel &&
      shouldUpsertOfficialRealtimeLatest weighted then
    upsertOfficialRealtimeLatest weighted evidenceId retired
  else retired

/-- Lines 406-573: enrich, insert the evidence row and publish it; `working`
is the database after the duplicate handling. -/
def insertAndPublish (env : Environment) (payload : EvidencePromotionPayload)
    (authorized promoteLatest : Bool) (db working : Database) : Option ℕ × Database :=
  match warningBoundaryRejectionReason (withAdminAreaEnrichment env payload) with
  | some reason => (none, terminallyRejectStaging payload reason authorized working)
  | none =>
      let weighted := weightedPayload env payload db
      match insertEvidence weighted working with
      | .sourceCatalogMissing =>
          (none, terminallyRejectStaging payload .sourceCatalogMissing authorized working)
      | .alreadyStored =>
          (none, terminallyRejectStaging payload .idempotentExistingEvidence authorized working)
      | .inserted evidenceId stored =>
          (some evidenceId,
            publishEvidence weighted (isCurrentCapLifecycleCandidate payload)
              (blockingNoActiveGeneration payload db).isSome promoteLatest evidenceId stored)

/-- Lines 369-573: everything after the CAP lifecycle checks. -/
def promoteCandidate (env : Environment) (payload : EvidencePromotionPayload)
    (authorized : Bool) (db : Database) : Option ℕ × Database :=
  let working := (duplicateDecision env payload db).2
  if (duplicateDecision env payload db).1 = some .duplicateCentral then
    (none, terminallyRejectStaging payload .duplicateCentral authorized working)
  else
    match latestDecision env payload db with
    | .idempotent =>
        (none, terminallyRejectStaging payload .idempotentExistingObservation authorized working)
    | .conflict => (none, terminallyRejectStaging payload .conflictingLatest authorized working)
    | .historicalOnly => insertAndPublish env payload authorized false db working
    | _ => insertAndPublish env payload authorized (promotesLatest payload db) db working

/-- Lines 310-368 and after, for a candidate that passed its own checks. -/
def decideCandidate (env : Environment) (now : ℤ) (payload : EvidencePromotionPayload)
    (authorized : Bool) (db : Database) : Option ℕ × Database :=
  if authorized && stagingEvidenceWasAlreadyUsed db payload then (none, db)
  else
    match settleCapCandidate env now payload db with
    | some (reason, settled) => (none, terminallyRejectStaging payload reason authorized settled)
    | none => promoteCandidate env payload authorized db

/-- The reason a candidate is rejected before any table is consulted. -/
def candidateRejectionReason (env : Environment) (now : ℤ)
    (payload : EvidencePromotionPayload) : Option RejectionReason :=
  (currentCandidateRejectionReason now payload).or
    (currentGeometryTopologyRejectionReason env payload)

def writeEvidenceTransaction (env : Environment) (now : ℤ) (payload : EvidencePromotionPayload)
    (db : Database) : Option ℕ × Database :=
  let authorization := authorizeStagingCandidate db payload
  if authorization = some false then (none, db)
  else
    let authorized : Bool := authorization = some true
    match candidateRejectionReason env now payload with
    | some reason =>
        let retired :=
          if reason = .inactiveStation && authorized then retireInactiveStationLatest payload db
          else db
        (none, terminallyRejectStaging payload reason authorized retired)
    | none => decideCandidate env now payload authorized db

def writeEvidence (env : Environment) (now : ℤ) (payload : EvidencePromotionPayload)
    (db : Database) : Option ℕ × Database :=
  writeEvidenceTransaction env now payload db

/-! ### The batched path -/

/-- `_batch_idempotent_station_key`, with the observation time it found. -/
def batchIdempotentStationKey (now : ℤ) (payload : EvidencePromotionPayload) :
    Option (LatestKey × ℤ) :=
  if isCurrentCapLifecycleCandidate payload then none
  else if payload.eventType = .floodWarning then none
  else if !shouldUpsertOfficialRealtimeLatest payload then none
  else if (currentCandidateRejectionReason now payload).isSome then none
  else
    match officialRealtimeStationId payload, payload.adapterKey, payload.observedAt with
    | some stationId, some adapterKey, some observedAt =>
        some ((adapterKey, payload.eventType, stationId), observedAt.timestamptz)
    | _, _, _ => none

/-- Whether `_settle_unchanged_observations` retires the candidate: the latest
row read for the chunk has its fingerprint and the staging row authorises it. -/
def isUnchangedObservation (env : Environment) (now : ℤ) (db : Database)
    (payload : EvidencePromotionPayload) : Bool :=
  match batchIdempotentStationKey now payload with
  | none => false
  | some (key, observedAt) =>
      match db.officialRealtimeLatest.find key with
      | none => false
      | some row =>
          latestRowFingerprint env row = candidateLatestFingerprint payload key.2.2 observedAt &&
            authorizeStagingCandidate db payload = some true

/-- The candidates `keyed` holds: the first payload of each staging id that has
a station key. -/
def keyedPayloads (now : ℤ) : List EvidencePromotionPayload → List ℕ →
    List (ℕ × EvidencePromotionPayload)
  | [], _ => []
  | payload :: rest, seen =>
      match validatedStagingId payload with
      | none => keyedPayloads now rest seen
      | some id =>
          if id ∈ seen ∨ (batchIdempotentStationKey now payload).isNone then
            keyedPayloads now rest seen
          else (id, payload) :: keyedPayloads now rest (id :: seen)

/-- The staging ids that `_settle_unchanged_observations` retires. -/
def settledStagingIds (env : Environment) (now : ℤ) (db : Database)
    (payloads : List EvidencePromotionPayload) : List ℕ :=
  ((keyedPayloads now payloads []).filter
    (fun keyed => isUnchangedObservation env now db keyed.2)).map Prod.fst

def settleUnchangedObservations (env : Environment) (now : ℤ)
    (payloads : List EvidencePromotionPayload) (db : Database) : List ℕ × Database :=
  let settled := settledStagingIds env now db payloads
  (settled, rejectStagingRows settled .idempotentExistingObservation db)

/-- The per-row transactions of `write_evidence_batch`, each committed on its own. -/
def writeUnsettled (env : Environment) (now : ℤ) (settled : List ℕ) :
    List EvidencePromotionPayload → Database → List (Option ℕ) × Database
  | [], db => ([], db)
  | payload :: rest, db =>
      if (validatedStagingId payload).any (· ∈ settled) then
        let (results, final) := writeUnsettled env now settled rest db
        (none :: results, final)
      else
        let (result, next) := writeEvidenceTransaction env now payload db
        let (results, final) := writeUnsettled env now settled rest next
        (result :: results, final)

def writeEvidenceBatch (env : Environment) (now : ℤ) (payloads : List EvidencePromotionPayload)
    (db : Database) : List (Option ℕ) × Database :=
  let (settled, prepared) := settleUnchangedObservations env now payloads db
  writeUnsettled env now settled payloads prepared

end FloodRisk.Promotion
