import FloodRisk.Promotion.Latest

/-!
# CAP lifecycle and boundary statements of the promotion writer (pipelines/promotion.py)

The evidence table is the memory of the warning lifecycle: a stored Update or
Cancel is the tombstone of the messages it references, and a stored message is
recognised by its canonical identity.  `official_realtime_latest` rows of
retired messages are deleted through the evidence they link to.
-/

namespace FloodRisk.Promotion

/-- `COALESCE(source.adapter_key, properties ->> 'adapter_key')`. -/
def evidenceAdapterKey (db : Database) (row : Evidence) : Option String :=
  ((db.dataSources.rows.find? (fun source => source.id = row.dataSourceId)).map
    DataSource.adapterKey).or row.properties.adapterKey

/-- Stored as current official CAP evidence with status Actual. -/
def isCurrentActualWarning (row : Evidence) : Bool :=
  row.eventType = .floodWarning && row.sourceType = .official &&
    row.properties.evidenceScope = some .current && row.properties.capStatus = some "Actual"

/-! ### Stored messages -/

/-- The row condition of `/* canonical-cap-idempotence */`. -/
def isCanonicalCapMessage (db : Database) (adapterKey : String) (own : CapTriple)
    (adminCode : Option String) (row : Evidence) : Bool :=
  evidenceAdapterKey db row = some adapterKey && isCurrentActualWarning row &&
    row.properties.capSender = some own.sender &&
    row.properties.capIdentifier = some own.identifier &&
    row.properties.capSent.map Datetime.timestamptz = some own.sent &&
    row.properties.adminCode = adminCode

def canonicalCapMessageEvidenceId (db : Database) (payload : EvidencePromotionPayload) :
    Option ℕ :=
  match payload.adapterKey, ownCapTriple payload.properties with
  | some adapterKey, some own =>
      (db.evidence.rows.find?
        (isCanonicalCapMessage db adapterKey own
          (optionalText payload.properties.adminCode))).map Evidence.id
  | _, _ => none

/-! ### Tombstones -/

/-- The `EXISTS` over `cap_references` of `/* retained-cap-tombstone */`. -/
def referenceRetires (own : CapTriple) (lifecycleSent : ℤ) (reference : CapReference) : Bool :=
  reference.exactKeys && reference.sender = some own.sender &&
    reference.identifier = some own.identifier &&
    reference.sent.map Datetime.timestamptz = some own.sent && own.sent < lifecycleSent

/-- The row condition of `/* retained-cap-tombstone */`. -/
def isCapTombstone (db : Database) (own : CapTriple) (row : Evidence) : Bool :=
  isCurrentActualWarning row &&
    (evidenceAdapterKey db row).any (· ∈ reviewedWarningAdapterKeys) &&
    isUpdateOrCancel row.properties &&
    row.properties.ingestionGenerationStartedAt.isSome &&
    match row.properties.capSent, row.properties.capReferences with
    | some sent, some references =>
        1 ≤ references.length && references.length ≤ 64 &&
          references.any (referenceRetires own sent.timestamptz)
    | _, _ => false

def capRejectionReason (now : ℤ) (db : Database) (payload : EvidencePromotionPayload) :
    Option RejectionReason :=
  match capShapeRejectionReason now payload with
  | some reason => some reason
  | none =>
      match ownCapTriple payload.properties with
      | none => none
      | some own =>
          if isAlertOrUpdate payload.properties && db.evidence.rows.any (isCapTombstone db own)
          then some .retiredCapReplay
          else none

/-! ### Retirement of referenced latest rows -/

/-- The linked evidence that `/* retire-cap-references */` accepts. -/
def isRetirableEvidence (db : Database) (references : List CapTriple) (adapterKey : String)
    (row : Evidence) : Bool :=
  isCurrentActualWarning row && isAlertOrUpdate row.properties &&
    evidenceAdapterKey db row = some adapterKey &&
    row.properties.adminCode.any (fullmatchDigits 8) &&
    match row.properties.capSender, row.properties.capIdentifier, row.properties.capSent with
    | some sender, some identifier, some sent =>
        1 ≤ (btrim sender).length && (btrim sender).length ≤ 512 &&
          1 ≤ (btrim identifier).length && (btrim identifier).length ≤ 512 &&
          references.any (· = ⟨sender, identifier, sent.timestamptz⟩)
    | _, _, _ => false

def retiredByCapReferences (db : Database) (references : List CapTriple) (generation : ℤ)
    (row : OfficialRealtimeLatest) : Bool :=
  row.eventType = .floodWarning && row.adapterKey ∈ reviewedWarningAdapterKeys &&
    (db.evidence.rows.any fun linked =>
      linked.id = row.evidenceId && isRetirableEvidence db references row.adapterKey linked) &&
    row.qualityFlags.ingestionGenerationStartedAt.any
      (fun stored => stored.timestamptz ≤ generation)

def retireCapReferences (payload : EvidencePromotionPayload) (db : Database) : Database :=
  match candidateGeneration payload with
  | none => db
  | some generation =>
      { db with
        officialRealtimeLatest := db.officialRealtimeLatest.deleteWhere
          (retiredByCapReferences db (effectfulCapReferences payload) generation) }

/-! ### Polls without an active event -/

/-- The row condition of `/* max-successful-no-active-event */`. -/
def isSuccessfulNoActiveJob (adapterKey : String) (job : IngestionJob) : Bool :=
  job.adapterKey = some adapterKey && job.status = .succeeded &&
    job.errorCode = some "no_active_event" && job.startedAt.isSome &&
    job.itemsFetched = 0 && job.itemsPromoted = 0 && job.itemsRejected = 0

def maxSuccessfulNoActiveEventGeneration (db : Database) (payload : EvidencePromotionPayload) :
    Option ℤ :=
  match payload.adapterKey with
  | none => none
  | some adapterKey =>
      if adapterKey ∈ reviewedWarningAdapterKeys && isAlertOrUpdate payload.properties then
        ((db.ingestionJobs.filter (isSuccessfulNoActiveJob adapterKey)).filterMap
          IngestionJob.startedAt).max?
      else none

/-- `_historical_warning_payload`. -/
def historicalWarningPayload (payload : EvidencePromotionPayload) (noActiveGeneration : ℤ) :
    EvidencePromotionPayload :=
  { payload with
    properties :=
      { payload.properties with
        evidenceScope := some .historical
        historicalReason := some "superseded_by_no_active_event"
        noActiveEventGenerationStartedAt := some noActiveGeneration } }

/-- The `DELETE` condition of `retire_warning_latest_for_no_active_event`. -/
def retiredByNoActiveEvent (adapterKey : String) (generation : ℤ)
    (row : OfficialRealtimeLatest) : Bool :=
  row.adapterKey = adapterKey && row.eventType = .floodWarning &&
    row.qualityFlags.ingestionGenerationStartedAt.any
      (fun stored => stored.timestamptz ≤ generation)

/-- `retire_warning_latest_for_no_active_event`; the rejected arguments raise
before the transaction opens. -/
def retireWarningLatestForNoActiveEvent (adapterKey : String) (generationStartedAt : Datetime)
    (completedAt : Datetime) (db : Database) : Except String Database :=
  if adapterKey ∉ reviewedWarningAdapterKeys then
    .error "no-active retirement requires a reviewed warning adapter"
  else
    match generationStartedAt, completedAt with
    | .aware generation, .aware completed =>
        if completed < generation then
          .error "no-active retirement completion precedes its generation"
        else
          .ok { db with
            officialRealtimeLatest := db.officialRealtimeLatest.deleteWhere
              (retiredByNoActiveEvent adapterKey generation) }
    | _, _ => .error "no-active retirement timestamps must be timezone-aware"

/-! ### Administrative areas and reviewed boundaries -/

def needsAdminAreaEnrichment (properties : Properties) : Bool :=
  (optionalText properties.county).isNone || (optionalText properties.town).isNone ||
    (optionalText properties.village).isNone

/-- A member keeps its text; a missing or blank one takes the value of the profile. -/
def fillText (stored found : Option String) : Option String :=
  match optionalText stored, optionalText found with
  | none, some text => some text
  | _, _ => stored

/-- The members both boundary look-ups set. -/
def withBoundary (properties : Properties) (boundary : Geometry) (point : List ℚ) : Properties :=
  { properties with
    locationPayload := .object (.object boundary)
    latestPointGeometry := .object (.point point)
    locationPrecision := some "admin_area" }

/-- A Polygon boundary is stored as a MultiPolygon with one member. -/
def asMultiPolygon : Geometry → Option Geometry
  | .polygon coordinates => some (.multiPolygon [coordinates])
  | .multiPolygon coordinates => some (.multiPolygon coordinates)
  | _ => none

def withReviewedNcdrWarningBoundary (env : Environment) (payload : EvidencePromotionPayload) :
    EvidencePromotionPayload :=
  let properties := payload.properties
  match optionalText properties.ncdrGeocodeProfile, optionalText properties.ncdrGeocode with
  | some profile, some geocode =>
      if profile = "Taiwan_Geocode_103" ∧ fullmatchDigits 7 geocode = true ∧
          optionalText properties.adminCode = some (geocode ++ "0") then
        match env.reviewedNcdrWarningBoundary geocode with
        | none => payload
        | some (boundary, point, county, town, snapshotId) =>
            match asMultiPolygon boundary with
            | none => payload
            | some area =>
                { payload with
                  properties :=
                    { withBoundary properties area point with
                      county := some county
                      town := some town
                      ncdrBoundarySnapshotId := some snapshotId } }
      else payload
  | _, _ => payload

def withReviewedWarningBoundary (env : Environment) (payload : EvidencePromotionPayload) :
    EvidencePromotionPayload :=
  if (geojsonGeometry payload.properties).isSome then payload
  else if payload.adapterKey = some ncdrCap then withReviewedNcdrWarningBoundary env payload
  else
    match optionalText payload.properties.adminCode with
    | none => payload
    | some adminCode =>
        if fullmatchDigits 8 adminCode then
          match env.reviewedWarningBoundary adminCode with
          | none => payload
          | some (boundary, point) =>
              match asMultiPolygon boundary with
              | none => payload
              | some area => { payload with properties := withBoundary payload.properties area point }
        else payload

def withAdminAreaEnrichment (env : Environment) (payload : EvidencePromotionPayload) :
    EvidencePromotionPayload :=
  if !shouldUpsertOfficialRealtimeLatest payload then payload
  else if payload.eventType = .floodWarning then withReviewedWarningBoundary env payload
  else if (officialRealtimeStationId payload).isNone then payload
  else if !needsAdminAreaEnrichment payload.properties then payload
  else
    match geojsonPointGeometry payload.properties with
    | none => payload
    | some point =>
        match env.adminAreaProfile point with
        | none => payload
        | some (county, town, village) =>
            { payload with
              properties :=
                { payload.properties with
                  county := fillText payload.properties.county county
                  town := fillText payload.properties.town town
                  village := fillText payload.properties.village village } }

def warningBoundaryRejectionReason (payload : EvidencePromotionPayload) :
    Option RejectionReason :=
  if isCurrentCapLifecycleCandidate payload && isAlertOrUpdate payload.properties &&
      (geojsonGeometry payload.properties).isNone then
    some .unreviewedWarningBoundary
  else none

def currentGeometryTopologyRejectionReason (env : Environment)
    (payload : EvidencePromotionPayload) : Option RejectionReason :=
  if !isCurrentCapLifecycleCandidate payload then none
  else
    match geojsonGeometry payload.properties with
    | none => none
    | some (.polygon coordinates) =>
        if env.validTopology (.polygon coordinates) then none else some .invalidGeometry
    | some (.multiPolygon coordinates) =>
        if env.validTopology (.multiPolygon coordinates) then none else some .invalidGeometry
    | some _ => some .invalidGeometry

/-- `_refresh_ncdr_latest_snapshot_marker`. -/
def refreshNcdrLatestSnapshotMarker (payload : EvidencePromotionPayload) (db : Database) :
    Database :=
  match payload.rawRef, officialRealtimeStationId payload with
  | some rawRef, some stationId =>
      if payload.adapterKey = some ncdrCap then
        { db with
          officialRealtimeLatest := db.officialRealtimeLatest.update
            (fun row =>
              if row.key = (ncdrCap, .floodWarning, stationId) then
                { row with
                  qualityFlags := { row.qualityFlags with activeSnapshotRawRef := some rawRef } }
              else row) (by
              intro row
              split <;> rfl) }
      else db
  | _, _ => db

end FloodRisk.Promotion
