import FloodRisk.Values

/-!
# Promotion payloads (pipelines/promotion.py, adapters/cap_identity.py)

The candidate that `write_evidence` receives and every decision the writer
takes from the candidate alone.  JSON members are stored as the code reads
them: a missing or unusable number is `none`, a timestamp member is the result
of `parse_datetime`, and `remainder` is the canonical JSON of the members that
no function below reads.
-/

namespace FloodRisk.Promotion

inductive EventType where
  | rainfall | waterLevel | floodWarning | floodPotential | floodReport | statusOnly
  | roadClosure | discussion
  deriving DecidableEq, Repr

inductive SourceType where
  | official | news | forum | social | userReport | derived
  deriving DecidableEq, Repr

inductive EvidenceScope where
  | current | historical | context
  deriving DecidableEq, Repr

inductive CapMessageType where
  | alert | update | cancel
  deriving DecidableEq, Repr

/-- One element of `cap_references`; `exactKeys` says that it is an object with
exactly the members sender, identifier and sent. -/
structure CapReference where
  exactKeys : Bool
  sender : Option String
  identifier : Option String
  sent : Option Datetime
  deriving DecidableEq

/-- The identity `cap_message_digest` hashes: the digest of a message is
represented by the triple itself. -/
structure CapTriple where
  sender : String
  identifier : String
  sent : ℤ
  deriving DecidableEq

/-- `staging_evidence_id`: `canonical` says that the text is the lower-case
hyphenated spelling that Postgres prints. -/
inductive StagingEvidenceId where
  | absent
  | invalid
  | uuid (id : ℕ) (canonical : Bool)
  deriving DecidableEq

structure Properties where
  adapterKey : Option String := none
  evidenceScope : Option EvidenceScope := none
  stagingEvidenceId : StagingEvidenceId := .absent
  rawSnapshotId : Option ℕ := none
  ingestionGenerationStartedAt : Option Datetime := none
  latestPointGeometry : JsonObject Geometry := .absent
  locationPayload : JsonObject (JsonObject Geometry) := .absent
  locationPrecision : Option String := none
  stationId : Option String := none
  stationName : Option String := none
  authority : Option String := none
  sourceUrl : Option String := none
  attribution : Option String := none
  county : Option String := none
  town : Option String := none
  village : Option String := none
  rainfallMm1h : Option ℚ := none
  rainfallMm24h : Option ℚ := none
  waterLevelM : Option ℚ := none
  floodDepthCm : Option ℚ := none
  warningLevelM : Option ℚ := none
  freshnessScore : Option ℚ := none
  sourceWeight : Option ℚ := none
  metadataStationEnabled : Option Bool := none
  realtimeStationEnabled : Option Bool := none
  adminCode : Option String := none
  capSender : Option String := none
  capIdentifier : Option String := none
  capSent : Option Datetime := none
  capStatus : Option String := none
  capMessageType : Option CapMessageType := none
  capReferences : Option (List CapReference) := none
  activeFrom : Option Datetime := none
  activeUntil : Option Datetime := none
  expired : Bool := false
  ncdrGeocodeProfile : Option String := none
  ncdrGeocode : Option String := none
  ncdrBoundarySnapshotId : Option String := none
  historicalReason : Option String := none
  noActiveEventGenerationStartedAt : Option ℤ := none
  remainder : String := ""
  deriving DecidableEq

structure EvidencePromotionPayload where
  dataSourceId : Option ℕ
  adapterKey : Option String
  sourceId : String
  sourceType : SourceType
  eventType : EventType
  title : String := ""
  summary : String := ""
  url : Option String := none
  occurredAt : Option Datetime := none
  observedAt : Option Datetime
  confidence : ℚ := 0
  rawRef : Option String
  properties : Properties
  deriving DecidableEq

inductive RejectionReason where
  | inactiveStation | invalidObservationTime | futureObservation | invalidPointGeometry
  | invalidGeometry | inactiveCapWindow | invalidCapLifecycle | invalidCapIdentity
  | invalidIngestionGeneration | retiredCapReplay | idempotentExistingCapMessage
  | unreviewedWarningBoundary | duplicateCentral | idempotentExistingObservation
  | conflictingLatest | sourceCatalogMissing | idempotentExistingEvidence
  deriving DecidableEq, Repr

/-- The text stored in `staging_evidence.rejection_reason`. -/
def RejectionReason.text : RejectionReason → String
  | .inactiveStation => "inactive_station"
  | .invalidObservationTime => "invalid_observation_time"
  | .futureObservation => "future_observation"
  | .invalidPointGeometry => "invalid_point_geometry"
  | .invalidGeometry => "invalid_geometry"
  | .inactiveCapWindow => "inactive_cap_window"
  | .invalidCapLifecycle => "invalid_cap_lifecycle"
  | .invalidCapIdentity => "invalid_cap_identity"
  | .invalidIngestionGeneration => "invalid_ingestion_generation"
  | .retiredCapReplay => "retired_cap_replay"
  | .idempotentExistingCapMessage => "idempotent_existing_cap_message"
  | .unreviewedWarningBoundary => "unreviewed_warning_boundary"
  | .duplicateCentral => "duplicate_central"
  | .idempotentExistingObservation => "idempotent_existing_observation"
  | .conflictingLatest => "conflicting_latest"
  | .sourceCatalogMissing => "source_catalog_missing"
  | .idempotentExistingEvidence => "idempotent_existing_evidence"

/-! ### Reviewed adapters -/

def cwaHeavyRainWarning : String := "official.cwa.heavy_rain_warning"
def ncdrCap : String := "official.ncdr.cap"
def wraIowFloodDepth : String := "official.wra_iow.flood_depth"
def tainanFloodSensor : String := "local.tainan.flood_sensor"

def reviewedWarningAdapterKeys : List String := [cwaHeavyRainWarning, ncdrCap]

def reviewedOfficialRealtimeAdapterEvents : List (String × EventType) :=
  [("official.cwa.rainfall", .rainfall),
    ("official.cwa.tide_level", .waterLevel),
    ("official.wra.water_level", .waterLevel),
    (wraIowFloodDepth, .floodReport),
    ("official.civil_iot.flood_sensor", .floodReport),
    ("official.civil_iot.river_water_level", .waterLevel),
    ("official.civil_iot.pond_water_level", .waterLevel),
    ("official.civil_iot.sewer_water_level", .waterLevel),
    ("official.civil_iot.pump_water_level", .waterLevel),
    ("official.civil_iot.gate_water_level", .waterLevel),
    (tainanFloodSensor, .floodReport),
    (cwaHeavyRainWarning, .floodWarning),
    (ncdrCap, .floodWarning)]

/-- Membership of `(payload.adapter_key, payload.event_type)` in a set of pairs. -/
def adapterEventIn (pairs : List (String × EventType)) (payload : EvidencePromotionPayload) :
    Bool :=
  match payload.adapterKey with
  | none => false
  | some key => (key, payload.eventType) ∈ pairs

def isReviewedCurrentCandidate (payload : EvidencePromotionPayload) : Bool :=
  payload.sourceType = .official && payload.properties.evidenceScope = some .current &&
    adapterEventIn reviewedOfficialRealtimeAdapterEvents payload

def shouldUpsertOfficialRealtimeLatest (payload : EvidencePromotionPayload) : Bool :=
  isReviewedCurrentCandidate payload && payload.observedAt.isSome

def isCurrentCapLifecycleCandidate (payload : EvidencePromotionPayload) : Bool :=
  payload.sourceType = .official && payload.properties.evidenceScope = some .current &&
    adapterEventIn [(cwaHeavyRainWarning, .floodWarning), (ncdrCap, .floodWarning)] payload

/-- `properties.get("cap_message_type") in {"Alert", "Update"}`. -/
def isAlertOrUpdate (properties : Properties) : Bool :=
  properties.capMessageType = some .alert || properties.capMessageType = some .update

/-- `properties.get("cap_message_type") in {"Update", "Cancel"}`. -/
def isUpdateOrCancel (properties : Properties) : Bool :=
  properties.capMessageType = some .update || properties.capMessageType = some .cancel

/-! ### CAP identity -/

def capTriple (sender identifier : Option String) (sent : Option Datetime) : Option CapTriple :=
  match sender, identifier, awareInstant sent with
  | some senderValue, some identifierValue, some instant =>
      if strip senderValue = "" ∨ (strip senderValue).length > 512 ∨
          strip identifierValue = "" ∨ (strip identifierValue).length > 512 then none
      else some ⟨strip senderValue, strip identifierValue, instant⟩
  | _, _, _ => none

def ownCapTriple (properties : Properties) : Option CapTriple :=
  capTriple properties.capSender properties.capIdentifier properties.capSent

def capReferenceTriple (reference : CapReference) : Option CapTriple :=
  if reference.exactKeys then capTriple reference.sender reference.identifier reference.sent
  else none

/-- `_cap_reference_triples`; the sorted tuple is read as a set. -/
def capReferenceTriples : Option (List CapReference) → Option (List CapTriple)
  | none => none
  | some references =>
      if references.all (fun reference => (capReferenceTriple reference).isSome) then
        let canonical := (references.filterMap capReferenceTriple).dedup
        if canonical.length > 64 then none else some canonical
      else none

/-- `_effectful_cap_references`. -/
def effectfulCapReferences (payload : EvidencePromotionPayload) : List CapTriple :=
  match ownCapTriple payload.properties, capReferenceTriples payload.properties.capReferences with
  | some own, some references => references.filter (fun reference => reference.sent < own.sent)
  | _, _ => []

/-! ### Station identity -/

inductive StationId where
  | station (text : String)
  | cap (adminCode : String) (message : CapTriple)
  deriving DecidableEq

def isAlphanumeric (c : Char) : Bool :=
  ('A' ≤ c && c ≤ 'Z') || ('a' ≤ c && c ≤ 'z') || ('0' ≤ c && c ≤ '9')

/-- `_looks_like_station_id`: one alphanumeric character, or 3 to 32
characters that start and end with one. -/
def looksLikeStationId (candidate : String) : Bool :=
  let characters := candidate.toList
  let inner := characters.tail.dropLast
  characters.all (fun c => isAlphanumeric c || c == '_' || c == '-') &&
    (match characters.head?, characters.getLast? with
      | some first, some last => isAlphanumeric first && isAlphanumeric last
      | _, _ => false) &&
    (characters.length == 1 || (1 ≤ inner.length && inner.length ≤ 30)) &&
    characters.any (fun c => ('0' ≤ c && c ≤ '9') || ('A' ≤ c && c ≤ 'Z'))

/-- One round of `_station_id_from_source_id`. -/
def stationIdBefore (separator : Char) (sourceId : String) : Option String :=
  if separator ∈ sourceId.toList then
    let candidate := strip (String.ofList (sourceId.toList.takeWhile (· != separator)))
    if looksLikeStationId candidate then some candidate else none
  else none

def stationIdFromSourceId (sourceId : String) : Option String :=
  (stationIdBefore ':' sourceId).or
    ((stationIdBefore '|' sourceId).or (stationIdBefore '@' sourceId))

def canFallbackStationId (payload : EvidencePromotionPayload) : Bool :=
  adapterEventIn
    [("official.cwa.rainfall", .rainfall), ("official.wra.water_level", .waterLevel),
      ("official.civil_iot.flood_sensor", .floodReport)] payload

def warningStationId (properties : Properties) : Option StationId :=
  match optionalText properties.adminCode, optionalText properties.capSender,
      optionalText properties.capIdentifier, awareInstant properties.capSent with
  | some adminCode, some sender, some identifier, some sent =>
      if fullmatchDigits 8 adminCode then some (.cap adminCode ⟨sender, identifier, sent⟩)
      else none
  | _, _, _, _ => none

def officialRealtimeStationId (payload : EvidencePromotionPayload) : Option StationId :=
  if payload.eventType = .floodWarning then warningStationId payload.properties
  else
    match optionalText payload.properties.stationId with
    | some stationId => some (.station stationId)
    | none =>
        if canFallbackStationId payload then
          (stationIdFromSourceId payload.sourceId).map .station
        else none

/-! ### Geometry of the payload -/

def geojsonGeometry (properties : Properties) : Option Geometry :=
  match properties.locationPayload with
  | .object (.object geometry) => some geometry
  | _ => none

def geojsonPointGeometry (properties : Properties) : Option Geometry :=
  match properties.latestPointGeometry with
  | .object (.point coordinates) => some (.point coordinates)
  | _ =>
      match geojsonGeometry properties with
      | some (.point coordinates) => some (.point coordinates)
      | _ => none

def explicitGeometryRejectionReason (payload : EvidencePromotionPayload) :
    Option RejectionReason :=
  let properties := payload.properties
  let latestPointRejected :=
    match properties.latestPointGeometry with
    | .absent => false
    | .notObject => true
    | .object point => !validWgs84Point point
  if latestPointRejected then some .invalidPointGeometry
  else
    match properties.locationPayload with
    | .absent => none
    | .notObject => some .invalidGeometry
    | .object .absent => none
    | .object .notObject => some .invalidGeometry
    | .object (.object geometry) =>
        if isCurrentCapLifecycleCandidate payload then
          if !validWgs84AreaGeometry geometry then some .invalidGeometry
          else if isAlertOrUpdate properties && properties.latestPointGeometry = .absent then
            some .invalidPointGeometry
          else none
        else
          match geometry with
          | .point coordinates =>
              if (wgs84Position coordinates).isSome then none else some .invalidPointGeometry
          | _ => some .invalidGeometry

/-! ### Rejections decided from the candidate and the clock -/

def isMetadataInactiveStationCandidate (payload : EvidencePromotionPayload) : Bool :=
  payload.adapterKey = some tainanFloodSensor && payload.eventType = .floodReport &&
    payload.properties.metadataStationEnabled = some false

def isRealtimeInactiveStationCandidate (payload : EvidencePromotionPayload) : Bool :=
  payload.adapterKey = some tainanFloodSensor && payload.eventType = .floodReport &&
    payload.properties.realtimeStationEnabled = some false

/-- The generation of a candidate, `none` unless it is timezone-aware. -/
def candidateGeneration (payload : EvidencePromotionPayload) : Option ℤ :=
  awareInstant payload.properties.ingestionGenerationStartedAt

def currentCandidateRejectionReason (now : ℤ) (payload : EvidencePromotionPayload) :
    Option RejectionReason :=
  if !isReviewedCurrentCandidate payload then none
  else if isMetadataInactiveStationCandidate payload then some .inactiveStation
  else
    match awareInstant payload.observedAt with
    | none => some .invalidObservationTime
    | some observedAt =>
        if payload.occurredAt.isSome && (awareInstant payload.occurredAt).isNone then
          some .invalidObservationTime
        else if observedAt > (candidateGeneration payload).getD now + fifteenMinutes then
          some .futureObservation
        else if isRealtimeInactiveStationCandidate payload then some .inactiveStation
        else explicitGeometryRejectionReason payload

def isExpiredCap (properties : Properties) : Bool :=
  properties.expired ||
    optionalText properties.capStatus ∈ [some "expired", some "cancelled", some "canceled"]

/-- The part of `_cap_rejection_reason` that needs no table. -/
def capShapeRejectionReason (now : ℤ) (payload : EvidencePromotionPayload) :
    Option RejectionReason :=
  let properties := payload.properties
  if isExpiredCap properties then some .inactiveCapWindow
  else if properties.capStatus ≠ some "Actual" ∨ properties.capMessageType = none then
    some .invalidCapLifecycle
  else
    match ownCapTriple properties with
    | none => some .invalidCapIdentity
    | some own =>
        let adminCode := optionalText properties.adminCode
        if isAlertOrUpdate properties && !adminCode.any (fullmatchDigits 8) then
          some .invalidCapIdentity
        else if properties.capMessageType = some .cancel &&
            !adminCode.all (fullmatchDigits 8) then
          some .invalidCapIdentity
        else
          match capReferenceTriples properties.capReferences with
          | none => some .invalidCapLifecycle
          | some references =>
              if isUpdateOrCancel properties &&
                  !references.any (fun reference => reference.sent < own.sent) then
                some .invalidCapLifecycle
              else if candidateGeneration payload = none then some .invalidIngestionGeneration
              else if isAlertOrUpdate properties then
                match awareInstant properties.activeFrom, awareInstant properties.activeUntil with
                | some activeFrom, some activeUntil =>
                    if activeFrom ≤ now ∧ now < activeUntil then none
                    else some .inactiveCapWindow
                | _, _ => some .inactiveCapWindow
              else none

end FloodRisk.Promotion
