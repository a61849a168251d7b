import FloodRisk.Lib.Table
import FloodRisk.Promotion.Payload

/-!
# The tables of the worker (infra/migrations 0002, 0010, 0018, 0057, 0062)

Only the columns that the modelled statements read or write are kept; the
unique constraints of the schema are the keys of the tables.  Generated ids
are natural numbers, `freshId` is a value no stored row carries.
-/

namespace FloodRisk.Promotion

inductive ValidationStatus where
  | pending | accepted | rejected | quarantined
  deriving DecidableEq, Repr

inductive HealthStatus where
  | healthy | degraded | failed | disabled | unknown
  deriving DecidableEq, Repr

inductive PipelineStatus where
  | succeeded | failed
  deriving DecidableEq, Repr

structure DataSource where
  id : ℕ
  adapterKey : String
  lastSuccessAt : Option ℤ := none
  lastFailureAt : Option ℤ := none
  healthStatus : HealthStatus := .unknown
  runtimePipelineStatus : Option PipelineStatus := none
  runtimePipelineCheckedAt : Option ℤ := none
  runtimePipelineComplete : Option Bool := none
  runtimePipelineRunAt : Option ℤ := none
  runtimePipelineErrorCode : Option String := none
  sourceTimestampMin : Option ℤ := none
  sourceTimestampMax : Option ℤ := none
  /-- `metadata ->> 'active_snapshot_raw_ref'`. -/
  activeSnapshotRawRef : Option String := none
  deriving DecidableEq

structure RawSnapshot where
  id : ℕ
  dataSourceId : Option ℕ
  adapterKey : String
  rawRef : String
  deriving DecidableEq

structure StagingEvidence where
  id : ℕ
  rawSnapshotId : Option ℕ
  dataSourceId : Option ℕ
  sourceId : Option String
  sourceType : SourceType
  eventType : EventType
  title : String
  summary : String
  url : Option String
  occurredAt : Option ℤ
  observedAt : Option ℤ
  confidence : Option ℚ
  validationStatus : ValidationStatus
  rejectionReason : Option String
  payload : Properties
  deriving DecidableEq

structure Evidence where
  id : ℕ
  dataSourceId : ℕ
  sourceId : String
  sourceType : SourceType
  eventType : EventType
  title : String
  summary : String
  url : Option String
  occurredAt : Option ℤ
  observedAt : Option ℤ
  confidence : ℚ
  geometry : Option Geometry
  rawRef : Option String
  properties : Properties
  deriving DecidableEq

/-- `official_realtime_latest.quality_flags`. -/
structure QualityFlags where
  locationPrecision : Option String := none
  activeFrom : Option Datetime := none
  activeUntil : Option Datetime := none
  ingestionGenerationStartedAt : Option Datetime := none
  activeSnapshotRawRef : Option String := none
  capMessageDigest : Option CapTriple := none
  deriving DecidableEq

structure OfficialRealtimeLatest where
  sourceId : String
  adapterKey : String
  eventType : EventType
  stationId : StationId
  stationName : Option String
  authority : Option String
  observedAt : ℤ
  geom : Position
  rainfallMm1h : Option ℚ
  rainfallMm24h : Option ℚ
  waterLevelM : Option ℚ
  floodDepthCm : Option ℚ
  warningLevelM : Option ℚ
  confidence : ℚ
  freshnessScore : Option ℚ
  sourceWeight : Option ℚ
  riskFactor : Option ℚ
  evidenceId : ℕ
  sourceUrl : Option String
  attribution : Option String
  qualityFlags : QualityFlags
  deriving DecidableEq

inductive JobStatus where
  | queued | running | succeeded | failed | skipped | disabled
  deriving DecidableEq, Repr

structure IngestionJob where
  adapterKey : Option String
  startedAt : Option ℤ
  finishedAt : Option ℤ
  createdAt : ℤ
  status : JobStatus
  itemsFetched : ℕ
  itemsPromoted : ℕ
  itemsRejected : ℕ
  errorCode : Option String
  errorMessage : Option String
  sourceTimestampMin : Option ℤ
  sourceTimestampMax : Option ℤ
  deriving DecidableEq

/-- The primary key of `official_realtime_latest`. -/
abbrev LatestKey := String × EventType × StationId

def OfficialRealtimeLatest.key (row : OfficialRealtimeLatest) : LatestKey :=
  (row.adapterKey, row.eventType, row.stationId)

/-- The columns of `evidence_source_raw_ref_unique` (nulls not distinct). -/
def Evidence.sourceRawRef (row : Evidence) : String × Option String :=
  (row.sourceId, row.rawRef)

abbrev StagingTable := Table StagingEvidence.id

structure Database where
  dataSources : Table DataSource.adapterKey
  rawSnapshots : Table RawSnapshot.rawRef
  stagingEvidence : StagingTable
  evidence : Table Evidence.sourceRawRef
  officialRealtimeLatest : Table OfficialRealtimeLatest.key
  ingestionJobs : List IngestionJob

/-- What the worker asks PostGIS and the reviewed boundary and profile tables,
none of which a promotion writes. -/
structure Environment where
  /-- `NOT ST_IsEmpty(geom) AND ST_IsValid(geom)`. -/
  validTopology : Geometry → Bool
  /-- `ST_DWithin(.., .., 150)`. -/
  withinDuplicateDistance : Position → Position → Bool
  /-- The coordinates `ST_AsGeoJSON` prints for a stored point. -/
  asGeoJson : Position → Position
  /-- Boundary and point on surface of an active reviewed jurisdiction. -/
  reviewedWarningBoundary : String → Option (Geometry × List ℚ)
  /-- Boundary, point, county, town and snapshot id of a reviewed NCDR area. -/
  reviewedNcdrWarningBoundary :
    String → Option (Geometry × List ℚ × String × String × String)
  /-- County, town and village of the smallest profile that covers a point. -/
  adminAreaProfile : Geometry → Option (Option String × Option String × Option String)

def freshId (ids : List ℕ) : ℕ := ids.foldr max 0 + 1

theorem le_foldr_max {ids : List ℕ} {id : ℕ} (h : id ∈ ids) : id ≤ ids.foldr max 0 := by
  induction ids with
  | nil => simp at h
  | cons first rest ih =>
      rcases List.mem_cons.mp h with rfl | hrest
      · exact le_max_left _ _
      · exact (ih hrest).trans (le_max_right _ _)

theorem freshId_not_mem (ids : List ℕ) : freshId ids ∉ ids := by
  intro h
  have hle := le_foldr_max h
  simp only [freshId] at hle
  omega

end FloodRisk.Promotion
