import FloodRisk.Assessment.Safety
import FloodRisk.Realtime.StationReads

/-!
# Coverage of a query point (api domain/assessment/repository.py)

`load` is the part of `PostgresAssessmentRepository.load` behind the coverage,
its source states and its local gaps; the evidence reads do not enter it.
-/

namespace FloodRisk.Assessment
open Promotion Realtime

def nationalFallbackKeys : List String :=
  ["official.cwa.rainfall", "official.cwa.heavy_rain_warning", "official.wra.water_level",
    "official.wra_iow.flood_depth", "official.ncdr.cap"]

/-- `_REVIEWED_SIGNAL_CONTRACT_REVISIONS`. -/
def reviewedSignalContractRevisions : List (SignalType × String) :=
  [(.rainfall, "2026-08-24-v1-baseline"), (.waterLevel, "2026-08-24-v1-baseline"),
    (.floodDepth, "2026-08-24-v1-baseline"), (.sewerWaterLevel, "2026-08-29-sewer-publication")]

/-- `_LOCAL_POLICY`. -/
def localPolicy : List (String × Option String × String) :=
  [("67000000", some "local.tainan.flood_sensor", "臺南市地方淹水感測目前暫無可用更新"),
    ("64000000", none, "高雄市地方政府機器介面尚未核准"),
    ("10013000", none, "屏東縣地方政府機器介面尚未核准")]

def unavailableJurisdiction : RealtimeJurisdictionContext where
  resolutionStatus := .unavailable

def isReviewedContract (signalType : SignalType) (revision jurisdictionCode : String)
    (contract : RealtimeJurisdictionSignalContract) : Bool :=
  contract.jurisdictionCode = jurisdictionCode && contract.signalType = signalType &&
    contract.catalogStatus = .reviewedComplete && contract.mappingProofValid &&
    contract.mappingRevision = revision

/-- `_complete_signal_types`. -/
def completeSignalTypes (jurisdiction : RealtimeJurisdictionContext) : List SignalType :=
  if jurisdiction.consideredJurisdictions = [] then []
  else
    orderBy (fun signalType => [signalText signalType])
      ((reviewedSignalContractRevisions.filter fun entry =>
        jurisdiction.consideredJurisdictions.all fun county =>
          jurisdiction.signalContracts.any
            (isReviewedContract entry.1 entry.2 county.jurisdictionCode)).map Prod.fst)

/-- `_jurisdictions_by_adapter`. -/
def jurisdictionsByAdapter (jurisdiction : RealtimeJurisdictionContext) (adapterKey : String) :
    List String :=
  let names := (jurisdiction.sourceMappings.filter fun mapping =>
    mapping.adapterKey = adapterKey).filterMap fun mapping => mapping.jurisdictionName
  orderBy (fun name => [name]) (names.filter (· ≠ "")).dedup

def requiredAdapterKeys (jurisdiction : RealtimeJurisdictionContext) : List String :=
  (jurisdiction.sourceMappings.filter fun mapping => mapping.requirementRole = .required).map
    fun mapping => mapping.adapterKey

/-! ### Source states and local gaps -/

def sourceStateByHealth : HealthStatus → SourceState
  | .healthy => .fresh
  | .degraded => .degraded
  | .failed => .failed
  | .disabled => .disabled
  | .unknown => .stale

/-- The state of one key in `_source_states`. -/
def sourceState (sourceHealth : List NearbySourceHealth) (requiredKeys : List String)
    (adapterKey : String) : AssessmentSourceState :=
  match sourceHealth.reverse.find? fun item =>
    item.sourceId = publicRealtimeSourceId adapterKey with
  | none =>
      { sourceKey := adapterKey
        signalType := coverageSignalType "status_only" adapterKey
        state := if adapterKey ∈ requiredKeys then .disabled else .notApplicable
        reasonCode := .notYetObserved
        observedAt := none
        checkedAt := none
        message :=
          if adapterKey ∈ requiredKeys then some "必要來源尚未登錄或沒有健康紀錄。" else none }
  | some item =>
      { sourceKey := adapterKey
        signalType := item.signalTypes.headD .statusOnly
        state := sourceStateByHealth item.healthStatus
        reasonCode := item.reasonCode
        observedAt := item.observedAt
        checkedAt := item.checkedAt
        message := some item.message }

/-- `_local_machine_gaps`. -/
def localMachineGaps (jurisdiction : RealtimeJurisdictionContext)
    (sourceHealth : List NearbySourceHealth) : List String :=
  match localPolicy.lookup
    ((jurisdiction.homeJurisdiction.map Jurisdiction.jurisdictionCode).getD "") with
  | none => []
  | some (none, message) => [message]
  | some (some adapterKey, message) =>
      match sourceHealth.find? fun item => item.sourceId = publicRealtimeSourceId adapterKey with
      | some state =>
          if state.healthStatus = .healthy ∨ state.healthStatus = .degraded then [] else [message]
      | none => [message]

/-! ### `load` -/

/-- Which reads answer; the supplement is the evidence part of the station read. -/
structure ReadAvailability where
  jurisdiction : Bool := true
  stations : Bool := true
  supplement : Bool := true
  health : Bool := true

structure LoadedCoverage where
  nearbyCoverage : NearbyRealtimeCoverage
  sourceStates : List AssessmentSourceState
  requiredRealtimeSourceKeys : List String
  coverageAvailable : Bool
  healthAvailable : Bool
  jurisdictionAvailable : Bool
  resolvedAdmin : Option Jurisdiction
  localMachineFeedMissing : List String

variable {Geometry Point : Type} (geography : Geography Geometry Point)
  (tables : RealtimeTables Geometry) (available : ReadAvailability) (point : Point) (radiusM : ℕ)

/-- `_load_jurisdiction`, searched within the radius of the query. -/
def loadJurisdiction : RealtimeJurisdictionContext :=
  if available.jurisdiction then
    queryRealtimeJurisdictionContext geography tables.toJurisdictionTables point radiusM
  else unavailableJurisdiction

def applicableKeys : List String :=
  let jurisdiction := loadJurisdiction geography tables available point radiusM
  if available.jurisdiction ∧ jurisdiction.resolutionStatus = .verified then
    jurisdiction.adapterKeys
  else nationalFallbackKeys

def requiredKeys : List String :=
  if applicableKeys geography tables available point radiusM ≠ [] then
    requiredAdapterKeys (loadJurisdiction geography tables available point radiusM)
  else []

def loadStations (now : ℤ) : Option (List CoverageRead) :=
  if available.stations then
    queryNearbyRealtimeCoverageRows geography tables point available.supplement now
  else none

def loadHealth : Option (List SourceHealthRow) :=
  if available.health then
    some (queryRealtimeSourceHealthRows tables
      (orderBy (fun adapterKey => [adapterKey])
        (applicableKeys geography tables available point radiusM)))
  else none

def loadSourceHealth (asOf : ℤ) : List NearbySourceHealth :=
  buildNearbySourceHealth ((loadHealth geography tables available point radiusM).getD []) asOf
    (jurisdictionsByAdapter (loadJurisdiction geography tables available point radiusM))
    (requiredKeys geography tables available point radiusM)

/-- The arguments of the coverage that `load` builds. -/
def coverageInput (now asOf : ℤ) : CoverageInput :=
  let jurisdiction := loadJurisdiction geography tables available point radiusM
  let applicable := applicableKeys geography tables available point radiusM
  let stations := loadStations geography tables available point now
  { rows := ((stations.getD []).filter fun row => row.adapterKey ∈ applicable).map
      CoverageRead.toNearbyCoverageRow
    queryRadiusM := radiusM
    evaluatedAt := asOf
    repositoryUnavailable := stations.isNone
    sourceHealth := loadSourceHealth geography tables available point radiusM asOf
    sourceHealthUnavailable := !available.health
    sourceHealthChecked := available.health
    jurisdictionStatus := jurisdiction.resolutionStatus
    jurisdictionChecked := available.jurisdiction
    jurisdictionMappingMissing := applicable = []
    jurisdictionCompleteSignalTypes := completeSignalTypes jurisdiction
    homeJurisdiction := jurisdiction.homeJurisdiction.map Jurisdiction.jurisdictionName
    consideredJurisdictions :=
      jurisdiction.consideredJurisdictions.map Jurisdiction.jurisdictionName
    jurisdictionMappingRevisions := jurisdiction.mappingRevisions }

def load (now asOf : ℤ) : LoadedCoverage :=
  let input := coverageInput geography tables available point radiusM now asOf
  let required := requiredKeys geography tables available point radiusM
  { nearbyCoverage := buildNearbyRealtimeCoverage input
    sourceStates := (orderBy (fun adapterKey => [adapterKey])
      (applicableKeys geography tables available point radiusM)).map
        (sourceState input.sourceHealth required)
    requiredRealtimeSourceKeys := required.dedup
    coverageAvailable := !input.repositoryUnavailable
    healthAvailable := available.health
    jurisdictionAvailable := available.jurisdiction
    resolvedAdmin := (loadJurisdiction geography tables available point radiusM).homeJurisdiction
    localMachineFeedMissing :=
      localMachineGaps (loadJurisdiction geography tables available point radiusM)
        input.sourceHealth }

end FloodRisk.Assessment
