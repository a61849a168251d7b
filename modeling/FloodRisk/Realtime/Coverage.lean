import FloodRisk.Lib.Rounding
import FloodRisk.Realtime.SourceHealth
import Mathlib.Data.List.MinMax

/-!
# Nearby realtime coverage (api domain/realtime/nearby_coverage.py)

`buildNearbyRealtimeCoverage` is `build_nearby_realtime_coverage` with the
helpers it calls.  Distances are metres.
-/

namespace FloodRisk.Realtime
open Promotion

/-! ### Rows and sources -/

inductive FreshnessState where
  | fresh | degraded | stale
  deriving DecidableEq, Repr

structure NearbyCoverageRow where
  adapterKey : String
  sourceId : String
  eventType : String
  stationId : Option String := none
  observedAt : Option ℤ
  distanceToQueryM : ℚ
  freshnessState : FreshnessState
  rainfallMm1h : Option ℚ := none
  waterLevelM : Option ℚ := none
  warningLevelM : Option ℚ := none
  floodDepthCm : Option ℚ := none
  deriving DecidableEq

structure NearbySourceHealth where
  sourceId : String
  name : String
  signalTypes : List SignalType
  healthStatus : HealthStatus
  reasonCode : HealthReason
  observedAt : Option ℤ
  checkedAt : Option ℤ
  stationCount : Option ℤ
  inventoryComplete : Bool
  jurisdictions : List String
  requiredForAbsence : Bool
  message : String
  deriving DecidableEq

def radiusBucketsM : List ℕ := [500, 1000, 3000, 5000, 10000, 15000]

/-- `RADIUS_BUCKETS_M[-1]`. -/
def coverageRadiusM : ℚ := 15000

def localCoverageRadiusM : ℚ := 5000

def requiredSignalTypes : List SignalType := [.rainfall, .waterLevel, .floodDepth]

def allSignalTypes : List SignalType :=
  requiredSignalTypes ++ [.sewerWaterLevel, .pumpOrGateStatus, .floodWarning, .statusOnly]

def signalText : SignalType → String
  | .rainfall => "rainfall"
  | .waterLevel => "water_level"
  | .floodDepth => "flood_depth"
  | .sewerWaterLevel => "sewer_water_level"
  | .pumpOrGateStatus => "pump_or_gate_status"
  | .floodWarning => "flood_warning"
  | .statusOnly => "status_only"

def signalLabel : SignalType → String
  | .rainfall => "雨量"
  | .waterLevel => "水位"
  | .floodDepth => "淹水深度"
  | .sewerWaterLevel => "下水道水位"
  | .pumpOrGateStatus => "抽水站/水門狀態"
  | .floodWarning => "淹水警戒"
  | .statusOnly => "狀態線索"

/-! ### `coverage_signal_type` -/

def adapterSignalTypes : List (String × SignalType) :=
  [("official.cwa.rainfall", .rainfall),
    ("official.cwa.tide_level", .waterLevel),
    ("official.wra.water_level", .waterLevel),
    ("official.wra_iow.flood_depth", .floodDepth),
    ("official.civil_iot.flood_sensor", .floodDepth),
    ("official.civil_iot.river_water_level", .waterLevel),
    ("official.civil_iot.pond_water_level", .waterLevel),
    ("official.civil_iot.sewer_water_level", .sewerWaterLevel),
    ("official.civil_iot.pump_water_level", .pumpOrGateStatus),
    ("official.civil_iot.gate_water_level", .pumpOrGateStatus),
    ("official.cwa.heavy_rain_warning", .floodWarning),
    ("official.ncdr.cap", .floodWarning),
    ("local.taipei.sewer_water_level", .sewerWaterLevel),
    ("local.taipei.river_water_level", .waterLevel),
    ("local.taipei.pump_station", .pumpOrGateStatus),
    ("local.new_taipei.water_level", .waterLevel),
    ("local.new_taipei.flood_sensor", .floodDepth),
    ("local.new_taipei.rainfall", .rainfall),
    ("local.new_taipei.drainage_water_level", .sewerWaterLevel),
    ("local.keelung.water_level", .waterLevel),
    ("local.keelung.flood_sensor", .floodDepth),
    ("local.keelung.rainfall", .rainfall),
    ("local.taoyuan.flood_sensor", .floodDepth),
    ("local.taoyuan.water_level", .waterLevel),
    ("local.taoyuan.rainfall", .rainfall),
    ("local.hsinchu_city.sewer_water_level", .sewerWaterLevel),
    ("local.hsinchu_city.flood_sensor", .floodDepth),
    ("local.hsinchu_county.flood_sensor", .floodDepth),
    ("local.miaoli.flood_sensor", .floodDepth),
    ("local.taichung.water_level", .waterLevel),
    ("local.changhua.flood_sensor", .floodDepth),
    ("local.nantou.sewer_water_level", .sewerWaterLevel),
    ("local.yunlin.water_level", .waterLevel),
    ("local.chiayi_city.water_level", .waterLevel),
    ("local.chiayi_city.rainfall", .rainfall),
    ("local.chiayi_county.flood_sensor", .floodDepth),
    ("local.tainan.flood_sensor", .floodDepth),
    ("local.kaohsiung.sewer_water_level", .sewerWaterLevel),
    ("local.kaohsiung.flood_sensor", .floodDepth),
    ("local.kaohsiung.rainfall", .rainfall),
    ("local.pingtung.flood_sensor", .floodDepth),
    ("local.yilan.flood_sensor", .floodDepth),
    ("local.yilan.water_level", .waterLevel),
    ("local.yilan.mobile_pump_status", .pumpOrGateStatus),
    ("local.hualien.flood_sensor", .floodDepth),
    ("local.taitung.flood_sensor", .floodDepth),
    ("local.penghu.water_level", .waterLevel),
    ("local.kinmen.kwis_pump_station", .pumpOrGateStatus)]

def eventTypeAliases : List (String × SignalType) :=
  [("river_water_level", .waterLevel), ("pond_water_level", .waterLevel),
    ("pump_water_level", .pumpOrGateStatus), ("gate_water_level", .pumpOrGateStatus),
    ("pump_status", .pumpOrGateStatus), ("gate_status", .pumpOrGateStatus),
    ("flood_report", .floodDepth), ("flood_sensor", .floodDepth)]

def coverageSignalType (eventType adapterKey : String) : SignalType :=
  if eventType = "status_only" then .statusOnly
  else
    ((adapterSignalTypes.lookup adapterKey).or (eventTypeAliases.lookup eventType)).getD
      ((allSignalTypes.find? fun signal => signalText signal = eventType).getD .statusOnly)

/-! ### Causes of a gap -/

inductive MissingCause where
  | none | noStationInRange | inventoryUnverified | staleObservation | sourceDegraded
  | sourceFailed | updatePipelineStalled | sourceNotConfigured | jurisdictionMappingMissing
  | jurisdictionUnverified | healthUnknown
  deriving DecidableEq, Repr

inductive CoverageLevel where
  | high | medium | low | noLocalSensor | unavailable
  deriving DecidableEq, Repr

inductive SignalAvailability where
  | freshNearby | degradedNearby | regionalReference | staleObservation | sourceUnavailable
  | sourceStatusUnknown | noStation
  deriving DecidableEq, Repr

def activeRequiredSources (sourceHealth : List NearbySourceHealth) : List NearbySourceHealth :=
  sourceHealth.filter fun item => item.requiredForAbsence && item.healthStatus ≠ .disabled

def hasConclusiveStationInventory (sourceHealth : List NearbySourceHealth)
    (jurisdictionVerified : Bool) : Bool :=
  let required := sourceHealth.filter NearbySourceHealth.requiredForAbsence
  jurisdictionVerified && required ≠ [] && required.all fun item =>
    item.healthStatus ≠ .disabled && item.healthStatus = .healthy &&
      item.reasonCode = .operational && item.inventoryComplete && item.stationCount.any (0 < ·)

def runtimeMissingCause (sourceHealth : List NearbySourceHealth) : Option MissingCause :=
  let active := activeRequiredSources sourceHealth
  let failed := active.filter fun item => item.healthStatus = .failed
  if active = [] then none
  else if failed ≠ [] then
    if failed.length = active.length ∧ failed.all fun item => item.reasonCode = .pipelineStalled then
      some .updatePipelineStalled
    else if active.any fun item => item.healthStatus = .healthy || item.healthStatus = .degraded then
      some .sourceDegraded
    else some .sourceFailed
  else if active.any fun item => item.healthStatus = .degraded then some .sourceDegraded
  else if active.any fun item => item.healthStatus = .unknown then some .healthUnknown
  else none

/-- What the evaluation of a signal asks about the reads besides its rows. -/
structure CoverageChecks where
  sourceHealthUnavailable : Bool := false
  sourceHealthChecked : Bool := false
  jurisdictionMappingMissing : Bool := false
  jurisdictionVerified : Bool := false

def missingCause (hasUsableRow hasRows : Bool) (sourceHealth : List NearbySourceHealth)
    (checks : CoverageChecks) : MissingCause :=
  if hasUsableRow then .none
  else if hasRows then (runtimeMissingCause sourceHealth).getD .staleObservation
  else if checks.sourceHealthUnavailable then .healthUnknown
  else if sourceHealth = [] then
    if checks.jurisdictionMappingMissing then .jurisdictionMappingMissing
    else if checks.sourceHealthChecked then .sourceNotConfigured
    else .healthUnknown
  else
    match runtimeMissingCause sourceHealth with
    | some cause => cause
    | none =>
        if !checks.jurisdictionVerified then .jurisdictionUnverified
        else if hasConclusiveStationInventory sourceHealth checks.jurisdictionVerified then
          .noStationInRange
        else if sourceHealth.any fun item => item.healthStatus = .disabled then .sourceNotConfigured
        else if sourceHealth.any fun item => item.healthStatus = .unknown then .healthUnknown
        else if activeRequiredSources sourceHealth ≠ [] &&
            (activeRequiredSources sourceHealth).all fun item =>
              item.healthStatus = .healthy && item.reasonCode = .operational then
          .inventoryUnverified
        else .healthUnknown

/-! ### One signal -/

structure NearbyCoverageSignal where
  signalType : SignalType
  label : String
  coverageLevel : CoverageLevel
  availabilityState : SignalAvailability
  nearestDistanceM : Option ℚ
  nearestSourceId : Option String
  nearestObservedAt : Option ℤ
  nearestObservationValue : Option ℚ
  nearestObservationUnit : Option String
  nearestReferenceValue : Option ℚ
  nearestReferenceUnit : Option String
  countsByRadiusM : List (ℕ × ℕ)
  freshCount : ℕ
  degradedCount : ℕ
  staleCount : ℕ
  statusOnlyCount : ℕ
  nearestFreshnessState : Option FreshnessState
  sourceHealthStatus : HealthStatus
  sourceCount : ℕ
  failedSourceCount : ℕ
  missingCause : MissingCause
  missingReason : Option String
  deriving DecidableEq

/-- `_THRESHOLDS_BY_SIGNAL`. -/
def thresholds : SignalType → ℚ × ℚ × ℚ
  | .rainfall => (1000, 3000, 5000)
  | _ => (500, 1000, localCoverageRadiusM)

def coverageLevel (signalType : SignalType) : Option NearbyCoverageRow → CoverageLevel
  | none => .noLocalSensor
  | some row =>
      let limits := thresholds signalType
      if row.distanceToQueryM ≤ limits.1 then .high
      else if row.distanceToQueryM ≤ limits.2.1 then .medium
      else if row.distanceToQueryM ≤ limits.2.2 then .low
      else .noLocalSensor

def availabilityState (level : CoverageLevel) (nearestUsableRow : Option NearbyCoverageRow)
    (cause : MissingCause) : SignalAvailability :=
  match nearestUsableRow with
  | none =>
      if cause = .staleObservation then .staleObservation
      else if cause = .noStationInRange then .noStation
      else if cause = .healthUnknown ∨ cause = .inventoryUnverified ∨
          cause = .jurisdictionUnverified then .sourceStatusUnknown
      else .sourceUnavailable
  | some row =>
      if level = .noLocalSensor then .regionalReference
      else if row.freshnessState = .fresh then .freshNearby
      else .degradedNearby

def observationValue (signalType : SignalType) (row : NearbyCoverageRow) :
    Option ℚ × Option String :=
  match signalType with
  | .rainfall => (row.rainfallMm1h, row.rainfallMm1h.map fun _ => "mm_1h")
  | .floodDepth => (row.floodDepthCm, row.floodDepthCm.map fun _ => "cm")
  | .waterLevel | .sewerWaterLevel | .pumpOrGateStatus =>
      (row.waterLevelM, row.waterLevelM.map fun _ => "m")
  | .floodWarning | .statusOnly => (none, none)

def aggregateSourceHealth (sourceHealth : List NearbySourceHealth) : HealthStatus :=
  let active := sourceHealth.filter fun item => item.healthStatus ≠ .disabled
  let among (status : HealthStatus) : Bool := active.any fun item => item.healthStatus = status
  let operational := among .healthy || among .degraded
  if sourceHealth = [] then .unknown
  else if active = [] then .disabled
  else if among .failed then if operational then .degraded else .failed
  else if among .unknown then if operational then .degraded else .unknown
  else if among .degraded then .degraded
  else .healthy

/-- `:.1f` of a value that is not negative. -/
def oneDecimal (value : ℚ) : String :=
  let tenths := roundHalfEven (value * 10)
  toString (tenths / 10) ++ "." ++ toString (tenths % 10)

/-- `missing_reason` of a signal without any row in range. -/
def absenceReason (label : String) : MissingCause → String
  | .noStationInRange =>
      "目前適用的中央與縣市來源均正常提供已驗證完整的站點清冊；" ++
        "查詢點 15 公里內沒有" ++ label ++ "測站。"
  | .inventoryUnverified =>
      label ++ "來源目前可運作，但站點清冊完整性尚未驗證；" ++
        "不能確認查詢點附近真的沒有測站。"
  | .jurisdictionUnverified =>
      label ++ "的縣市邊界或管轄來源清單尚未完成審核；" ++
        "不能確認查詢點附近真的沒有測站。"
  | .updatePipelineStalled =>
      label ++ "背景更新近期沒有活動；" ++ "無法確認查詢點附近是否真的沒有測站。"
  | .sourceFailed =>
      label ++ "來源或背景更新管線目前異常；" ++ "無法確認查詢點附近是否真的沒有測站。"
  | .sourceDegraded =>
      label ++ "來源目前僅能提供部分或延遲狀態；" ++
        "無法確認查詢點附近是否真的沒有測站。"
  | .sourceNotConfigured =>
      label ++ "來源目前未啟用；" ++ "無法確認查詢點附近是否真的沒有測站。"
  | _ =>
      "目前無法取得" ++ label ++ "來源健康狀態；" ++
        "無法確認查詢點附近是否真的沒有測站。"

def missingReason (signalType : SignalType) (hasRows : Bool) (level : CoverageLevel)
    (nearestUsableRow : Option NearbyCoverageRow) (cause : MissingCause) : Option String :=
  let label := signalLabel signalType
  if !hasRows then some (absenceReason label cause)
  else
    match nearestUsableRow with
    | none =>
        if signalType ∈ requiredSignalTypes then
          some ("查詢點 15 公里內只有過期的" ++ label ++ "資料。")
        else none
    | some row =>
        if level = .noLocalSensor ∧ signalType ∈ requiredSignalTypes then
          some ("查詢點 5 公里內沒有" ++ label ++ "；" ++ "最近可用站距離約 " ++
            oneDecimal (row.distanceToQueryM / 1000) ++ " 公里，" ++ "僅供區域參考。")
        else none

def nearestRow (rows : List NearbyCoverageRow) : Option NearbyCoverageRow :=
  rows.argmin NearbyCoverageRow.distanceToQueryM

/-- The fresh rows in range, then the degraded ones. -/
def usableRows (rows : List NearbyCoverageRow) : List NearbyCoverageRow :=
  rows.filter (fun row => row.freshnessState = .fresh) ++
    rows.filter fun row => row.freshnessState = .degraded

def inRange (rows : List NearbyCoverageRow) : List NearbyCoverageRow :=
  rows.filter fun row => row.distanceToQueryM ≤ coverageRadiusM

def evaluateSignal (signalType : SignalType) (rows : List NearbyCoverageRow)
    (sourceHealth : List NearbySourceHealth) (checks : CoverageChecks) : NearbyCoverageSignal :=
  let inRangeRows := inRange rows
  let nearestUsable := nearestRow (usableRows inRangeRows)
  let nearestDisplay := nearestUsable.or (nearestRow inRangeRows)
  let level := coverageLevel signalType nearestUsable
  let cause := missingCause nearestUsable.isSome (inRangeRows ≠ []) sourceHealth checks
  { signalType := signalType
    label := signalLabel signalType
    coverageLevel := level
    availabilityState := availabilityState level nearestUsable cause
    nearestDistanceM := nearestDisplay.map NearbyCoverageRow.distanceToQueryM
    nearestSourceId := nearestDisplay.map NearbyCoverageRow.sourceId
    nearestObservedAt := nearestDisplay.bind NearbyCoverageRow.observedAt
    nearestObservationValue := nearestDisplay.bind fun row => (observationValue signalType row).1
    nearestObservationUnit := nearestDisplay.bind fun row => (observationValue signalType row).2
    nearestReferenceValue := nearestDisplay.bind NearbyCoverageRow.warningLevelM
    nearestReferenceUnit :=
      (nearestDisplay.bind NearbyCoverageRow.warningLevelM).map fun _ => "m"
    countsByRadiusM := radiusBucketsM.map fun radius =>
      (radius, inRangeRows.countP fun row => row.distanceToQueryM ≤ (radius : ℚ))
    freshCount := inRangeRows.countP fun row => row.freshnessState = .fresh
    degradedCount := inRangeRows.countP fun row => row.freshnessState = .degraded
    staleCount := inRangeRows.countP fun row => row.freshnessState = .stale
    statusOnlyCount := if signalType = .statusOnly then inRangeRows.length else 0
    nearestFreshnessState := nearestDisplay.map NearbyCoverageRow.freshnessState
    sourceHealthStatus := aggregateSourceHealth sourceHealth
    sourceCount := sourceHealth.length
    failedSourceCount := sourceHealth.countP fun item => item.healthStatus = .failed
    missingCause := cause
    missingReason := missingReason signalType (inRangeRows ≠ []) level nearestUsable cause }

/-! ### The coverage -/

inductive JurisdictionStatus where
  | verified | boundaryUnverified | outsideCoverage | ambiguous | unavailable
  deriving DecidableEq, Repr

structure NearbyRealtimeCoverage where
  overallLevel : CoverageLevel
  evaluatedAt : ℤ
  queryRadiusM : ℕ
  radiusBucketsM : List ℕ
  summary : String
  signalBreakdown : List NearbyCoverageSignal
  missingSignalTypes : List SignalType
  limitations : List String
  sourceHealth : List NearbySourceHealth
  sourceHealthStatus : HealthStatus
  sourceHealthChecked : Bool
  jurisdictionStatus : JurisdictionStatus
  jurisdictionChecked : Bool
  jurisdictionCatalogComplete : Bool
  homeJurisdiction : Option String
  consideredJurisdictions : List String
  jurisdictionMappingRevisions : List String
  jurisdictionUnverifiedSignalTypes : List SignalType
  countyLevelNote : String
  deriving DecidableEq

/-- The arguments of `build_nearby_realtime_coverage`. -/
structure CoverageInput where
  rows : List NearbyCoverageRow := []
  queryRadiusM : ℕ
  evaluatedAt : ℤ
  repositoryUnavailable : Bool := false
  sourceHealth : List NearbySourceHealth := []
  sourceHealthUnavailable : Bool := false
  sourceHealthChecked : Bool := false
  jurisdictionStatus : JurisdictionStatus := .unavailable
  jurisdictionChecked : Bool := false
  jurisdictionMappingMissing : Bool := false
  jurisdictionCompleteSignalTypes : List SignalType := []
  homeJurisdiction : Option String := none
  consideredJurisdictions : List String := []
  jurisdictionMappingRevisions : List String := []

def countyLevelNote : String :=
  "縣市層級涵蓋只作背景參考，不代表查詢點附近的感測器覆蓋；" ++
    "附近涵蓋會依查詢點重新計算。"

def groupRows (rows : List NearbyCoverageRow) (signalType : SignalType) : List NearbyCoverageRow :=
  (inRange rows).filter fun row => coverageSignalType row.eventType row.adapterKey = signalType

def groupSourceHealth (sourceHealth : List NearbySourceHealth) (signalType : SignalType) :
    List NearbySourceHealth :=
  sourceHealth.flatMap fun item =>
    (item.signalTypes.filter fun listed => listed = signalType).map fun _ => item

def levelRank : CoverageLevel → ℕ
  | .high => 3
  | .medium => 2
  | .low => 1
  | _ => 0

def levelOfRank : ℕ → CoverageLevel
  | 0 => .noLocalSensor
  | 1 => .low
  | 2 => .medium
  | _ => .high

def hasCoverage (evaluation : NearbyCoverageSignal) : Bool :=
  evaluation.coverageLevel ≠ .noLocalSensor

def isHydrologic (signalType : SignalType) : Bool :=
  signalType = .waterLevel || signalType = .floodDepth || signalType = .sewerWaterLevel

def overallLevel (evaluations : List NearbyCoverageSignal) : CoverageLevel :=
  let rank := ((evaluations.filter fun evaluation => isHydrologic evaluation.signalType).map
    fun evaluation => levelRank evaluation.coverageLevel).foldl max 0
  if rank ≠ 0 then levelOfRank rank
  else if evaluations.any fun evaluation =>
      evaluation.signalType = .rainfall && hasCoverage evaluation then .low
  else .noLocalSensor

def hasOnlyRainfallOrWarning (evaluations : List NearbyCoverageSignal) : Bool :=
  let relevant := (evaluations.filter fun evaluation => hasCoverage evaluation &&
    (evaluation.signalType = .rainfall || evaluation.signalType = .floodWarning ||
      isHydrologic evaluation.signalType)).map NearbyCoverageSignal.signalType
  relevant ≠ [] && relevant.all fun signal => signal = .rainfall || signal = .floodWarning

def hasLocalUsableStatusRows (evaluations : List NearbyCoverageSignal) : Bool :=
  evaluations.any fun evaluation => evaluation.signalType = .statusOnly &&
    hasCoverage evaluation && 0 < evaluation.freshCount + evaluation.degradedCount

def hasRequired (evaluations : List NearbyCoverageSignal) (property : NearbyCoverageSignal → Bool) :
    Bool :=
  evaluations.any fun evaluation =>
    evaluation.signalType ∈ requiredSignalTypes && property evaluation

def hasCause (evaluations : List NearbyCoverageSignal) (cause : MissingCause) : Bool :=
  hasRequired evaluations fun evaluation => evaluation.missingCause = cause

def hasSourceFault (evaluations : List NearbyCoverageSignal) : Bool :=
  hasRequired evaluations fun evaluation =>
    evaluation.missingCause = .sourceFailed || evaluation.missingCause = .updatePipelineStalled

def hasSourceStatusUnknown (evaluations : List NearbyCoverageSignal) : Bool :=
  hasRequired evaluations fun evaluation => evaluation.availabilityState = .sourceStatusUnknown

def hasRegionalReference (evaluations : List NearbyCoverageSignal) : Bool :=
  hasRequired evaluations fun evaluation => !hasCoverage evaluation &&
    0 < evaluation.freshCount + evaluation.degradedCount

def hasStaleMeasurements (evaluations : List NearbyCoverageSignal) : Bool :=
  hasRequired evaluations fun evaluation => 0 < evaluation.staleCount

def levelText : CoverageLevel → String
  | .high => "high"
  | .medium => "medium"
  | .low => "low"
  | .noLocalSensor => "no_local_sensor"
  | .unavailable => "unavailable"

def buildSummary (evaluations : List NearbyCoverageSignal) (level : CoverageLevel) : String :=
  if level = .unavailable then "資料庫目前無法查詢附近即時涵蓋。"
  else if level = .low ∧ hasOnlyRainfallOrWarning evaluations then
    "目前有雨量或淹水警戒可作即時背景參考，但缺少近距水位或淹水深度觀測。"
  else if level = .noLocalSensor then
    if hasSourceFault evaluations then
      "部分即時來源或背景更新管線異常，暫時無法確認附近是否真的沒有測站。"
    else if hasCause evaluations .sourceDegraded then
      "部分即時來源更新延遲或僅部分可用，暫時無法確認附近是否真的沒有測站。"
    else if hasCause evaluations .jurisdictionUnverified then
      "縣市邊界或管轄來源清單尚未完成審核，暫時不能確認附近真的沒有測站。"
    else if hasCause evaluations .inventoryUnverified then
      "來源目前可運作，但站點清冊完整性尚未驗證，不能確認附近真的沒有測站。"
    else if hasRegionalReference evaluations then
      "查詢點 5 公里內缺少直接水情觀測；15 公里內有較遠測站可作區域參考。"
    else if hasStaleMeasurements evaluations then
      "附近有觀測紀錄，但目前已過期，不能代表當下狀況。"
    else if hasLocalUsableStatusRows evaluations then
      "附近有狀態線索，但沒有可用的雨量、水位或淹水深度量測。"
    else if hasSourceStatusUnknown evaluations then
      "目前無法取得完整來源健康狀態，暫時不能確認附近是否真的沒有測站。"
    else if hasCause evaluations .sourceNotConfigured then
      "部分即時來源尚未啟用，暫時無法確認所有感測類型的附近測站涵蓋。"
    else "目前沒有可用的近距離即時感測資料。"
  else
    let available := (evaluations.filter hasCoverage).map fun evaluation =>
      signalText evaluation.signalType
    "附近即時涵蓋最佳等級為 " ++ levelText level ++ "，可用訊號：" ++
      String.intercalate ", " available ++ "。"

def absenceLimitation (evaluations : List NearbyCoverageSignal) : String :=
  if hasSourceFault evaluations then
    "部分即時來源或背景更新管線異常，不能據此判定附近真的沒有測站。"
  else if hasCause evaluations .sourceDegraded then
    "部分即時來源僅能提供延遲或不完整狀態，不能確認附近是否真的沒有測站。"
  else if hasCause evaluations .inventoryUnverified then
    "站點清冊完整性尚未驗證，不能確認附近是否真的沒有測站。"
  else if hasCause evaluations .jurisdictionUnverified then
    "縣市邊界或管轄來源清單尚未完成審核，不能確認附近真的沒有測站。"
  else if hasSourceStatusUnknown evaluations then
    "目前無法取得完整來源健康狀態，不能確認附近是否真的沒有測站。"
  else if hasRegionalReference evaluations then
    "5 公里外的測站只作區域背景參考，不能代表查詢點現地狀況。"
  else if hasStaleMeasurements evaluations then
    "過期觀測只用來說明最近曾有資料，不能代表當下狀況。"
  else if hasLocalUsableStatusRows evaluations then "附近缺少可用的即時量測資料。"
  else if hasCause evaluations .sourceNotConfigured then
    "部分即時來源尚未啟用，不能確認所有感測類型的附近測站涵蓋。"
  else "附近沒有可用的即時感測資料。"

def healthLimitation (input : CoverageInput) (unavailable : String) : List String :=
  if input.sourceHealthUnavailable then [unavailable]
  else if input.sourceHealthChecked ∧ input.sourceHealth = [] then
    ["目前沒有已登錄的即時來源健康紀錄；缺資料不代表附近沒有測站。"]
  else []

def signalEvaluations (input : CoverageInput) : List NearbyCoverageSignal :=
  allSignalTypes.map fun signalType =>
    evaluateSignal signalType (groupRows input.rows signalType)
      (groupSourceHealth input.sourceHealth signalType)
      { sourceHealthUnavailable := input.sourceHealthUnavailable
        sourceHealthChecked := input.sourceHealthChecked
        jurisdictionMappingMissing := input.jurisdictionMappingMissing
        jurisdictionVerified := input.jurisdictionChecked &&
          signalType ∈ input.jurisdictionCompleteSignalTypes }

def buildNearbyRealtimeCoverage (input : CoverageInput) : NearbyRealtimeCoverage :=
  let unverified := requiredSignalTypes.filter fun signalType =>
    signalType ∉ input.jurisdictionCompleteSignalTypes
  let evaluations := signalEvaluations input
  let level := if input.repositoryUnavailable then .unavailable else overallLevel evaluations
  let summary := buildSummary evaluations level
  { overallLevel := level
    evaluatedAt := input.evaluatedAt
    queryRadiusM := input.queryRadiusM
    radiusBucketsM := radiusBucketsM
    summary := summary
    signalBreakdown := if input.repositoryUnavailable then [] else evaluations
    missingSignalTypes :=
      if input.repositoryUnavailable then requiredSignalTypes
      else (evaluations.filter fun evaluation =>
        evaluation.signalType ∈ requiredSignalTypes && !hasCoverage evaluation).map
          NearbyCoverageSignal.signalType
    limitations :=
      if input.repositoryUnavailable then
        [summary, countyLevelNote] ++
          healthLimitation input "來源健康診斷也暫時無法查詢；缺資料不代表現地安全。"
      else
        [countyLevelNote] ++
          (if hasLocalUsableStatusRows evaluations then
            ["狀態線索只表示設備或警示狀態，不能代表雨量、水位或淹水深度。"] else []) ++
          (if level = .low ∧ hasOnlyRainfallOrWarning evaluations then
            ["目前只有雨量或淹水警戒可作背景參考，尚無近距離水文觀測。"]
          else if level = .noLocalSensor then [absenceLimitation evaluations] else []) ++
          healthLimitation input "來源健康診斷暫時無法查詢；缺資料不代表現地安全。"
    sourceHealth := input.sourceHealth
    sourceHealthStatus := aggregateSourceHealth input.sourceHealth
    sourceHealthChecked := input.sourceHealthChecked
    jurisdictionStatus := input.jurisdictionStatus
    jurisdictionChecked := input.jurisdictionChecked
    jurisdictionCatalogComplete := unverified = []
    homeJurisdiction := input.homeJurisdiction
    consideredJurisdictions := input.consideredJurisdictions
    jurisdictionMappingRevisions := input.jurisdictionMappingRevisions
    jurisdictionUnverifiedSignalTypes := unverified
    countyLevelNote := countyLevelNote }

/-! ### Usable signals -/

theorem mem_usableRows {rows : List NearbyCoverageRow} {row : NearbyCoverageRow} :
    row ∈ usableRows rows ↔ row ∈ rows ∧ row.freshnessState ≠ .stale := by
  simp only [usableRows, List.mem_append, List.mem_filter, decide_eq_true_eq]
  cases row.freshnessState <;> simp

theorem nearestRow_mem {rows : List NearbyCoverageRow} {row : NearbyCoverageRow}
    (h : nearestRow rows = some row) : row ∈ rows :=
  List.argmin_mem h

theorem thresholds_le (signalType : SignalType) :
    (thresholds signalType).1 ≤ localCoverageRadiusM ∧
      (thresholds signalType).2.1 ≤ localCoverageRadiusM ∧
      (thresholds signalType).2.2 ≤ localCoverageRadiusM := by
  cases signalType <;> simp only [thresholds, localCoverageRadiusM] <;> norm_num

/-- A usable state stands for a fresh or degraded row of the signal within five
kilometres. -/
theorem exists_usable_row {signalType : SignalType} {rows : List NearbyCoverageRow}
    {sourceHealth : List NearbySourceHealth} {checks : CoverageChecks}
    (h : (evaluateSignal signalType rows sourceHealth checks).availabilityState = .freshNearby ∨
      (evaluateSignal signalType rows sourceHealth checks).availabilityState = .degradedNearby) :
    ∃ row ∈ rows, (row.freshnessState = .fresh ∨ row.freshnessState = .degraded) ∧
      row.distanceToQueryM ≤ localCoverageRadiusM := by
  simp only [evaluateSignal] at h
  cases hnearest : nearestRow (usableRows (inRange rows)) with
  | none =>
      rw [hnearest] at h
      simp only [availabilityState] at h
      split at h
      · simp at h
      · split at h
        · simp at h
        · split at h <;> simp at h
  | some row =>
      rw [hnearest] at h
      obtain ⟨hrange, hfresh⟩ := mem_usableRows.mp (nearestRow_mem hnearest)
      refine ⟨row, List.mem_of_mem_filter hrange, ?_, ?_⟩
      · cases hstate : row.freshnessState with
        | fresh => exact Or.inl rfl
        | degraded => exact Or.inr rfl
        | stale => exact absurd hstate hfresh
      obtain ⟨hhigh, hmedium, hlow⟩ := thresholds_le signalType
      by_contra hfar
      have hlevel : coverageLevel signalType (some row) = .noLocalSensor := by
        simp only [coverageLevel]
        rw [if_neg fun hle => hfar (hle.trans hhigh), if_neg fun hle => hfar (hle.trans hmedium),
          if_neg fun hle => hfar (hle.trans hlow)]
      simp only [availabilityState, hlevel, if_true] at h
      simp at h

end FloodRisk.Realtime
