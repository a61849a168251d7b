import FloodRisk.Realtime.Coverage

/-!
# Reading a coverage on the page (web lib/risk-display/coverage.ts)

The page derives again, from the payload of the API, whether a source has a
problem and whether the absence of a station is confirmed.  Enumerations are
the ones of the API: the payload carries the same words.
-/

namespace FloodRisk.RiskDisplay
open Promotion
open Realtime (SignalType HealthReason FreshnessState MissingCause CoverageLevel
  SignalAvailability)

/-! ### The payload (lib/page-types.ts) -/

structure PublicRealtimeSourceHealth where
  signalTypes : List SignalType
  healthStatus : HealthStatus
  reasonCode : HealthReason
  stationCount : Option ℤ
  inventoryComplete : Option Bool
  requiredForAbsence : Option Bool
  deriving DecidableEq

/-- One entry of `signal_breakdown`. -/
structure CoverageSignal where
  signalType : SignalType
  coverageLevel : CoverageLevel
  availabilityState : Option SignalAvailability
  nearestDistanceM : Option ℚ
  nearestObservedAt : Option ℤ
  nearestObservationValue : Option ℚ
  nearestObservationUnit : Option String
  nearestReferenceValue : Option ℚ
  freshCount : ℕ
  degradedCount : Option ℕ
  staleCount : ℕ
  statusOnlyCount : ℕ
  nearestFreshnessState : Option FreshnessState
  missingCause : Option MissingCause
  deriving DecidableEq

structure NearbyRealtimeCoverage where
  overallLevel : CoverageLevel
  queryRadiusM : ℕ
  radiusBucketsM : List ℕ
  summary : String
  signalBreakdown : List CoverageSignal
  missingSignalTypes : List SignalType
  sourceHealth : Option (List PublicRealtimeSourceHealth)
  sourceHealthChecked : Option Bool
  jurisdictionChecked : Option Bool
  jurisdictionCatalogComplete : Option Bool
  jurisdictionUnverifiedSignalTypes : Option (List SignalType)
  deriving DecidableEq

/-! ### Signals -/

def requiredCoverageSignals : List SignalType :=
  [.rainfall, .waterLevel, .floodDepth, .sewerWaterLevel]

def measurementSignalSet : List SignalType :=
  [.rainfall, .waterLevel, .floodDepth, .sewerWaterLevel]

def usableCount (signal : CoverageSignal) : ℕ :=
  signal.freshCount + signal.degradedCount.getD 0

def hasSignalObservation (signal : CoverageSignal) : Bool :=
  signal.nearestDistanceM.isSome || 0 < signal.freshCount || 0 < signal.degradedCount.getD 0 ||
    0 < signal.staleCount || 0 < signal.statusOnlyCount

def signalAvailability (signal : CoverageSignal) : SignalAvailability :=
  match signal.availabilityState with
  | some state => state
  | none =>
      if !hasSignalObservation signal then .noStation
      else if usableCount signal = 0 then .staleObservation
      else if signal.coverageLevel = .noLocalSensor then .regionalReference
      else if signal.nearestFreshnessState = some .degraded then .degradedNearby
      else .freshNearby

def primaryMeasurementSignals (coverage : NearbyRealtimeCoverage) : List CoverageSignal :=
  let requiredSignals := requiredCoverageSignals.filterMap fun signalType =>
    coverage.signalBreakdown.find? fun candidate => candidate.signalType = signalType
  if requiredSignals ≠ [] then requiredSignals
  else coverage.signalBreakdown.filter fun signal => signal.signalType ∈ measurementSignalSet

def availabilityRank : SignalAvailability → ℕ
  | .freshNearby => 7
  | .degradedNearby => 6
  | .regionalReference => 5
  | .staleObservation => 4
  | .sourceUnavailable => 3
  | .sourceStatusUnknown => 2
  | .noStation => 1

def displayMeasurementSignals (coverage : NearbyRealtimeCoverage) : List CoverageSignal :=
  let optionalObservedSignals := (coverage.signalBreakdown.filter fun signal =>
    signal.signalType ∉ requiredCoverageSignals && hasSignalObservation signal).mergeSort
      fun left right => availabilityRank (signalAvailability right) ≤
        availabilityRank (signalAvailability left)
  (primaryMeasurementSignals coverage ++ optionalObservedSignals).take 4

def effectiveMissingCause (signal : CoverageSignal) : MissingCause :=
  match signal.missingCause with
  | some cause => cause
  | none =>
      match signalAvailability signal with
      | .staleObservation => .staleObservation
      | .sourceUnavailable => .sourceFailed
      | .sourceStatusUnknown => .healthUnknown
      | .noStation => .noStationInRange
      | _ => .none

/-! ### Source issues -/

/-- The causes that are a problem of a source. -/
inductive SourceIssueCause where
  | sourceDegraded | sourceFailed | updatePipelineStalled | sourceNotConfigured
  | jurisdictionMappingMissing | inventoryUnverified | jurisdictionUnverified | healthUnknown
  deriving DecidableEq, Repr

def SourceIssueCause.cause : SourceIssueCause → MissingCause
  | .sourceDegraded => .sourceDegraded
  | .sourceFailed => .sourceFailed
  | .updatePipelineStalled => .updatePipelineStalled
  | .sourceNotConfigured => .sourceNotConfigured
  | .jurisdictionMappingMissing => .jurisdictionMappingMissing
  | .inventoryUnverified => .inventoryUnverified
  | .jurisdictionUnverified => .jurisdictionUnverified
  | .healthUnknown => .healthUnknown

def asSourceIssue : MissingCause → Option SourceIssueCause
  | .sourceDegraded => some .sourceDegraded
  | .sourceFailed => some .sourceFailed
  | .updatePipelineStalled => some .updatePipelineStalled
  | .sourceNotConfigured => some .sourceNotConfigured
  | .jurisdictionMappingMissing => some .jurisdictionMappingMissing
  | .jurisdictionUnverified => some .jurisdictionUnverified
  | .inventoryUnverified => some .inventoryUnverified
  | .healthUnknown => some .healthUnknown
  | .none | .noStationInRange | .staleObservation => none

def sourceHealthIssue (source : PublicRealtimeSourceHealth) : Option SourceIssueCause :=
  match source.healthStatus with
  | .failed =>
      if source.reasonCode = .pipelineStalled then some .updatePipelineStalled
      else some .sourceFailed
  | .degraded => some .sourceDegraded
  | .disabled => some .sourceNotConfigured
  | .unknown => some .healthUnknown
  | .healthy => none

def strongestSourceIssue (causes : List SourceIssueCause) : Option SourceIssueCause :=
  if causes = [] then none
  else if causes.all fun cause => cause = .updatePipelineStalled then some .updatePipelineStalled
  else if causes.any fun cause => cause = .sourceFailed || cause = .updatePipelineStalled then
    some .sourceFailed
  else if .sourceDegraded ∈ causes then some .sourceDegraded
  else if .jurisdictionMappingMissing ∈ causes then some .jurisdictionMappingMissing
  else if .sourceNotConfigured ∈ causes then some .sourceNotConfigured
  else if .jurisdictionUnverified ∈ causes then some .jurisdictionUnverified
  else if .inventoryUnverified ∈ causes then some .inventoryUnverified
  else some .healthUnknown

/-- A source that must be seen working before an absence counts. -/
def isRequiredForAbsence (source : PublicRealtimeSourceHealth) : Bool :=
  source.requiredForAbsence ≠ some false

def hasAuditedInventory (source : PublicRealtimeSourceHealth) : Bool :=
  source.healthStatus = .healthy && source.reasonCode = .operational &&
    source.inventoryComplete = some true && source.stationCount.any (0 < ·)

def noStationProofIssue (coverage : NearbyRealtimeCoverage) (signal : CoverageSignal) :
    Option SourceIssueCause :=
  let relevantSources := (coverage.sourceHealth.getD []).filter fun source =>
    signal.signalType ∈ source.signalTypes && isRequiredForAbsence source
  if signal.missingCause ≠ some .noStationInRange then none
  else if coverage.sourceHealthChecked ≠ some true then some .healthUnknown
  else if coverage.jurisdictionChecked ≠ some true ∨
      coverage.jurisdictionCatalogComplete ≠ some true ∨
      signal.signalType ∈ coverage.jurisdictionUnverifiedSignalTypes.getD [] then
    some .jurisdictionUnverified
  else if relevantSources = [] then some .healthUnknown
  else
    (strongestSourceIssue (relevantSources.filterMap sourceHealthIssue)).or
      (if relevantSources.all hasAuditedInventory then none else some .inventoryUnverified)

/-! ### The diagnosis -/

structure CoverageDiagnosis where
  confirmedNoStation : Bool
  hasRegionalReference : Bool
  hasUsableObservation : Bool
  isPartial : Bool
  sourceIssue : Option SourceIssueCause
  deriving DecidableEq

def isUsableState (state : SignalAvailability) : Bool :=
  state = .freshNearby || state = .degradedNearby

def diagnoseCoverage (coverage : NearbyRealtimeCoverage) : CoverageDiagnosis :=
  let primarySignals := primaryMeasurementSignals coverage
  let states := primarySignals.map signalAvailability
  let primarySignalTypes := primarySignals.map CoverageSignal.signalType
  let sources := coverage.sourceHealth.getD []
  let hasUsableObservation := states.any isUsableState
  let hasRegionalReference := decide (.regionalReference ∈ states)
  let hasReadings := hasUsableObservation || hasRegionalReference
  let signalIssues := (primarySignals.map effectiveMissingCause).filterMap asSourceIssue
  let noStationProofIssues := primarySignals.filterMap (noStationProofIssue coverage)
  let sourceIssues :=
    if hasReadings then
      (sources.filter fun source => isRequiredForAbsence source &&
        source.signalTypes.any fun signalType => signalType ∈ primarySignalTypes).filterMap
          sourceHealthIssue
    else []
  let healthCheckIssue : Option SourceIssueCause :=
    if hasReadings ∧ coverage.sourceHealthChecked ≠ none ∧
        (coverage.sourceHealthChecked = some false ∨
          coverage.sourceHealthChecked = some true ∧ sources = []) then
      some .healthUnknown
    else none
  let sourceIssue := (strongestSourceIssue (signalIssues ++ noStationProofIssues)).or
    (strongestSourceIssue (sourceIssues ++ healthCheckIssue.toList))
  { confirmedNoStation := decide (coverage.sourceHealthChecked = some true) &&
      (requiredCoverageSignals.all fun signalType => signalType ∈ primarySignalTypes) &&
      primarySignals.all fun signal => signal.missingCause = some .noStationInRange &&
        noStationProofIssue coverage signal = none
    hasRegionalReference := hasRegionalReference
    hasUsableObservation := hasUsableObservation
    isPartial := sourceIssue.isSome && hasReadings
    sourceIssue := sourceIssue }

def confirmedNoLocalSensor : Option NearbyRealtimeCoverage → Bool
  | none => false
  | some coverage => (diagnoseCoverage coverage).confirmedNoStation

end FloodRisk.RiskDisplay
