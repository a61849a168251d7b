import FloodRisk.Realtime.Coverage
import FloodRisk.Risk.Scoring

/-!
# When a low level may be published (api domain/assessment/safety.py)

`AssessmentData` is what one request has loaded; `applyRealtimeSafety` and
`composeBaseOverall` are the two steps between the scores and the response.
-/

namespace FloodRisk.Assessment
open Promotion Realtime Risk

/-! ### Loaded data (domain/assessment/models.py) -/

/-- The columns of an `EvidenceRecord` that scoring reads. -/
structure EvidenceRecord where
  sourceType : SourceType
  eventType : EventType
  occurredAt : Option ℤ := none
  observedAt : Option ℤ := none
  distanceToQueryM : Option ℚ := none
  confidence : ℚ
  freshnessScore : ℚ
  sourceWeight : ℚ
  rainfallMm1h : Option ℚ := none
  waterLevelM : Option ℚ := none
  warningLevelM : Option ℚ := none
  floodDepthCm : Option ℚ := none
  realtimeRiskFactor : Option ℚ := none
  evidenceScope : SignalScope := .unspecified
  adapterKey : Option String := none
  locationPrecision : LocationPrecision := .unknown
  deriving DecidableEq

inductive SourceState where
  | fresh | degraded | stale | failed | disabled | notApplicable
  deriving DecidableEq, Repr

structure AssessmentSourceState where
  sourceKey : String
  signalType : SignalType
  state : SourceState
  reasonCode : HealthReason
  observedAt : Option ℤ
  checkedAt : Option ℤ
  message : Option String
  deriving DecidableEq

structure AssessmentData where
  currentOfficial : List EvidenceRecord
  historical : List EvidenceRecord
  nearbyCoverage : NearbyRealtimeCoverage
  sourceStates : List AssessmentSourceState
  requiredRealtimeSourceKeys : List String
  currentAvailable : Bool
  historicalAvailable : Bool
  coverageAvailable : Bool
  healthAvailable : Bool
  jurisdictionAvailable : Bool
  localMachineFeedMissing : List String
  deriving DecidableEq

/-- `community_warning` is never the mode of the core composition. -/
inductive DominantMode where
  | realtime | historicalContext | communityWarning | unknown
  deriving DecidableEq, Repr

structure OverallDecision where
  level : RiskLevel
  confidence : ConfidenceLevel
  dominantMode : DominantMode
  reasons : List String
  deriving DecidableEq

/-! ### `can_support_low_realtime` -/

def isUsableLocal (state : SignalAvailability) : Bool :=
  state = .freshNearby || state = .degradedNearby

def isUsableSource (state : SourceState) : Bool := state = .fresh || state = .degraded

def isAcceptableRequired (state : SourceState) : Bool :=
  isUsableSource state || state = .notApplicable

def queryLocalSignalTypes (data : AssessmentData) : List SignalType :=
  (data.nearbyCoverage.signalBreakdown.filter fun item =>
    isUsableLocal item.availabilityState).map NearbyCoverageSignal.signalType

/-- `state_by_key` keeps the last state of a key. -/
def stateByKey (data : AssessmentData) (sourceKey : String) : Option AssessmentSourceState :=
  data.sourceStates.reverse.find? fun state => state.sourceKey = sourceKey

def requiredSourcesSupportLow (data : AssessmentData) : Bool :=
  data.requiredRealtimeSourceKeys.all fun sourceKey =>
    match stateByKey data sourceKey with
    | none => false
    | some sourceState =>
        isAcceptableRequired sourceState.state ||
          isHydrologic sourceState.signalType && data.sourceStates.any fun alternative =>
            alternative.sourceKey ≠ sourceKey && isHydrologic alternative.signalType &&
              isUsableSource alternative.state

def canSupportLowRealtime (data : AssessmentData) : Bool :=
  let coverage := data.nearbyCoverage
  let read := data.currentAvailable && data.coverageAvailable && data.healthAvailable &&
    data.jurisdictionAvailable && coverage.sourceHealthChecked && coverage.jurisdictionChecked &&
    coverage.jurisdictionCatalogComplete
  let available := queryLocalSignalTypes data
  read && requiredSourcesSupportLow data && .rainfall ∈ available && available.any isHydrologic

/-! ### The two steps after the scorer -/

def applyRealtimeSafety (scoring : RiskScoringResult) (data : AssessmentData) :
    RiskScoringResult :=
  if scoring.realtimeLevel ≠ .low ∨ canSupportLowRealtime data then scoring
  else
    { scoring with
      realtimeLevel := .unknown
      explanationSummary :=
        "即時資料不足，無法判定目前風險；請另見歷史背景區塊。"
      missingSources := (scoring.missingSources ++
        ["必要的官方即時來源或查詢點附近涵蓋不足，不能把結果判為低風險。"]).eraseDups }

def riskLevelRank : RiskLevel → ℕ
  | .unknown => 0
  | .low => 1
  | .medium => 2
  | .high => 3
  | .extreme => 4

def composeBaseOverall (realtimeScoring historicalScoring : RiskScoringResult) :
    OverallDecision :=
  let realtimeLevel := realtimeScoring.realtimeLevel
  let historicalLevel := historicalScoring.historicalLevel
  if riskLevelRank historicalLevel > riskLevelRank realtimeLevel then
    let contextReason :=
      if realtimeLevel = .unknown then
        "目前缺少可採用的即時證據；此等級只代表歷史背景風險。"
      else
        "歷史參考風險（" ++ historicalLevel.text ++ "）高於即時風險（" ++
          realtimeLevel.text ++ "）；" ++ "綜合等級採較高者，但不表示目前正在淹水。"
    { level := historicalLevel
      confidence := historicalScoring.confidenceLevel
      dominantMode := .historicalContext
      reasons := (contextReason :: historicalScoring.mainReasons).eraseDups }
  else if realtimeLevel ≠ .unknown then
    { level := realtimeLevel
      confidence := realtimeScoring.confidenceLevel
      dominantMode := .realtime
      reasons := realtimeScoring.mainReasons }
  else
    { level := .unknown
      confidence := .unknown
      dominantMode := .unknown
      reasons := ["目前即時與歷史資料都不足，不能解讀為低風險。"] }

/-! ### What supports a low level -/

/-- Signals of the kind with a usable state, and behind each of them a fresh or
degraded row within five kilometres when the coverage was built from rows. -/
structure HasLocalSignal (coverage : NearbyRealtimeCoverage) (kind : SignalType → Bool) : Prop where
  usable : ∃ item ∈ coverage.signalBreakdown, kind item.signalType = true ∧
    (item.availabilityState = .freshNearby ∨ item.availabilityState = .degradedNearby)
  nearby : ∀ input, coverage = buildNearbyRealtimeCoverage input → ∃ row ∈ input.rows,
    kind (coverageSignalType row.eventType row.adapterKey) = true ∧
      (row.freshnessState = .fresh ∨ row.freshnessState = .degraded) ∧
      row.distanceToQueryM ≤ localCoverageRadiusM

/-- The four reads and the coverage behind a realtime level `低`. -/
structure SupportsLow (data : AssessmentData) : Prop where
  current : data.currentAvailable = true
  coverage : data.coverageAvailable = true
  health : data.healthAvailable = true
  jurisdiction : data.jurisdictionAvailable = true
  healthChecked : data.nearbyCoverage.sourceHealthChecked = true
  jurisdictionChecked : data.nearbyCoverage.jurisdictionChecked = true
  catalog : data.nearbyCoverage.jurisdictionCatalogComplete = true
  rainfall : HasLocalSignal data.nearbyCoverage fun signalType => signalType = .rainfall
  hydrology : HasLocalSignal data.nearbyCoverage isHydrologic
  required : ∀ sourceKey ∈ data.requiredRealtimeSourceKeys,
    ∃ sourceState ∈ data.sourceStates, sourceState.sourceKey = sourceKey ∧
      (isAcceptableRequired sourceState.state = true ∨
        isHydrologic sourceState.signalType = true ∧ ∃ alternative ∈ data.sourceStates,
          alternative.sourceKey ≠ sourceKey ∧ isHydrologic alternative.signalType = true ∧
            isUsableSource alternative.state = true)

theorem exists_nearby_row {input : CoverageInput} {item : NearbyCoverageSignal}
    (h : item ∈ (buildNearbyRealtimeCoverage input).signalBreakdown)
    (husable : item.availabilityState = .freshNearby ∨ item.availabilityState = .degradedNearby) :
    ∃ row ∈ input.rows, coverageSignalType row.eventType row.adapterKey = item.signalType ∧
      (row.freshnessState = .fresh ∨ row.freshnessState = .degraded) ∧
      row.distanceToQueryM ≤ localCoverageRadiusM := by
  simp only [buildNearbyRealtimeCoverage] at h
  split at h
  · exact absurd h List.not_mem_nil
  · obtain ⟨signalType, -, heq⟩ := List.mem_map.mp h
    rw [← heq] at husable
    obtain ⟨row, hrow, hfresh, hnear⟩ := exists_usable_row husable
    obtain ⟨hranged, hkind⟩ := List.mem_filter.mp hrow
    have htype : item.signalType = signalType := by
      rw [← heq]
      rfl
    exact ⟨row, List.mem_of_mem_filter hranged, (of_decide_eq_true hkind).trans htype.symm, hfresh,
      hnear⟩

theorem hasLocalSignal_of_mem {data : AssessmentData} {kind : SignalType → Bool}
    {signalType : SignalType} (h : signalType ∈ queryLocalSignalTypes data)
    (hkind : kind signalType = true) : HasLocalSignal data.nearbyCoverage kind := by
  obtain ⟨item, hitem, heq⟩ := List.mem_map.mp h
  obtain ⟨hmem, hstate⟩ := List.mem_filter.mp hitem
  rw [← heq] at hkind
  have husable : item.availabilityState = .freshNearby ∨
      item.availabilityState = .degradedNearby := by
    simpa only [isUsableLocal, Bool.or_eq_true, decide_eq_true_eq] using hstate
  refine ⟨⟨item, hmem, hkind, husable⟩, ?_⟩
  intro input hbuilt
  rw [hbuilt] at hmem
  obtain ⟨row, hrow, htype, hfresh, hnear⟩ := exists_nearby_row hmem husable
  exact ⟨row, hrow, by rw [htype]; exact hkind, hfresh, hnear⟩

theorem exists_acceptable_of_required {data : AssessmentData}
    (h : requiredSourcesSupportLow data = true) {sourceKey : String}
    (hkey : sourceKey ∈ data.requiredRealtimeSourceKeys) :
    ∃ sourceState ∈ data.sourceStates, sourceState.sourceKey = sourceKey ∧
      (isAcceptableRequired sourceState.state = true ∨
        isHydrologic sourceState.signalType = true ∧ ∃ alternative ∈ data.sourceStates,
          alternative.sourceKey ≠ sourceKey ∧ isHydrologic alternative.signalType = true ∧
            isUsableSource alternative.state = true) := by
  have hown := List.all_eq_true.mp h sourceKey hkey
  cases hstate : stateByKey data sourceKey with
  | none =>
      rw [hstate] at hown
      exact absurd hown (by simp)
  | some sourceState =>
      rw [hstate] at hown
      have hmem : sourceState ∈ data.sourceStates :=
        List.mem_reverse.mp (List.mem_of_find?_eq_some hstate)
      have hfound : data.sourceStates.reverse.find? (fun state => state.sourceKey = sourceKey) =
          some sourceState := hstate
      have hmatch := List.find?_some hfound
      have hsame : sourceState.sourceKey = sourceKey := of_decide_eq_true hmatch
      refine ⟨sourceState, hmem, hsame, ?_⟩
      simp only [Bool.or_eq_true, Bool.and_eq_true] at hown
      rcases hown with hacceptable | ⟨hhydrology, hother⟩
      · exact Or.inl hacceptable
      · obtain ⟨alternative, halternative, hmatch⟩ := List.any_eq_true.mp hother
        simp only [Bool.and_eq_true, decide_eq_true_eq] at hmatch
        exact Or.inr ⟨hhydrology, alternative, halternative, hmatch.1.1, hmatch.1.2, hmatch.2⟩

theorem supportsLow_of_canSupport {data : AssessmentData}
    (h : canSupportLowRealtime data = true) : SupportsLow data := by
  simp only [canSupportLowRealtime, Bool.and_eq_true, decide_eq_true_eq] at h
  obtain ⟨⟨⟨hread, hrequired⟩, hrainfall⟩, hhydrology⟩ := h
  obtain ⟨⟨⟨⟨⟨⟨hcurrent, hcoverage⟩, hhealth⟩, hjurisdiction⟩, hhealthChecked⟩,
    hjurisdictionChecked⟩, hcatalog⟩ := hread
  obtain ⟨signalType, hmem, hkind⟩ := List.any_eq_true.mp hhydrology
  exact
    { current := hcurrent
      coverage := hcoverage
      health := hhealth
      jurisdiction := hjurisdiction
      healthChecked := hhealthChecked
      jurisdictionChecked := hjurisdictionChecked
      catalog := hcatalog
      rainfall := hasLocalSignal_of_mem hrainfall (by simp)
      hydrology := hasLocalSignal_of_mem hmem hkind
      required := fun _ hkey => exists_acceptable_of_required hrequired hkey }

/-- The safety step leaves a low realtime level to supporting data only. -/
theorem supportsLow_of_safe {scoring : RiskScoringResult} {data : AssessmentData}
    (h : (applyRealtimeSafety scoring data).realtimeLevel = .low) : SupportsLow data := by
  unfold applyRealtimeSafety at h
  split at h
  · rename_i hcases
    rcases hcases with hnot | hsupport
    · exact absurd h hnot
    · exact supportsLow_of_canSupport hsupport
  · exact absurd h (by simp)

theorem eq_unknown_of_rank_lt_low {level : RiskLevel}
    (h : riskLevelRank level < riskLevelRank .low) : level = .unknown := by
  cases level with
  | unknown => rfl
  | low | medium | high | extreme =>
      simp only [riskLevelRank] at h
      omega

/-- An overall low level is the realtime one, or the historical one while the
realtime level is unknown. -/
theorem low_of_composed {realtimeScoring historicalScoring : RiskScoringResult}
    (h : (composeBaseOverall realtimeScoring historicalScoring).level = .low) :
    realtimeScoring.realtimeLevel = .low ∨
      realtimeScoring.realtimeLevel = .unknown ∧ historicalScoring.historicalLevel = .low ∧
        (composeBaseOverall realtimeScoring historicalScoring).dominantMode =
          .historicalContext := by
  unfold composeBaseOverall at h ⊢
  simp only at h ⊢
  split at h
  · rename_i hhigher
    right
    have hhistorical : historicalScoring.historicalLevel = .low := h
    rw [if_pos hhigher]
    rw [hhistorical] at hhigher
    exact ⟨eq_unknown_of_rank_lt_low hhigher, hhistorical, rfl⟩
  · left
    split at h
    · exact h
    · exact absurd h (by simp)

end FloodRisk.Assessment
