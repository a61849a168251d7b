import FloodRisk.Lib.Rounding
import FloodRisk.Promotion.Payload

/-!
# Scoring of evidence signals (api domain/risk/scoring.py)

`scoreRisk` is `score_risk` over exact rationals.  Instants are microseconds.
-/

namespace FloodRisk.Risk
open Promotion

/-! ### Signals and results -/

inductive SignalScope where
  | current | historical | context | unspecified
  deriving DecidableEq, Repr

inductive LocationPrecision where
  | point | roadOrLane | poi | adminArea | polygon | inferred | mapClick | unknown
  deriving DecidableEq, Repr

/-- `未知`, `低`, `中`, `高` and `極高`. -/
inductive RiskLevel where
  | unknown | low | medium | high | extreme
  deriving DecidableEq, Repr

inductive ConfidenceLevel where
  | unknown | low | medium | high
  deriving DecidableEq, Repr

def RiskLevel.text : RiskLevel → String
  | .unknown => "未知"
  | .low => "低"
  | .medium => "中"
  | .high => "高"
  | .extreme => "極高"

def ConfidenceLevel.text : ConfidenceLevel → String
  | .unknown => "未知"
  | .low => "低"
  | .medium => "中"
  | .high => "高"

structure RiskEvidenceSignal where
  sourceType : SourceType
  eventType : EventType
  confidence : ℚ
  distanceToQueryM : Option ℚ
  freshnessScore : ℚ
  sourceWeight : ℚ
  riskFactor : ℚ := 1
  observedAt : Option ℤ := none
  evidenceScope : SignalScope := .unspecified
  locationPrecision : LocationPrecision := .unknown
  deriving DecidableEq

structure RiskScoringResult where
  scoreVersion : String
  realtimeScore : ℚ
  historicalScore : ℚ
  confidenceScore : ℚ
  realtimeLevel : RiskLevel
  historicalLevel : RiskLevel
  confidenceLevel : ConfidenceLevel
  explanationSummary : String
  mainReasons : List String
  missingSources : List String
  deriving DecidableEq

def scoreVersion : String := "risk-v0.3.0"

/-! ### Weights and caps -/

inductive WeightTable where
  | realtime | historical
  deriving DecidableEq, Repr

/-- `REALTIME_WEIGHTS` and `HISTORICAL_WEIGHTS`; a missing event weighs 0. -/
def weight : WeightTable → EventType → ℚ
  | .realtime, .rainfall => 40
  | .realtime, .waterLevel => 35
  | .realtime, .floodWarning => 50
  | .realtime, .floodReport => 20
  | .realtime, .roadClosure => 20
  | .historical, .floodPotential => 40
  | .historical, .floodReport => 35
  | .historical, .roadClosure => 15
  | _, _ => 0

def precisionFactors : LocationPrecision → ℚ
  | .point => 1
  | .mapClick => 1
  | .poi => 9 / 10
  | .polygon => 85 / 100
  | .roadOrLane => 7 / 10
  | .inferred => 5 / 10
  | .adminArea => 35 / 100
  | .unknown => 6 / 10

def isPrecisionWeighted (eventType : EventType) : Bool :=
  eventType = .floodReport || eventType = .roadClosure

def isCorrelatedRealtime (eventType : EventType) : Bool :=
  eventType = .rainfall || eventType = .waterLevel || eventType = .floodWarning

def adminAreaOnlyHistoricalCap : ℚ := 40

def floodPotentialContextCapWithObservedHistory : ℚ := 20

def observedHistoryMinScoreWithin1Km : ℚ := 25

def eventScoreCaps : EventType → Option ℚ
  | .rainfall => some (weight .realtime .rainfall)
  | .waterLevel => some (weight .realtime .waterLevel)
  | .floodWarning => some (weight .realtime .floodWarning)
  | .floodPotential => some 40
  | _ => none

def eventScoreCap (eventType : EventType) (hasObservedHistory : Bool) : Option ℚ :=
  if eventType = .floodPotential && hasObservedHistory then
    some floodPotentialContextCapWithObservedHistory
  else eventScoreCaps eventType

/-! ### Eligible signals -/

def hour : ℤ := 3600 * 1000000

/-- `now` and `max_age` of a score that ages its signals. -/
structure Recency where
  now : ℤ
  maxAge : ℤ

def realtimeRecency (now : ℤ) : Recency := ⟨now, 6 * hour⟩

def isRecent (signal : RiskEvidenceSignal) (recency : Recency) : Bool :=
  signal.observedAt.any fun observedAt =>
    recency.now - recency.maxAge ≤ observedAt && observedAt ≤ recency.now + 5 * 60 * 1000000

def isWeightedSignalEligible (signal : RiskEvidenceSignal) (weights : WeightTable)
    (recency : Option Recency) : Bool :=
  if weight weights signal.eventType ≤ 0 then false
  else if weights = .realtime &&
      (signal.evidenceScope = .historical || signal.evidenceScope = .context) then false
  else if weights = .historical &&
      (signal.evidenceScope = .current || signal.evidenceScope = .context) then false
  else recency.all (isRecent signal)

def hasWeightedEvidence (signals : List RiskEvidenceSignal) (weights : WeightTable)
    (recency : Option Recency) : Bool :=
  signals.any fun signal => isWeightedSignalEligible signal weights recency

/-! ### Contributions -/

def clamp (value : ℚ) : ℚ := min (max value 0) 1

def distanceFactor : Option ℚ → ℚ
  | none => 85 / 100
  | some distance => if distance ≤ 100 then 1 else if distance ≤ 500 then 75 / 100 else 5 / 10

def weightedSignalContribution (signal : RiskEvidenceSignal) (eventWeight : ℚ) : ℚ :=
  eventWeight * clamp signal.confidence * clamp signal.freshnessScore * clamp signal.riskFactor *
    distanceFactor signal.distanceToQueryM * max signal.sourceWeight 0

def precisionFactor (signal : RiskEvidenceSignal) : ℚ :=
  if isPrecisionWeighted signal.eventType then precisionFactors signal.locationPrecision else 1

/-- The contribution that `_weighted_score` adds for an eligible signal. -/
def scoreContribution (signal : RiskEvidenceSignal) (weights : WeightTable) : ℚ :=
  let eventWeight := weight weights signal.eventType
  let plain := weightedSignalContribution signal eventWeight
  let contribution := if weights = .historical then plain * precisionFactor signal else plain
  if signal.eventType = .floodReport && weight .historical .floodReport ≤ eventWeight &&
      signal.distanceToQueryM.any (· ≤ 1000) then
    max contribution observedHistoryMinScoreWithin1Km
  else contribution

def scoredEventTypes : List EventType :=
  [.rainfall, .waterLevel, .floodWarning, .floodPotential, .floodReport, .roadClosure]

/-- `totals_by_event` after one more eligible signal. -/
def addToTotals (weights : WeightTable) (hasObservedHistory : Bool) (totals : EventType → ℚ)
    (signal : RiskEvidenceSignal) : EventType → ℚ :=
  let contribution := scoreContribution signal weights
  let previous := totals signal.eventType
  let total := if isCorrelatedRealtime signal.eventType then max previous contribution
    else previous + contribution
  Function.update totals signal.eventType
    ((eventScoreCap signal.eventType hasObservedHistory).elim total (min total))

/-- A low-precision citation does not make an observed history. -/
def hasObservedHistory (signals : List RiskEvidenceSignal) (weights : WeightTable)
    (recency : Option Recency) : Bool :=
  signals.any fun signal =>
    isPrecisionWeighted signal.eventType && signal.locationPrecision ≠ .adminArea &&
      signal.locationPrecision ≠ .unknown && isWeightedSignalEligible signal weights recency

def weightedScore (signals : List RiskEvidenceSignal) (weights : WeightTable)
    (recency : Option Recency) : ℚ :=
  let eligible := signals.filter fun signal => isWeightedSignalEligible signal weights recency
  let totals := eligible.foldl
    (addToTotals weights (hasObservedHistory signals weights recency)) fun _ => 0
  min (scoredEventTypes.map totals).sum 100

def applyAdminAreaOnlyHistoricalCap (signals : List RiskEvidenceSignal) (historicalScore : ℚ) : ℚ :=
  let eligible := signals.filter fun signal => isWeightedSignalEligible signal .historical none
  if eligible ≠ [] && eligible.all fun signal => signal.locationPrecision = .adminArea then
    min historicalScore adminAreaOnlyHistoricalCap
  else historicalScore

def confidenceScore (signals : List RiskEvidenceSignal) : ℚ :=
  if signals = [] then 0
  else
    let weighted := signals.map fun signal => clamp signal.confidence * max signal.sourceWeight 0
    let totalWeight := (signals.map fun signal => max signal.sourceWeight 0).sum
    if totalWeight = 0 then 0
    else
      let sourceBonus : ℚ :=
        if signals.any fun signal => signal.sourceType = .official then 6 / 100 else 0
      min (weighted.sum / totalWeight + sourceBonus) 1

/-! ### Levels and texts -/

def riskLevel (score : ℚ) (hasEvidence : Bool) : RiskLevel :=
  if !hasEvidence then .unknown
  else if score ≥ 85 then .extreme
  else if score ≥ 55 then .high
  else if score ≥ 25 then .medium
  else .low

def confidenceLevel (score : ℚ) (hasEvidence : Bool) : ConfidenceLevel :=
  if !hasEvidence then .unknown
  else if score ≥ 8 / 10 then .high
  else if score ≥ 5 / 10 then .medium
  else .low

def missingSources (signals : List RiskEvidenceSignal) (now : ℤ) : List String :=
  let usable := signals.filter fun signal =>
    isWeightedSignalEligible signal .realtime (some (realtimeRecency now))
  let observed (eventType : EventType) : Bool :=
    usable.any fun signal => signal.eventType = eventType
  let hasFloodSensor := usable.any fun signal => signal.sourceType = .official &&
    signal.eventType = .floodReport && signal.evidenceScope = .current
  (if observed .rainfall then [] else ["本次查詢未取得可採用的即時雨量觀測。"]) ++
    if !observed .waterLevel && !hasFloodSensor then
      ["本次查詢未取得可採用的即時水位或淹水感測觀測。"]
    else []

/-- `REALTIME_REASON_LABELS`, in its order. -/
def realtimeReasonLabels : List (EventType × String) :=
  [(.rainfall, "雨量"), (.waterLevel, "水位"), (.floodWarning, "官方警戒"),
    (.floodReport, "通報"), (.roadClosure, "道路封閉")]

def realtimeMainReason (signals : List RiskEvidenceSignal) (now : ℤ) : String :=
  let contributes (eventType : EventType) : Bool := signals.any fun signal =>
    signal.eventType = eventType &&
      isWeightedSignalEligible signal .realtime (some (realtimeRecency now)) &&
      0 < weightedSignalContribution signal (weight .realtime signal.eventType)
  let labels := (realtimeReasonLabels.filter fun label => contributes label.1).map Prod.snd
  if labels = [] then "附近即時訊號偏高；即時不只代表現地降雨。"
  else "附近即時訊號偏高，主要來自" ++ String.intercalate "、" labels ++
    "；即時不只代表現地降雨。"

def mainReasons (signals : List RiskEvidenceSignal) (realtimeLevel historicalLevel : RiskLevel)
    (now : ℤ) : List String :=
  if signals = [] then ["目前缺少可採用的即時或歷史資料，尚不能判定風險高低。"]
  else
    let observedCount := signals.countP fun signal =>
      isPrecisionWeighted signal.eventType && signal.evidenceScope ≠ .current
    let potentialCount := signals.countP fun signal => signal.eventType = .floodPotential
    let reasons :=
      (if realtimeLevel = .high ∨ realtimeLevel = .extreme then
        [realtimeMainReason signals now] else []) ++
      (if observedCount ≠ 0 then
        ["查詢半徑內有 " ++ toString observedCount ++
          " 筆官方災點、公開新聞或淹水事件紀錄。"] else []) ++
      if (historicalLevel = .medium ∨ historicalLevel = .high ∨ historicalLevel = .extreme) ∧
          potentialCount ≠ 0 then
        ["另與 " ++ toString potentialCount ++ " 筆官方淹水潛勢規劃圖資相交；" ++
          "這是情境參考，不代表即時災害警報。"]
      else []
    if reasons = [] then ["目前可用資料未形成強烈即時淹水訊號。"] else reasons

def summary (realtimeLevel historicalLevel : RiskLevel) (confidence : ConfidenceLevel) : String :=
  if realtimeLevel = .unknown ∧ historicalLevel = .unknown ∧ confidence = .unknown then
    "目前資料不足，無法判定即時或歷史淹水風險；請把結果視為待查證，而不是低風險。"
  else if realtimeLevel = .unknown ∧ historicalLevel ≠ .unknown then
    "即時資料不足，無法判定即時風險；" ++ "歷史與淹水潛勢參考為" ++ historicalLevel.text ++
      "，資料可信度為" ++ confidence.text ++ "。"
  else
    "即時風險為" ++ realtimeLevel.text ++ "，歷史與淹水潛勢參考為" ++ historicalLevel.text ++
      "，資料可信度為" ++ confidence.text ++ "。"

/-- `round(value, 3)`. -/
def round3 (value : ℚ) : ℚ := roundHalfEven (value * 1000) / 1000

/-! ### `score_risk` -/

def scoreRisk (signals : List RiskEvidenceSignal) (now : ℤ) : RiskScoringResult :=
  let recency := some (realtimeRecency now)
  let realtimeScore := weightedScore signals .realtime recency
  let historicalScore :=
    applyAdminAreaOnlyHistoricalCap signals (weightedScore signals .historical none)
  let missing := missingSources signals now
  let hasHistory := hasWeightedEvidence signals .historical none
  let capped (score : ℚ) : ℚ := if score > 74 / 100 then 74 / 100 else score
  let confidence := confidenceScore signals
  let confidence := if missing ≠ [] then capped confidence else confidence
  let confidence := if !hasHistory then capped confidence else confidence
  let realtimeLevel := riskLevel realtimeScore (hasWeightedEvidence signals .realtime recency)
  let historicalLevel := riskLevel historicalScore hasHistory
  let level := confidenceLevel confidence (signals ≠ [])
  { scoreVersion := scoreVersion
    realtimeScore := round3 realtimeScore
    historicalScore := round3 historicalScore
    confidenceScore := round3 confidence
    realtimeLevel := realtimeLevel
    historicalLevel := historicalLevel
    confidenceLevel := level
    explanationSummary := summary realtimeLevel historicalLevel level
    mainReasons := mainReasons signals realtimeLevel historicalLevel now
    missingSources := missing }

end FloodRisk.Risk
