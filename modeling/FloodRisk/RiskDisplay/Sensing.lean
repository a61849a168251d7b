import FloodRisk.RiskDisplay.Coverage
import Mathlib.Algebra.Order.Floor.Defs
import Mathlib.Data.Rat.Floor

/-!
# The nearby sensing block (web lib/risk-display/coverage.ts)

`nearbySensingState` is the function of that name for an assessment that has a
coverage.  The formats of the locale are parameters.
-/

namespace FloodRisk.RiskDisplay
open Promotion
open Realtime (SignalType CoverageLevel SignalAvailability signalText)

/-! ### Formats (format.ts) -/

/-- The formats of `zh-TW`: whole numbers, numbers with at most so many
fraction digits, and date times. -/
structure LocaleFormats where
  integer : ℤ → String
  decimal : ℕ → ℚ → String
  dateTime : ℤ → String

/-- `Math.round`. -/
def mathRound (value : ℚ) : ℤ := ⌊value + 1 / 2⌋

def formatDistance (formats : LocaleFormats) : Option ℚ → String
  | none => "未提供"
  | some value => formats.integer (mathRound value) ++ " 公尺"

def formatDistanceMeters (formats : LocaleFormats) : Option ℚ → String
  | none => "半徑內無新鮮感測"
  | some value =>
      let normalized := max 0 value
      if normalized < 1000 then formats.integer (mathRound normalized) ++ " 公尺"
      else formats.decimal 1 (normalized / 1000) ++ " 公里"

def isJsSpace (c : Char) : Bool :=
  c.toNat ∈ [9, 10, 11, 12, 13, 32, 0xa0, 0x1680, 0x2028, 0x2029, 0x202f, 0x205f, 0x3000,
    0xfeff] || (0x2000 ≤ c.toNat && c.toNat ≤ 0x200a)

/-- `String.prototype.trim`. -/
def jsTrim (text : String) : String :=
  String.ofList (((text.toList.dropWhile isJsSpace).reverse.dropWhile isJsSpace).reverse)

/-- `text.trim() || fallback`. -/
def trimmedOr (text fallback : String) : String :=
  if jsTrim text = "" then fallback else jsTrim text

/-! ### The short summary of a coverage -/

inductive Tone where
  | good | warn | poor | muted
  deriving DecidableEq, Repr

def nearbyCoverageLabels : CoverageLevel → String
  | .high => "附近即時感測充足"
  | .low => "附近即時觀測有限"
  | .medium => "附近即時感測中等"
  | .noLocalSensor => "附近即時資料不足"
  | .unavailable => "即時覆蓋暫時無法評估"

def nearbyCoverageFallbackSummaries : CoverageLevel → String
  | .high => "查詢點附近有新鮮即時感測資料，感測密度充足。"
  | .low => "查詢點附近有新鮮即時感測資料，但感測密度偏少。"
  | .medium => "查詢點附近有新鮮即時感測資料，感測密度中等。"
  | .noLocalSensor =>
      "查詢點半徑內沒有新鮮在地感測資料；縣市或資料源仍可能有資料。"
  | .unavailable => "即時感測覆蓋暫時無法評估，不能判斷附近是否有感測器。"

structure NearbyCoverageSummaryState where
  badge : String
  summary : String
  tone : Tone
  deriving DecidableEq

def nearbyCoverageSummary : Option NearbyRealtimeCoverage → NearbyCoverageSummaryState
  | none =>
      { badge := nearbyCoverageLabels .unavailable
        summary := "即時感測覆蓋尚未回傳，無法判斷附近是否有感測器。"
        tone := .muted }
  | some coverage =>
      { badge := nearbyCoverageLabels coverage.overallLevel
        summary := trimmedOr coverage.summary
          (nearbyCoverageFallbackSummaries coverage.overallLevel)
        tone :=
          match coverage.overallLevel with
          | .high => .good
          | .noLocalSensor => .poor
          | .unavailable => .muted
          | .low | .medium => .warn }

/-! ### Summary and note -/

def coverageTone : CoverageLevel → Tone
  | .high => .good
  | .medium => .warn
  | .low | .noLocalSensor => .poor
  | .unavailable => .muted

/-- `realtimeEventLabels`. -/
def nearbySignalLabel : SignalType → String
  | .floodDepth => "淹水深度"
  | .floodWarning => "官方警戒"
  | .pumpOrGateStatus => "抽水站／水門狀態"
  | .rainfall => "雨量"
  | .sewerWaterLevel => "下水道水位"
  | .statusOnly => "狀態線索"
  | .waterLevel => "水位"

/-- The summary of a partial coverage after its `observationScope`. -/
def partialIssueText : SourceIssueCause → String
  | .jurisdictionUnverified => "，但縣市邊界或管轄來源清單尚未完成審核。"
  | .inventoryUnverified => "，但另有來源的站點清冊完整性尚未驗證。"
  | .updatePipelineStalled => "，但另有來源的背景更新已停滯，覆蓋並不完整。"
  | .sourceFailed => "，但另有來源或更新管線異常，覆蓋並不完整。"
  | .sourceDegraded => "，但部分來源更新較慢或不完整。"
  | .sourceNotConfigured => "，但另有必要來源尚未啟用，覆蓋並不完整。"
  | .jurisdictionMappingMissing | .healthUnknown => "，但另有來源狀態不明，覆蓋並不完整。"

def issueText : SourceIssueCause → String
  | .updatePipelineStalled =>
      "即時來源的背景更新已停滯，目前無法確認附近是否真的沒有測站。"
  | .sourceFailed => "即時資料來源或更新管線異常，目前無法確認附近是否真的沒有測站。"
  | .sourceDegraded =>
      "即時資料來源目前僅部分可用或有所延遲，無法確認附近是否真的沒有測站。"
  | .sourceNotConfigured => "必要的即時資料來源尚未啟用，無法確認附近是否真的沒有測站。"
  | .jurisdictionMappingMissing =>
      "本轄區的即時來源對應清單缺失，系統這次沒有讀取任何來源，" ++
        "無法確認附近是否真的沒有測站。"
  | .jurisdictionUnverified =>
      "縣市邊界或管轄來源清單尚未完成審核，不能確認附近真的沒有測站。"
  | .inventoryUnverified =>
      "來源目前可運作，但站點清冊完整性尚未驗證，不能確認附近真的沒有測站。"
  | .healthUnknown =>
      "目前無法取得完整的即時來源健康狀態，不能確認附近是否真的沒有測站。"

def confirmedSummary : String := "來源運作正常，且站點清冊顯示感測搜尋範圍內沒有測站。"

def nearbySensingCoverageSummary (formats : LocaleFormats) (coverage : NearbyRealtimeCoverage)
    (diagnosis : CoverageDiagnosis) : String :=
  let signals := coverage.signalBreakdown.filter hasSignalObservation
  let labels := (signals.map fun signal => nearbySignalLabel signal.signalType).eraseDups
  let gaps := coverage.missingSignalTypes.map nearbySignalLabel
  let nearestText :=
    match (signals.filterMap CoverageSignal.nearestDistanceM).min? with
    | none => ""
    | some nearest => "；最近觀測距查詢點 " ++ formatDistance formats (some nearest)
  if coverage.overallLevel = .unavailable then
    "本次無法判讀附近即時感測覆蓋，請改看風險摘要與判讀依據。"
  else
    match diagnosis.sourceIssue with
    | some issue =>
        if diagnosis.isPartial then
          (if diagnosis.hasUsableObservation then "附近仍有可用即時觀測"
            else "附近仍有區域參考觀測") ++ partialIssueText issue
        else issueText issue
    | none =>
        if diagnosis.confirmedNoStation then confirmedSummary
        else if signals = [] then
          trimmedOr coverage.summary
            "本次沒有可列出的即時觀測；即時風險需要搭配其他資料判讀。"
        else if (signals.any fun signal => signal.coverageLevel = .noLocalSensor &&
              signal.nearestDistanceM.isSome && 0 < usableCount signal) &&
            coverage.overallLevel = .noLocalSensor then
          trimmedOr coverage.summary "近距觀測不足；較遠測站僅能作區域參考。"
        else if (signals.all fun signal => usableCount signal = 0) &&
            coverage.overallLevel = .noLocalSensor then
          trimmedOr coverage.summary "最近觀測已過期，不能代表當下狀況。"
        else
          "附近有 " ++ toString signals.length ++ " 類觀測" ++
            (if labels = [] then "" else "（" ++ String.intercalate "、" labels ++ "）") ++
            nearestText ++
            (if gaps = [] then "。" else "；仍缺 " ++ String.intercalate "、" gaps ++ "。")

def issueNote : SourceIssueCause → String
  | .updatePipelineStalled =>
      "更新管線停滯是資料缺口，不代表現地安全；請搭配其他官方資訊判讀。"
  | .sourceFailed =>
      "來源或更新管線異常是資料缺口，不代表現地安全；請搭配其他官方資訊判讀。"
  | .sourceDegraded => "來源目前部分可用或更新延遲，缺少觀測不代表現地安全。"
  | .sourceNotConfigured => "必要來源尚未啟用；這是系統覆蓋缺口，不代表現地安全。"
  | .jurisdictionMappingMissing =>
      "本轄區的來源對應清單缺失，這是系統故障而非來源關閉；缺資料不代表現地安全。"
  | .jurisdictionUnverified =>
      "縣市邊界或管轄來源清單尚未驗證；目前沒找到觀測不等於附近真的沒有測站。"
  | .inventoryUnverified =>
      "站點清冊完整性尚未驗證；目前沒找到觀測不等於附近真的沒有測站。"
  | .healthUnknown => "來源健康狀態目前不明；無法把缺少觀測解讀為附近沒有測站。"

def nearbyCoverageNote (coverage : NearbyRealtimeCoverage) (diagnosis : CoverageDiagnosis) :
    String :=
  if coverage.overallLevel = .unavailable then
    "附近感測資料暫不可用；不要只用此區塊判斷現地安全。"
  else
    match diagnosis.sourceIssue with
    | some issue => issueNote issue
    | none =>
        if diagnosis.confirmedNoStation then
          "範圍內沒有測站只代表感測覆蓋缺口，不代表現地安全。"
        else if coverage.missingSignalTypes ≠ [] then
          "缺口代表本次查詢範圍內沒有取得該類近距觀測，不等於現地安全。"
        else "附近觀測只描述感測覆蓋與新鮮度，不會單獨改變綜合風險。"

/-! ### The badge -/

def partialIssueBadge : SourceIssueCause → String
  | .sourceDegraded => "附近觀測：可用但更新不齊"
  | .healthUnknown => "附近觀測：部分來源狀態不明"
  | .jurisdictionUnverified => "附近觀測：部分管轄待驗證"
  | .inventoryUnverified => "附近觀測：部分清冊待驗證"
  | _ => "附近觀測：可用但不完整"

def issueBadge : SourceIssueCause → String
  | .updatePipelineStalled => "附近觀測：更新管線停滯"
  | .sourceDegraded => "附近觀測：來源受限"
  | .sourceNotConfigured => "附近觀測：來源未啟用"
  | .jurisdictionUnverified => "附近觀測：管轄來源待驗證"
  | .inventoryUnverified => "附近觀測：站點清冊待驗證"
  | .healthUnknown => "附近觀測：來源狀態不明"
  | .sourceFailed | .jurisdictionMappingMissing => "附近觀測：來源異常"

def confirmedBadge : String := "附近觀測：範圍內無站"

def coverageBadge (coverage : NearbyRealtimeCoverage) (diagnosis : CoverageDiagnosis) : String :=
  let measurementStates := (primaryMeasurementSignals coverage).map signalAvailability
  let usable := measurementStates.countP isUsableState
  if coverage.overallLevel = .unavailable then "附近觀測暫不可判斷"
  else
    match diagnosis.sourceIssue with
    | some issue =>
        if diagnosis.isPartial then
          if !diagnosis.hasUsableObservation && diagnosis.hasRegionalReference then
            "附近觀測：僅區域參考且不完整"
          else partialIssueBadge issue
        else issueBadge issue
    | none =>
        if diagnosis.confirmedNoStation then confirmedBadge
        else if 0 < usable then
          if usable < measurementStates.length ∨ coverage.missingSignalTypes ≠ [] then
            "附近觀測：部分可用"
          else if .degradedNearby ∈ measurementStates then "附近觀測：可用但有延遲"
          else "附近觀測：可用"
        else if .regionalReference ∈ measurementStates then "附近觀測：僅區域參考"
        else if .staleObservation ∈ measurementStates then "附近觀測：已過期"
        else "附近觀測：資料不足"

/-! ### The items -/

def missingSignalDetail (formats : LocaleFormats) (coverage : NearbyRealtimeCoverage)
    (signal : CoverageSignal) (searchRadiusM : ℚ) : String :=
  let radius := formatDistanceMeters formats (some searchRadiusM)
  let missingCause := signal.missingCause.map fun _ =>
    ((noStationProofIssue coverage signal).map SourceIssueCause.cause).getD
      (effectiveMissingCause signal)
  match missingCause with
  | some .noStationInRange => radius ++ "內確認沒有測站"
  | some .updatePipelineStalled => "背景更新管線停滯，無法確認附近測站"
  | some .sourceFailed => "來源或更新管線異常，無法確認附近測站"
  | some .sourceDegraded => "來源部分可用或更新延遲，無法確認附近測站"
  | some .sourceNotConfigured => "來源尚未啟用，無法確認附近測站"
  | some .inventoryUnverified => "來源正常，但站點清冊完整性尚未驗證"
  | some .jurisdictionUnverified => "縣市邊界或管轄來源清單尚未驗證"
  | some .healthUnknown => "來源健康狀態不明，無法確認附近測站"
  | _ =>
      if signal.availabilityState = some .sourceUnavailable then
        "來源或更新管線異常，無法確認附近測站"
      else if signal.availabilityState = some .sourceStatusUnknown then
        "來源健康狀態不明，無法確認附近測站"
      else radius ++ "內未取得觀測"

def realtimeScoringRadiusM : ℚ := 5000

def availabilityText : SignalAvailability → String
  | .degradedNearby => "更新較慢"
  | .freshNearby => "新鮮"
  | .noStation => "無可用觀測"
  | .regionalReference => "僅供區域參考"
  | .sourceStatusUnknown => "來源狀態不明"
  | .sourceUnavailable => "讀值不可用"
  | .staleObservation => "已過期"

def sourceStatusText : Option Realtime.MissingCause → String
  | some .updatePipelineStalled => "；更新管線停滯"
  | some .sourceFailed => "；來源異常"
  | some .sourceDegraded => "；來源受限"
  | some .healthUnknown => "；來源狀態不明"
  | some .jurisdictionUnverified => "；管轄來源待驗證"
  | some .inventoryUnverified => "；站點清冊待驗證"
  | _ => ""

def signalDetail (formats : LocaleFormats) (coverage : NearbyRealtimeCoverage)
    (signal : CoverageSignal) (searchRadiusM : ℚ) : String :=
  match signal.nearestDistanceM with
  | none => missingSignalDetail formats coverage signal searchRadiusM
  | some distance =>
      let observedAt :=
        match signal.nearestObservedAt with
        | none => ""
        | some observed => "；" ++ formats.dateTime observed
      let scoringRadius := formatDistanceMeters formats (some realtimeScoringRadiusM)
      "距查詢點 " ++ formatDistanceMeters formats (some distance) ++ "；" ++
        availabilityText (signalAvailability signal) ++ sourceStatusText signal.missingCause ++
        observedAt ++
        (if distance ≤ realtimeScoringRadiusM then "；在 " ++ scoringRadius ++ "評分範圍內"
          else "；超出 " ++ scoringRadius ++ "評分範圍，僅供區域參考")

def observationUnitLabels : List (String × String) :=
  [("cm", "公分"), ("m", "公尺"), ("mm_1h", "毫米 / 1 小時")]

/-- The unit and the value that an item shows. -/
def formattedObservationValue (formats : LocaleFormats) (signal : CoverageSignal) :
    Option String × Option String :=
  match signal.nearestObservationValue, signal.nearestObservationUnit with
  | some value, some unit =>
      if unit = "" then (none, none)
      else
        (observationUnitLabels.lookup unit,
          some (formats.decimal (if unit = "m" then 2 else 1) value))
  | _, _ => (none, none)

inductive StatusTone where
  | fresh | delayed | regional | stale | missing
  deriving DecidableEq, Repr

def signalStatus (signal : CoverageSignal) : String × StatusTone :=
  match signalAvailability signal with
  | .freshNearby => ("可採用", .fresh)
  | .degradedNearby => ("更新較慢", .delayed)
  | .regionalReference => ("區域參考", .regional)
  | .staleObservation => ("已過期", .stale)
  | _ => ("無可用觀測", .missing)

/-- `signalInsight` of a value that is shown. -/
def valueInsight (formats : LocaleFormats) (signal : CoverageSignal) (value : ℚ) : String :=
  match signal.signalType with
  | .rainfall => "最近測站的近 1 小時累積雨量。"
  | .floodDepth =>
      if 0 < value then "感測器回報積淹水深度，請搭配現地與官方通報。"
      else "感測器目前讀值為 0；不代表查詢點一定沒有積水。"
  | .sewerWaterLevel => "目前下水道水位；未提供管高，不能換算滿管程度。"
  | .pumpOrGateStatus => "設備附近水位；不等同抽水站或水門的啟閉狀態。"
  | .waterLevel =>
      match signal.nearestReferenceValue with
      | some reference =>
          if reference - value ≤ 0 then "目前讀值已達站點警戒參考值。"
          else "距站點警戒參考值尚有 " ++ formats.decimal 2 (reference - value) ++ " 公尺。"
      | none => "目前水位；站點未提供警戒參考值，不能只看數字判定安全。"
  | .floodWarning | .statusOnly => "目前來源只提供觀測值，請搭配其他即時訊號判讀。"

def signalInsight (formats : LocaleFormats) (signal : CoverageSignal) : String :=
  match signalAvailability signal with
  | .staleObservation => "此讀值已過期，不能代表目前狀況。"
  | .sourceUnavailable => "來源目前異常；保留讀值僅供追溯，不能代表目前狀況。"
  | .sourceStatusUnknown => "來源狀態未確認；保留讀值僅供追溯，不能代表目前狀況。"
  | .regionalReference => "測站距離較遠，只能作區域背景參考。"
  | _ =>
      match signal.nearestObservationValue with
      | some value => valueInsight formats signal value
      | none =>
          if signal.nearestDistanceM = none then "本次沒有可顯示的測站讀值。"
          else "已找到測站，但來源沒有提供可顯示的實際讀值。"

/-! ### The block -/

structure SensingItem where
  id : String
  label : String
  detail : String
  insight : String
  status : String
  statusTone : StatusTone
  value : Option String
  unit : Option String
  deriving DecidableEq

structure SensingAvailability where
  available : ℕ
  delayed : ℕ
  fresh : ℕ
  regional : ℕ
  stale : ℕ
  total : ℕ
  deriving DecidableEq

structure NearbySensingState where
  badge : String
  availability : SensingAvailability
  gaps : List String
  tone : Tone
  summary : String
  items : List SensingItem
  note : String
  deriving DecidableEq

def sensingAvailability (signals : List CoverageSignal) : SensingAvailability :=
  let states := signals.map signalAvailability
  { available := states.countP isUsableState
    delayed := states.count .degradedNearby
    fresh := states.count .freshNearby
    regional := states.count .regionalReference
    stale := states.count .staleObservation
    total := signals.length }

/-- The note of an older payload, from the health statuses of `data_freshness`. -/
def legacySourceAvailabilityNote (dataFreshness : List String) : Option String :=
  if dataFreshness ≠ [] ∧ dataFreshness.all fun status =>
      status ∈ ["failed", "disabled", "unknown"] then
    some "本次資料來源均未提供可用狀態；這是資料缺口，不代表現地安全。"
  else none

def sensingItem (formats : LocaleFormats) (coverage : NearbyRealtimeCoverage) (searchRadiusM : ℚ)
    (signal : CoverageSignal) : SensingItem :=
  { id := signalText signal.signalType
    label := nearbySignalLabel signal.signalType
    detail := signalDetail formats coverage signal searchRadiusM
    insight := signalInsight formats signal
    status := (signalStatus signal).1
    statusTone := (signalStatus signal).2
    value := (formattedObservationValue formats signal).2
    unit := (formattedObservationValue formats signal).1 }

def nearbySensingState (formats : LocaleFormats) (dataFreshness : List String)
    (coverage : NearbyRealtimeCoverage) : NearbySensingState :=
  let searchRadiusM : ℚ := (coverage.radiusBucketsM.foldl max coverage.queryRadiusM : ℕ)
  let diagnosis := diagnoseCoverage coverage
  let sourceNote :=
    if coverage.sourceHealth.isSome ∨ coverage.sourceHealthChecked.isSome then none
    else legacySourceAvailabilityNote dataFreshness
  let orderedSignals := displayMeasurementSignals coverage
  { badge := coverageBadge coverage diagnosis
    availability := sensingAvailability orderedSignals
    gaps := coverage.missingSignalTypes.map nearbySignalLabel
    items := orderedSignals.map (sensingItem formats coverage searchRadiusM)
    note := sourceNote.getD (nearbyCoverageNote coverage diagnosis)
    summary := nearbySensingCoverageSummary formats coverage diagnosis
    tone :=
      match diagnosis.sourceIssue with
      | some .healthUnknown | some .inventoryUnverified | some .jurisdictionUnverified => .muted
      | some _ => .warn
      | none => coverageTone coverage.overallLevel }

end FloodRisk.RiskDisplay
