import FloodRisk.Assessment.Safety
import FloodRisk.Lib.Transition
import FloodRisk.Values

/-!
# The assessment service (api api/services/assessment.py, public_response_cache.py)

A request is answered from the memory cache or from the data it loads; a
response is cached when all five reads were available.
-/

namespace FloodRisk.Assessment
open Promotion Realtime Risk Transition

/-! ### Requests and responses (api/schemas.py) -/

structure RiskAssessRequest where
  lat : ℚ
  lng : ℚ
  radiusM : ℕ
  locationText : Option String := none
  radiusBounds : 50 ≤ radiusM ∧ radiusM ≤ 2000

structure RiskLevelBlock where
  level : RiskLevel
  confidence : ConfidenceLevel
  reasons : List String
  deriving DecidableEq

structure Explanation where
  summary : String
  mainReasons : List String
  missingSources : List String
  deriving DecidableEq

structure DataStatus where
  sources : List AssessmentSourceState
  missing : List String
  deriving DecidableEq

structure RiskAssessmentResponse where
  radiusM : ℕ
  scoreVersion : String
  createdAt : ℤ
  expiresAt : ℤ
  realtime : RiskLevelBlock
  historical : RiskLevelBlock
  confidence : ConfidenceLevel
  explanation : Explanation
  nearbyRealtimeCoverage : NearbyRealtimeCoverage
  asOf : ℤ
  overall : RiskLevelBlock
  dominantMode : DominantMode
  dataStatus : DataStatus
  deriving DecidableEq

/-! ### Signals of a record (api/services/public_evidence.py) -/

def rainfallRealtimeRiskFactor (rainfall1hMm : ℚ) : ℚ :=
  if rainfall1hMm ≥ 80 then 1
  else if rainfall1hMm ≥ 40 then 7 / 10
  else if rainfall1hMm ≥ 20 then 35 / 100
  else if rainfall1hMm ≥ 10 then 15 / 100
  else 0

def waterLevelRealtimeRiskFactor (waterLevelM warningLevelM : ℚ) : ℚ :=
  let ratio := waterLevelM / warningLevelM
  if ratio ≥ 1 then 1
  else if ratio ≥ 8 / 10 then 8 / 10
  else if ratio ≥ 5 / 10 then 5 / 10
  else if ratio ≥ 25 / 100 then 25 / 100
  else 0

def floodDepthRealtimeRiskFactor (floodDepthCm : ℚ) : ℚ :=
  if floodDepthCm ≥ 50 then 1
  else if floodDepthCm ≥ 30 then 8 / 10
  else if floodDepthCm ≥ 15 then 5 / 10
  else if floodDepthCm ≥ 3 then 25 / 100
  else 0

def evidenceRealtimeRiskFactor (record : EvidenceRecord) : Option ℚ :=
  record.realtimeRiskFactor.or <|
    match record.eventType with
    | .rainfall => record.rainfallMm1h.map rainfallRealtimeRiskFactor
    | .waterLevel =>
        match record.waterLevelM, record.warningLevelM with
        | some waterLevel, some warningLevel =>
            if warningLevel > 0 then some (waterLevelRealtimeRiskFactor waterLevel warningLevel)
            else none
        | _, _ => none
    | .floodReport => record.floodDepthCm.map floodDepthRealtimeRiskFactor
    | _ => none

/-- `signal_from_evidence(evidence_from_record(record))`. -/
def signalFromRecord (record : EvidenceRecord) : RiskEvidenceSignal where
  sourceType := record.sourceType
  eventType := record.eventType
  confidence := record.confidence
  distanceToQueryM := record.distanceToQueryM
  freshnessScore := record.freshnessScore
  sourceWeight := record.sourceWeight
  riskFactor := (evidenceRealtimeRiskFactor record).getD 1
  observedAt := record.observedAt.or record.occurredAt
  evidenceScope := record.evidenceScope
  locationPrecision := record.locationPrecision

/-! ### `_data_status` -/

def isMerelyDelayed (state : AssessmentSourceState) : Bool :=
  state.state = .degraded && state.reasonCode = .delayed

/-- `SIGNAL_LABELS`, in the order of its entries. -/
def labelledSignalTypes : List SignalType := allSignalTypes

def delayedSourcesSummary (states : List AssessmentSourceState) : Option String :=
  let delayed := (states.filter isMerelyDelayed).map AssessmentSourceState.signalType
  if delayed = [] then none
  else
    let ordered := labelledSignalTypes.filter fun signalType => signalType ∈ delayed
    some ("部分官方即時來源更新較慢（" ++
      String.intercalate "、" (ordered.map signalLabel).eraseDups ++ "），仍可作當下參考。")

def availabilityMessages (data : AssessmentData) : List (Bool × String) :=
  [(data.currentAvailable, "官方即時資料庫讀取暫時無法使用。"),
    (data.historicalAvailable, "歷史資料庫讀取暫時無法使用。"),
    (data.coverageAvailable, "附近即時涵蓋資料暫時無法使用。"),
    (data.healthAvailable, "官方來源健康狀態暫時無法使用。"),
    (data.jurisdictionAvailable, "查詢點行政區解析暫時無法使用。")]

/-- Every state but `fresh` and `not_applicable` is reported verbatim. -/
def isVerbatimState (state : SourceState) : Bool :=
  state = .failed || state = .stale || state = .disabled || state = .degraded

def dataStatus (data : AssessmentData) : DataStatus :=
  let required := data.sourceStates.filter fun state =>
    state.sourceKey ∈ data.requiredRealtimeSourceKeys
  let verbatim := (required.filter fun state =>
    isVerbatimState state.state && !isMerelyDelayed state).filterMap fun state =>
      state.message.filter (· ≠ "")
  let unavailable := ((availabilityMessages data).filter fun message => !message.1).map Prod.snd
  { sources := data.sourceStates
    missing := (verbatim ++ (delayedSourcesSummary required).toList ++
      data.localMachineFeedMissing ++ unavailable).eraseDups }

/-! ### `AssessmentService.assess` -/

def microseconds (seconds : ℤ) : ℤ := seconds * 1000000

def recentHistoryRefreshAfter : ℤ := microseconds (30 * 86400)

/-- `_history_needs_refresh`. -/
def historyNeedsRefresh (records : List EvidenceRecord) (now : ℤ) : Bool :=
  let observed := (records.filter fun record => isPrecisionWeighted record.eventType).filterMap
    fun record => record.observedAt.or record.occurredAt
  observed.all fun observedAt => observedAt < now - recentHistoryRefreshAfter

/-- What the service is constructed with; a lookup may reach other services. -/
structure AssessmentService where
  scorer : List RiskEvidenceSignal → ℤ → RiskScoringResult
  recentHistoryLookup :
    Option (RiskAssessRequest → AssessmentData → ℤ → List EvidenceRecord) := none
  cacheSeconds : ℕ := 0

structure AssessCall where
  request : RiskAssessRequest
  data : AssessmentData
  now : ℤ

namespace AssessmentService

variable (service : AssessmentService)

def recentHistory (call : AssessCall) : List EvidenceRecord :=
  match service.recentHistoryLookup with
  | none => []
  | some lookup =>
      if historyNeedsRefresh call.data.historical call.now then
        lookup call.request call.data call.now
      else []

def respond (call : AssessCall) : RiskAssessmentResponse :=
  let data := call.data
  let scored := service.scorer (data.currentOfficial.map signalFromRecord) call.now
  let historicalScoring :=
    service.scorer ((service.recentHistory call ++ data.historical).map signalFromRecord) call.now
  let currentScoring := applyRealtimeSafety scored data
  let overall := composeBaseOverall currentScoring historicalScoring
  let status := dataStatus data
  { radiusM := call.request.radiusM
    scoreVersion := currentScoring.scoreVersion
    createdAt := call.now
    expiresAt := call.now + microseconds (10 * 60)
    realtime :=
      ⟨currentScoring.realtimeLevel, currentScoring.confidenceLevel, currentScoring.mainReasons⟩
    historical :=
      ⟨historicalScoring.historicalLevel, historicalScoring.confidenceLevel,
        historicalScoring.mainReasons⟩
    confidence := overall.confidence
    explanation :=
      { summary := overall.reasons.headD currentScoring.explanationSummary
        mainReasons := overall.reasons
        missingSources := (currentScoring.missingSources ++ status.missing).eraseDups }
    nearbyRealtimeCoverage := data.nearbyCoverage
    asOf := call.now
    overall := ⟨overall.level, overall.confidence, overall.reasons⟩
    dominantMode := overall.dominantMode
    dataStatus := status }

end AssessmentService

/-! ### The memory cache -/

/-- `_response_cache_key`, of one configuration. -/
structure ResponseCacheKey where
  lat : ℚ
  lng : ℚ
  radiusM : ℕ
  locationText : String
  deriving DecidableEq

def round5 (value : ℚ) : ℚ := roundHalfEven (value * 100000) / 100000

def responseCacheKey (request : RiskAssessRequest) : ResponseCacheKey where
  lat := round5 request.lat
  lng := round5 request.lng
  radiusM := request.radiusM
  locationText := strip (request.locationText.getD "")

structure CachedResponse where
  key : ResponseCacheKey
  cachedAt : ℤ
  response : RiskAssessmentResponse

/-- `_MEMORY_CACHE`, in the order in which its keys were first stored. -/
abbrev MemoryCache := List CachedResponse

def memoryCacheMaxEntries : ℕ := 128

def storeResponse (entry : CachedResponse) (cache : MemoryCache) : MemoryCache :=
  let stored :=
    if cache.any fun other => other.key = entry.key then
      cache.map fun other => if other.key = entry.key then entry else other
    else cache ++ [entry]
  stored.drop (stored.length - memoryCacheMaxEntries)

/-- `_memory_cached_response`; an expired entry is dropped. -/
def cachedResponse (cacheSeconds : ℕ) (key : ResponseCacheKey) (now : ℤ) (cache : MemoryCache) :
    Option RiskAssessmentResponse × MemoryCache :=
  match cache.find? fun entry => entry.key = key with
  | none => (none, cache)
  | some entry =>
      if now - entry.cachedAt ≥ microseconds cacheSeconds then
        (none, cache.filter fun other => other.key ≠ key)
      else (some entry.response, cache)

def allReadsAvailable (data : AssessmentData) : Bool :=
  data.currentAvailable && data.historicalAvailable && data.coverageAvailable &&
    data.healthAvailable && data.jurisdictionAvailable

namespace AssessmentService

variable (service : AssessmentService)

/-- `assess`; no cache is used when its lifetime is zero. -/
def assess (cache : MemoryCache) (call : AssessCall) : RiskAssessmentResponse × MemoryCache :=
  if service.cacheSeconds = 0 then (service.respond call, cache)
  else
    let key := responseCacheKey call.request
    match cachedResponse service.cacheSeconds key call.now cache with
    | (some response, next) => (response, next)
    | (none, next) =>
        let response := service.respond call
        if allReadsAvailable call.data then
          (response, storeResponse ⟨key, call.now, response⟩ next)
        else (response, next)

def assessStep (cache : MemoryCache) (call : AssessCall) : MemoryCache :=
  (service.assess cache call).2

end AssessmentService

/-! ### What a response rests on -/

variable {service : AssessmentService} {cache : MemoryCache} {calls : List AssessCall}
  {call origin : AssessCall}

/-- A low level of the response has the support of the data. -/
structure LowIsSupported (response : RiskAssessmentResponse) (data : AssessmentData) : Prop where
  realtime : response.realtime.level = .low → SupportsLow data
  overall : response.overall.level = .low → response.realtime.level = .low ∨
    response.realtime.level = .unknown ∧ response.historical.level = .low ∧
      response.dominantMode = .historicalContext

theorem lowIsSupported_respond (service : AssessmentService) (call : AssessCall) :
    LowIsSupported (service.respond call) call.data :=
  ⟨supportsLow_of_safe, low_of_composed⟩

structure CachedFrom (service : AssessmentService) (entry : CachedResponse) (origin : AssessCall) :
    Prop where
  key : entry.key = responseCacheKey origin.request
  cachedAt : entry.cachedAt = origin.now
  response : entry.response = service.respond origin
  available : allReadsAvailable origin.data = true

def CacheSound (service : AssessmentService) (calls : List AssessCall) (cache : MemoryCache) :
    Prop :=
  ∀ entry ∈ cache, ∃ origin ∈ calls, CachedFrom service entry origin

theorem mem_storeResponse {entry stored : CachedResponse} (h : stored ∈ storeResponse entry cache) :
    stored = entry ∨ stored ∈ cache := by
  have hmem := List.mem_of_mem_drop h
  split at hmem
  · obtain ⟨other, hother, heq⟩ := List.mem_map.mp hmem
    split at heq
    · exact Or.inl heq.symm
    · exact Or.inr (heq ▸ hother)
  · rcases List.mem_append.mp hmem with hold | hnew
    · exact Or.inr hold
    · exact Or.inl (List.mem_singleton.mp hnew)

theorem exists_entry_of_cached {seconds : ℕ} {key : ResponseCacheKey} {now : ℤ}
    {response : RiskAssessmentResponse}
    (h : (cachedResponse seconds key now cache).1 = some response) :
    ∃ entry ∈ cache, entry.key = key ∧ entry.response = response ∧
      now - entry.cachedAt < microseconds seconds := by
  unfold cachedResponse at h
  cases hfind : cache.find? fun entry => entry.key = key with
  | none =>
      rw [hfind] at h
      exact absurd h (by simp)
  | some entry =>
      rw [hfind] at h
      simp only at h
      split at h
      · exact absurd h (by simp)
      · rename_i hlive
        have hkey := List.find?_some hfind
        exact ⟨entry, List.mem_of_find?_eq_some hfind, of_decide_eq_true hkey, Option.some.inj h,
          not_le.mp hlive⟩

theorem cachedResponse_subset {seconds : ℕ} {key : ResponseCacheKey} {now : ℤ}
    {entry : CachedResponse} (h : entry ∈ (cachedResponse seconds key now cache).2) :
    entry ∈ cache := by
  unfold cachedResponse at h
  split at h
  · exact h
  · split at h
    · exact List.mem_of_mem_filter h
    · exact h

theorem CacheSound.mono {more : List AssessCall} (h : CacheSound service calls cache)
    (hsub : ∀ origin ∈ calls, origin ∈ more) : CacheSound service more cache := by
  intro entry hentry
  obtain ⟨origin, horigin, hfrom⟩ := h entry hentry
  exact ⟨origin, hsub origin horigin, hfrom⟩

theorem CacheSound.store (h : CacheSound service calls cache) (hcall : call ∈ calls)
    (havailable : allReadsAvailable call.data = true) :
    CacheSound service calls
      (storeResponse ⟨responseCacheKey call.request, call.now, service.respond call⟩ cache) := by
  intro entry hentry
  rcases mem_storeResponse hentry with hnew | hold
  · rw [hnew]
    exact ⟨call, hcall, rfl, rfl, rfl, havailable⟩
  · exact h entry hold

theorem CacheSound.step (h : CacheSound service calls cache) (call : AssessCall) :
    CacheSound service (calls ++ [call]) (service.assessStep cache call) := by
  have hwider : CacheSound service (calls ++ [call]) cache :=
    h.mono fun origin horigin => List.mem_append_left _ horigin
  unfold AssessmentService.assessStep AssessmentService.assess
  split
  · exact hwider
  · simp only
    split
    · rename_i response next hcached
      intro entry hentry
      apply hwider
      apply cachedResponse_subset
      rw [hcached]
      exact hentry
    · rename_i next hmissed
      have hnext : CacheSound service (calls ++ [call]) next := by
        intro entry hentry
        apply hwider
        apply cachedResponse_subset
        rw [hmissed]
        exact hentry
      split
      · rename_i havailable
        have hcall : call ∈ calls ++ [call] := List.mem_append_right _ List.mem_cons_self
        simp only
        exact hnext.store hcall havailable
      · exact hnext

theorem CacheSound.run (h : CacheSound service calls cache) (more : List AssessCall) :
    CacheSound service (calls ++ more) (Transition.run service.assessStep cache more) := by
  induction more generalizing calls cache with
  | nil =>
      rw [List.append_nil]
      exact h
  | cons call rest ih =>
      have hrest := ih (h.step call)
      rw [List.append_assoc] at hrest
      exact hrest

/-- The data of a response: the call's own, or those of an earlier call with the
same key whose reads were all available, within the lifetime of the cache. -/
def RestsOn (service : AssessmentService) (call origin : AssessCall) : Prop :=
  origin = call ∨
    (responseCacheKey origin.request = responseCacheKey call.request ∧
      allReadsAvailable origin.data = true ∧
      call.now - origin.now < microseconds service.cacheSeconds)

theorem assess_respond (h : CacheSound service calls cache) (call : AssessCall) :
    ∃ origin ∈ calls ++ [call], RestsOn service call origin ∧
      (service.assess cache call).1 = service.respond origin := by
  have hown : call ∈ calls ++ [call] := List.mem_append_right _ List.mem_cons_self
  unfold AssessmentService.assess
  split
  · exact ⟨call, hown, Or.inl rfl, rfl⟩
  · simp only
    split
    · rename_i response next hcached
      have hhit := congrArg Prod.fst hcached
      obtain ⟨entry, hentry, hkey, hresponse, hlive⟩ := exists_entry_of_cached hhit
      obtain ⟨origin, horigin, hfrom⟩ := h entry hentry
      refine ⟨origin, List.mem_append_left _ horigin, Or.inr ⟨?_, hfrom.available, ?_⟩, ?_⟩
      · rw [← hfrom.key, hkey]
      · rw [← hfrom.cachedAt]
        exact hlive
      · rw [← hresponse, hfrom.response]
    · split
      · exact ⟨call, hown, Or.inl rfl, rfl⟩
      · exact ⟨call, hown, Or.inl rfl, rfl⟩

/-- In every run of requests a response with the realtime level `低` rests on
data that support it, and one with the overall level `低` has that realtime
level or shows the historical level as historical context. -/
theorem low_rests_on_supporting_data (service : AssessmentService) (calls : List AssessCall)
    (call : AssessCall) :
    ∃ origin ∈ calls ++ [call], RestsOn service call origin ∧
      (service.assess (run service.assessStep [] calls) call).1 = service.respond origin ∧
      LowIsSupported (service.assess (run service.assessStep [] calls) call).1 origin.data := by
  have hempty : CacheSound service [] [] := fun entry hentry => absurd hentry List.not_mem_nil
  have hsound := hempty.run calls
  rw [List.nil_append] at hsound
  obtain ⟨origin, horigin, hrests, heq⟩ := assess_respond hsound call
  refine ⟨origin, horigin, hrests, heq, ?_⟩
  rw [heq]
  exact lowIsSupported_respond service origin

/-! ### Low history while the current read fails -/

def coveredSignal (signalType : SignalType) : NearbyCoverageRow where
  adapterKey := if signalType = .rainfall then "official.cwa.rainfall" else "official.wra.water_level"
  sourceId := "station"
  eventType := signalText signalType
  observedAt := some 0
  distanceToQueryM := 200
  freshnessState := .fresh

/-- A quiet rain gauge, a level gauge nearby and one weak record of the past. -/
def quietData : AssessmentData where
  currentOfficial :=
    [{ sourceType := .official
       eventType := .rainfall
       observedAt := some 0
       confidence := 9 / 10
       freshnessScore := 1
       sourceWeight := 1
       rainfallMm1h := some 0
       evidenceScope := .current }]
  historical :=
    [{ sourceType := .official
       eventType := .floodReport
       observedAt := some 0
       distanceToQueryM := some 1800
       confidence := 6 / 10
       freshnessScore := 1
       sourceWeight := 1
       evidenceScope := .historical
       locationPrecision := .point }]
  nearbyCoverage := buildNearbyRealtimeCoverage
    { rows := [coveredSignal .rainfall, coveredSignal .waterLevel]
      queryRadiusM := 2000
      evaluatedAt := 0
      sourceHealthChecked := true
      jurisdictionStatus := .verified
      jurisdictionChecked := true
      jurisdictionCompleteSignalTypes := requiredSignalTypes }
  sourceStates := []
  requiredRealtimeSourceKeys := []
  currentAvailable := true
  historicalAvailable := true
  coverageAvailable := true
  healthAvailable := true
  jurisdictionAvailable := true
  localMachineFeedMissing := []

def quietCall (data : AssessmentData) : AssessCall where
  request := { lat := 23, lng := 120, radiusM := 2000, radiusBounds := by omega }
  data := data
  now := 0

def scoringService : AssessmentService where
  scorer := scoreRisk

/-- With the current read failed the weak record makes the overall level `低`;
with only the historical read failed the realtime level stays `低`. -/
theorem failed_current_read_yields_overall_low :
    let failedCurrent := quietCall { quietData with currentOfficial := [], currentAvailable := false }
    let failedHistory := quietCall { quietData with historical := [], historicalAvailable := false }
    ((scoringService.assess [] failedCurrent).1.realtime.level,
      (scoringService.assess [] failedCurrent).1.overall.level) = (.unknown, .low) ∧
    (scoringService.assess [] failedHistory).1.realtime.level = .low := by
  decide +kernel

end FloodRisk.Assessment
