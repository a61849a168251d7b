import FloodRisk.Promotion.Store

/-!
# Public health of a source (api domain/realtime/nearby_coverage.py)

`sourceHealthDecision` is `_source_health_decision` in the order of its
branches, with the helpers it calls.  Instants are microseconds.
-/

namespace FloodRisk.Realtime
open Promotion

inductive SignalType where
  | rainfall | waterLevel | floodDepth | sewerWaterLevel | pumpOrGateStatus | floodWarning
  | statusOnly
  deriving DecidableEq, Repr

/-- The status of the latest job, `partial` when its adapter run says so. -/
inductive RunStatus where
  | queued | running | succeeded | partialRun | failed | skipped | disabled
  deriving DecidableEq, Repr

inductive HealthReason where
  | operational | delayed | upstreamUnavailable | upstreamStale | databaseUnavailable
  | pipelineUnavailable | pipelineStalled | sourceMisconfigured | disabled | notYetObserved
  deriving DecidableEq, Repr

structure RealtimeSourceHealthRow where
  isEnabled : Bool
  configuredHealthStatus : HealthStatus
  lastSuccessAt : Option ℤ
  lastFailureAt : Option ℤ
  latestRunStatus : Option RunStatus
  latestRunAt : Option ℤ
  latestObservedAt : Option ℤ
  latestIngestedAt : Option ℤ
  stationCount : Option ℤ
  isRegistered : Bool := true
  runtimeEnabled : Option Bool := none
  runtimeEnabledCheckedAt : Option ℤ := none
  runtimePipelineStatus : Option PipelineStatus := none
  runtimePipelineCheckedAt : Option ℤ := none
  runtimePipelineRunAt : Option ℤ := none
  runtimePipelineComplete : Bool := false
  freshStationCount : Option ℤ := none
  delayedStationCount : Option ℤ := none
  activeStationCount : Option ℤ := none
  latestRunErrorCode : Option String := none
  freshnessThresholdSeconds : Option ℤ := none
  runtimePipelineErrorCode : Option String := none

structure SourceHealthDecision where
  healthStatus : HealthStatus
  reasonCode : HealthReason
  message : String
  deriving DecidableEq, Repr

/-! ### Times -/

def seconds (count : ℤ) : ℤ := count * 1000000

def sourceWorkerDelayed : ℤ := seconds (15 * 60)

def sourceWorkerStopped : ℤ := seconds (30 * 60)

def defaultSourceFreshnessThresholdSeconds : ℤ := 1800

/-- `_age`; a value in the future has age zero. -/
def age (now : ℤ) (value : Option ℤ) : Option ℤ := value.map fun instant => max 0 (now - instant)

def padded (width : ℕ) (value : ℤ) : String :=
  String.ofList (List.replicate (width - (toString value).length) '0') ++ toString value

/-- Year, month and day of a day counted from the epoch, in the proleptic
Gregorian calendar; years start in March until the last line. -/
def civilDate (days : ℤ) : ℤ × ℤ × ℤ :=
  let shifted := days + 719468
  let era := shifted / 146097
  let dayOfEra := shifted - era * 146097
  let yearOfEra := (dayOfEra - dayOfEra / 1460 + dayOfEra / 36524 - dayOfEra / 146096) / 365
  let dayOfYear := dayOfEra - (365 * yearOfEra + yearOfEra / 4 - yearOfEra / 100)
  let month := (5 * dayOfYear + 2) / 153
  let calendarMonth := if month < 10 then month + 3 else month - 9
  (yearOfEra + era * 400 + (if calendarMonth ≤ 2 then 1 else 0), calendarMonth,
    dayOfYear - (153 * month + 2) / 5 + 1)

/-- `%Y/%m/%d %H:%M` in Taipei, eight hours east of UTC. -/
def taipeiMinute (instant : ℤ) : String :=
  let minutes := (instant + seconds (8 * 3600)) / seconds 60
  let date := civilDate (minutes / 1440)
  toString date.1 ++ "/" ++ padded 2 date.2.1 ++ "/" ++ padded 2 date.2.2 ++ " " ++
    padded 2 (minutes % 1440 / 60) ++ ":" ++ padded 2 (minutes % 60)

example : taipeiMinute (seconds 1709222340) = "2024/02/29 23:59" := by decide +kernel

/-! ### Failures -/

def endsWithAny (code : String) (suffixes : List String) : Bool :=
  suffixes.any fun suffix => suffix.toList.isSuffixOf code.toList

def databaseUnavailableErrorCodeSuffixes : List String :=
  ["QueryCanceled", "LockNotAvailable", "DeadlockDetected", "OperationalError", "InterfaceError",
    "AdminShutdown", "TooManyConnections"]

def transportErrorCodeSuffixes : List String :=
  ["ConnectionError", "FetchError", "HTTPError", "HttpError", "RemoteDisconnected", "URLError"]

def pipelineFailureDecision (errorCode : Option String) (fallbackMessage : String) :
    SourceHealthDecision :=
  let code := errorCode.getD ""
  if endsWithAny code databaseUnavailableErrorCodeSuffixes then
    ⟨.degraded, .databaseUnavailable,
      "本站資料庫暫時逾時或忙碌；資料取得正常，將於下一輪重試。"⟩
  else if endsWithAny code ["ConfigurationError"] then
    ⟨.failed, .sourceMisconfigured,
      "背景來源缺少必要設定或設定無效；未公開任何憑證內容。"⟩
  else if endsWithAny code ["TimeoutError"] then
    ⟨.failed, .upstreamUnavailable,
      "背景來源在限定時間內未完成回應；未公開內部連線資訊。"⟩
  else if endsWithAny code transportErrorCodeSuffixes then
    ⟨.failed, .upstreamUnavailable,
      "上游服務目前回應錯誤；本站每輪重試中，未公開內部連線資訊。"⟩
  else if endsWithAny code ["PayloadError"] then
    ⟨.failed, .upstreamUnavailable,
      "背景來源目前未提供可讀取的有效回應；未公開內部連線資訊。"⟩
  else ⟨.failed, .pipelineUnavailable, fallbackMessage⟩

/-- `_pipeline_outcome_matches_run`, of a row whose outcome was checked. -/
def pipelineOutcomeMatchesRun (row : RealtimeSourceHealthRow) (checkedAt : ℤ)
    (runAt : Option ℤ) : Bool :=
  match row.runtimePipelineRunAt with
  | some pipelineRunAt => runAt.all (· ≤ pipelineRunAt)
  | none => runAt.all (· ≤ checkedAt)

/-- The decision on a failed pipeline outcome that describes the latest run. -/
def pipelineOutcomeFailure (row : RealtimeSourceHealthRow) (runAt : Option ℤ) :
    Option SourceHealthDecision :=
  match row.runtimePipelineStatus, row.runtimePipelineCheckedAt with
  | some .failed, some checkedAt =>
      if pipelineOutcomeMatchesRun row checkedAt runAt then
        some (pipelineFailureDecision
          ((row.runtimePipelineErrorCode.filter (· ≠ "")).or row.latestRunErrorCode)
          "資料取得後的處理或發布流程未完成。")
      else none
  | _, _ => none

/-! ### Observations -/

def upstreamStaleDecision (row : RealtimeSourceHealthRow) (evaluatedAt : ℤ) (runAge : Option ℤ)
    (freshSeconds : ℤ) : Option SourceHealthDecision :=
  match runAge, row.latestObservedAt with
  | some elapsed, some observedAt =>
      if elapsed > sourceWorkerDelayed then none
      else if (age evaluatedAt (some observedAt)).all (· ≤ seconds (freshSeconds * 3)) then none
      else
        some ⟨.degraded, .upstreamStale,
          "上游資料來源自 " ++ taipeiMinute observedAt ++ " 起未更新；本站背景更新正常。"⟩
  | _, _ => none

/-- The stations of the row by freshness: the share of the active ones that
reported decides. -/
def stationShareDecision (fresh delayed active : ℤ)
    (upstreamStale : Option SourceHealthDecision) : SourceHealthDecision :=
  let usable := fresh + delayed
  if (fresh : ℚ) / active ≥ 8 / 10 then
    ⟨.healthy, .operational,
      "多數活躍站點皆在預期時間內更新" ++
        s!"（{fresh}/{active}）；清冊完整性另行判定。"⟩
  else if (usable : ℚ) / active ≥ 5 / 10 then
    ⟨.degraded, .delayed,
      s!"部分站點更新較慢（新鮮 {fresh}、較慢 {delayed}、活躍 {active}）。"⟩
  else if usable > 0 then ⟨.degraded, .upstreamUnavailable, "多數站點已超過可用時效。"⟩
  else
    upstreamStale.getD ⟨.failed, .upstreamUnavailable, "目前已觀測站點皆已超過可用時效。"⟩

def observedAgeDecision (observedAge freshSeconds : ℤ) : SourceHealthDecision :=
  if observedAge ≤ seconds freshSeconds then
    ⟨.healthy, .operational, "至少一個已觀測站點近期有更新；清冊完整性另行判定。"⟩
  else if observedAge ≤ seconds (freshSeconds * 3) then
    ⟨.degraded, .delayed, "站點觀測更新較慢。"⟩
  else ⟨.failed, .upstreamUnavailable, "站點觀測已超過可用時效。"⟩

def isEventContext (signalType : SignalType) : Bool :=
  signalType = .floodWarning || signalType = .statusOnly

def eventContextDecision (row : RealtimeSourceHealthRow) : SourceHealthDecision :=
  if row.latestRunStatus = some .succeeded ∧ row.latestRunErrorCode = some "no_active_event" then
    ⟨.healthy, .operational, "來源正常；目前沒有有效事件。"⟩
  else if row.latestObservedAt.isSome then
    ⟨.healthy, .operational, "來源正常；目前有有效事件或狀態。"⟩
  else ⟨.degraded, .upstreamUnavailable, "來源有更新紀錄，但無有效事件標記。"⟩

def freshnessSeconds (row : RealtimeSourceHealthRow) : ℤ :=
  (row.freshnessThresholdSeconds.filter (· > 0)).getD defaultSourceFreshnessThresholdSeconds

def stationDecision (row : RealtimeSourceHealthRow) (evaluatedAt : ℤ) (runAge : Option ℤ)
    (stationCount : ℤ) : SourceHealthDecision :=
  let freshSeconds := freshnessSeconds row
  let upstreamStale := upstreamStaleDecision row evaluatedAt runAge freshSeconds
  let active := max 0 (row.activeStationCount.getD stationCount)
  let unavailable : SourceHealthDecision :=
    (upstreamStale.filter fun _ => stationCount > 0).getD
      ⟨.degraded, .upstreamUnavailable, "來源有更新紀錄，但尚未產生可用站點觀測。"⟩
  match row.latestObservedAt with
  | none => unavailable
  | some observedAt =>
      if active = 0 then unavailable
      else
        match row.freshStationCount with
        | some fresh =>
            stationShareDecision (max 0 fresh) (max 0 (row.delayedStationCount.getD 0)) active
              upstreamStale
        | none => observedAgeDecision (max 0 (evaluatedAt - observedAt)) freshSeconds

def observationHealthDecision (row : RealtimeSourceHealthRow) (signalType : SignalType)
    (evaluatedAt : ℤ) (runAge : Option ℤ) : SourceHealthDecision :=
  if isEventContext signalType then eventContextDecision row
  else
    match row.stationCount with
    | none => ⟨.unknown, .notYetObserved, "目前無法確認此來源的站點清冊狀態。"⟩
    | some stationCount => stationDecision row evaluatedAt runAge stationCount

/-! ### `_source_health_decision` -/

def disabledDecision : SourceHealthDecision := ⟨.disabled, .disabled, "此來源目前未啟用。"⟩

def runtimeSelectionIsFresh (row : RealtimeSourceHealthRow) (evaluatedAt : ℤ) : Bool :=
  row.runtimeEnabled.isSome &&
    (age evaluatedAt row.runtimeEnabledCheckedAt).any (· ≤ sourceWorkerStopped)

def latestRunReference (row : RealtimeSourceHealthRow) : Option ℤ :=
  (row.latestRunAt.or row.lastSuccessAt).or row.lastFailureAt

/-- The branches on the row itself: enabled, registered, selected by the worker
and not failed in the pipeline. -/
def selectionDecision (row : RealtimeSourceHealthRow) (evaluatedAt : ℤ) :
    Option SourceHealthDecision :=
  if !row.isEnabled then some disabledDecision
  else if !row.isRegistered then
    some ⟨.unknown, .notYetObserved, "此預期來源尚未完成公開健康狀態登錄。"⟩
  else if runtimeSelectionIsFresh row evaluatedAt && row.runtimeEnabled = some false then
    some ⟨.disabled, .disabled, "背景 worker 最近回報此來源未啟用。"⟩
  else if row.runtimeEnabled.isSome && !runtimeSelectionIsFresh row evaluatedAt then
    some ⟨.failed, .pipelineStalled, "背景 worker 的來源啟用狀態已超過預期回報時間。"⟩
  else pipelineOutcomeFailure row (latestRunReference row)

/-- The branches on a disabled configuration and on the age of the run. -/
def activityDecision (row : RealtimeSourceHealthRow) (evaluatedAt : ℤ) (enabledNow : Bool) :
    Option SourceHealthDecision :=
  let configuredDisabled := !row.isEnabled || row.configuredHealthStatus = .disabled
  let activityAt := (((row.latestRunAt.or row.latestIngestedAt).or row.lastSuccessAt).or
    row.lastFailureAt).or row.latestObservedAt
  if row.latestRunStatus = some .disabled ∧ enabledNow = false then some disabledDecision
  else if configuredDisabled && activityAt.isNone && !enabledNow then some disabledDecision
  else if configuredDisabled && !runtimeSelectionIsFresh row evaluatedAt &&
      (age evaluatedAt activityAt).any (· > sourceWorkerStopped) then
    some ⟨.unknown, .notYetObserved, "目前無法確認此來源是刻意停用，或背景更新已停止。"⟩
  else if (age evaluatedAt (latestRunReference row)).any (· > sourceWorkerStopped) then
    some ⟨.failed, .pipelineStalled, "背景更新已超過預期排程時間。"⟩
  else none

/-- A succeeded run whose final outcome is not confirmed, or only in part. -/
def confirmationDecision (row : RealtimeSourceHealthRow) (runAge : Option ℤ) :
    Option SourceHealthDecision :=
  let matchesRun : Bool :=
    row.runtimePipelineStatus = some .succeeded && row.runtimePipelineCheckedAt.isSome &&
      row.runtimePipelineRunAt.isSome && row.runtimePipelineRunAt = latestRunReference row
  if !matchesRun then
    if runAge.any (· > sourceWorkerDelayed) then
      some ⟨.failed, .pipelineUnavailable,
        "資料取得已完成，但最終處理或發布結果未在預期時間內確認。"⟩
    else
      some ⟨.degraded, .delayed, "資料取得已完成，最終處理或發布結果仍待確認。"⟩
  else if !row.runtimePipelineComplete then
    some ⟨.degraded, .delayed, "最終處理或發布僅確認部分完成。"⟩
  else none

def historyDecision (row : RealtimeSourceHealthRow) (signalType : SignalType) (evaluatedAt : ℤ)
    (runAge : Option ℤ) (enabledNow : Bool) : SourceHealthDecision :=
  let failedLast := row.lastFailureAt.any fun failure => row.lastSuccessAt.all (· < failure)
  if failedLast then ⟨.failed, .pipelineUnavailable, "最近可確認的背景更新未完成。"⟩
  else if row.lastSuccessAt.isSome || row.latestObservedAt.isSome then
    observationHealthDecision row signalType evaluatedAt runAge
  else if row.configuredHealthStatus = .failed then
    ⟨.failed, .pipelineUnavailable, "來源目前沒有可用的背景更新。"⟩
  else if (!row.isEnabled || row.configuredHealthStatus = .disabled) && !enabledNow then
    disabledDecision
  else ⟨.unknown, .notYetObserved, "尚無足夠紀錄判定來源健康。"⟩

def runDecision (row : RealtimeSourceHealthRow) (signalType : SignalType) (evaluatedAt : ℤ)
    (runAge : Option ℤ) (enabledNow : Bool) : SourceHealthDecision :=
  match row.latestRunStatus with
  | some .failed =>
      pipelineFailureDecision row.latestRunErrorCode
        "最近一次背景更新未完成；不公開內部錯誤內容。"
  | some .queued => ⟨.degraded, .delayed, "背景更新仍在進行或回報延遲。"⟩
  | some .running => ⟨.degraded, .delayed, "背景更新仍在進行或回報延遲。"⟩
  | some .partialRun =>
      if runAge.all (· ≤ sourceWorkerDelayed) then
        observationHealthDecision row signalType evaluatedAt runAge
      else ⟨.degraded, .delayed, "最近一次背景更新僅部分完成。"⟩
  | some .skipped =>
      ⟨.degraded, .upstreamUnavailable, "最近一次更新沒有取得可用觀測。"⟩
  | some .succeeded =>
      let decision := observationHealthDecision row signalType evaluatedAt runAge
      if runAge.any (· > sourceWorkerDelayed) && decision.healthStatus = .healthy then
        ⟨.degraded, .delayed, "背景更新時間晚於預期。"⟩
      else decision
  | some .disabled => historyDecision row signalType evaluatedAt runAge enabledNow
  | none => historyDecision row signalType evaluatedAt runAge enabledNow

def sourceHealthDecision (row : RealtimeSourceHealthRow) (signalType : SignalType)
    (evaluatedAt : ℤ) : SourceHealthDecision :=
  let runAge := age evaluatedAt (latestRunReference row)
  let enabledNow := runtimeSelectionIsFresh row evaluatedAt && row.runtimeEnabled = some true
  match selectionDecision row evaluatedAt with
  | some decision => decision
  | none =>
      match activityDecision row evaluatedAt enabledNow with
      | some decision => decision
      | none =>
          let confirmation :=
            if enabledNow && row.latestRunStatus = some .succeeded then
              confirmationDecision row runAge
            else none
          confirmation.getD (runDecision row signalType evaluatedAt runAge enabledNow)

/-! ### A failed outcome is never healthy -/

theorem pipelineFailureDecision_ne_healthy (errorCode : Option String) (fallbackMessage : String) :
    (pipelineFailureDecision errorCode fallbackMessage).healthStatus ≠ .healthy := by
  unfold pipelineFailureDecision
  simp only
  split
  · simp
  · split
    · simp
    · split
      · simp
      · split
        · simp
        · split <;> simp

theorem sourceHealthDecision_ne_healthy {row : RealtimeSourceHealthRow} {checkedAt runAt : ℤ}
    (hstatus : row.runtimePipelineStatus = some .failed)
    (hchecked : row.runtimePipelineCheckedAt = some checkedAt)
    (hrunAt : row.runtimePipelineRunAt = some runAt)
    (hlatest : ∀ latest ∈ latestRunReference row, latest ≤ runAt)
    (signalType : SignalType) (evaluatedAt : ℤ) :
    (sourceHealthDecision row signalType evaluatedAt).healthStatus ≠ .healthy := by
  have hmatches : pipelineOutcomeMatchesRun row checkedAt (latestRunReference row) = true := by
    simp only [pipelineOutcomeMatchesRun, hrunAt, Option.all_eq_true]
    intro latest hmem
    exact decide_eq_true (hlatest latest hmem)
  have hselection : ∃ decision, selectionDecision row evaluatedAt = some decision ∧
      decision.healthStatus ≠ .healthy := by
    unfold selectionDecision
    split
    · exact ⟨_, rfl, by simp [disabledDecision]⟩
    · split
      · exact ⟨_, rfl, by simp⟩
      · split
        · exact ⟨_, rfl, by simp⟩
        · split
          · exact ⟨_, rfl, by simp⟩
          · simp only [pipelineOutcomeFailure, hstatus, hchecked, hmatches, if_true]
            exact ⟨_, rfl, pipelineFailureDecision_ne_healthy _ _⟩
  obtain ⟨decision, heq, hne⟩ := hselection
  simp only [sourceHealthDecision, heq]
  exact hne

end FloodRisk.Realtime
