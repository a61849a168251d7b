import FloodRisk.Realtime.SourceHealth
import Mathlib.Tactic.Linarith

/-!
# What a healthy source rests on

Each place of the decision that can answer `healthy` is traced back to the row.
-/

namespace FloodRisk.Realtime
open Promotion

/-- A failed outcome that was checked belongs to the latest run or to a newer one. -/
def HasFailedOutcome (row : RealtimeSourceHealthRow) : Prop :=
  row.runtimePipelineStatus = some .failed ∧ ∃ checkedAt,
    row.runtimePipelineCheckedAt = some checkedAt ∧
      ∀ run ∈ latestRunReference row, run ≤ row.runtimePipelineRunAt.getD checkedAt

def activeStations (row : RealtimeSourceHealthRow) (stationCount : ℤ) : ℤ :=
  max 0 (row.activeStationCount.getD stationCount)

/-- Four of five active stations are fresh or, where stations are not counted, the
newest observation is within the threshold. -/
def HasFreshStations (row : RealtimeSourceHealthRow) (evaluatedAt : ℤ) : Prop :=
  (∃ stationCount fresh, row.stationCount = some stationCount ∧ row.freshStationCount = some fresh ∧
    0 < activeStations row stationCount ∧
    (fresh : ℚ) / activeStations row stationCount ≥ 8 / 10) ∨
  row.freshStationCount = none ∧ ∃ observedAt, row.latestObservedAt = some observedAt ∧
    evaluatedAt - observedAt ≤ seconds (freshnessSeconds row)

/-- The run is recent; one whose job is on record is on schedule. -/
def RunsRecently (row : RealtimeSourceHealthRow) (evaluatedAt : ℤ) : Prop :=
  ∀ run ∈ latestRunReference row, evaluatedAt - run ≤ sourceWorkerStopped ∧
    (row.latestRunStatus = some .succeeded ∨ row.latestRunStatus = some .partialRun →
      evaluatedAt - run ≤ sourceWorkerDelayed)

structure CurrentEvidence (row : RealtimeSourceHealthRow) (evaluatedAt : ℤ) : Prop where
  enabled : row.isEnabled = true
  registered : row.isRegistered = true
  selected : ¬ (runtimeSelectionIsFresh row evaluatedAt = true ∧ row.runtimeEnabled = some false)
  run : RunsRecently row evaluatedAt
  outcome : ¬ HasFailedOutcome row
  stations : HasFreshStations row evaluatedAt

variable {row : RealtimeSourceHealthRow} {signalType : SignalType} {evaluatedAt : ℤ}

/-! ### Observations -/

theorem upstreamStaleDecision_ne_healthy {runAge : Option ℤ} {freshSeconds : ℤ}
    {decision : SourceHealthDecision}
    (h : upstreamStaleDecision row evaluatedAt runAge freshSeconds = some decision) :
    decision.healthStatus ≠ .healthy := by
  unfold upstreamStaleDecision at h
  split at h
  · split_ifs at h
    rw [← Option.some.inj h]
    simp
  · exact absurd h (by simp)

theorem getD_ne_healthy {found : Option SourceHealthDecision} {other : SourceHealthDecision}
    (hfound : ∀ decision, found = some decision → decision.healthStatus ≠ .healthy)
    (hother : other.healthStatus ≠ .healthy) : (found.getD other).healthStatus ≠ .healthy := by
  cases found with
  | none => exact hother
  | some decision => exact hfound decision rfl

theorem healthy_of_getD {found : Option SourceHealthDecision} {other : SourceHealthDecision}
    (hfound : ∀ decision, found = some decision → decision.healthStatus ≠ .healthy)
    (h : (found.getD other).healthStatus = .healthy) : other.healthStatus = .healthy := by
  by_contra hother
  exact getD_ne_healthy hfound hother h

theorem share_of_healthy {fresh delayed active : ℤ} {stale : Option SourceHealthDecision}
    (hstale : ∀ decision, stale = some decision → decision.healthStatus ≠ .healthy)
    (h : (stationShareDecision fresh delayed active stale).healthStatus = .healthy) :
    (fresh : ℚ) / active ≥ 8 / 10 := by
  by_contra hshare
  unfold stationShareDecision at h
  simp only [if_neg hshare] at h
  split_ifs at h
  exact getD_ne_healthy hstale (by simp) h

theorem age_of_healthy {observedAge freshSeconds : ℤ}
    (h : (observedAgeDecision observedAge freshSeconds).healthStatus = .healthy) :
    observedAge ≤ seconds freshSeconds := by
  by_contra hage
  unfold observedAgeDecision at h
  rw [if_neg hage] at h
  split_ifs at h

/-- A share of a positive number of stations that is not nothing is that of the
count itself. -/
theorem share_of_max {fresh active : ℤ}
    (h : ((max 0 fresh : ℤ) : ℚ) / active ≥ 8 / 10) : (fresh : ℚ) / active ≥ 8 / 10 := by
  rcases le_total fresh 0 with hfresh | hfresh
  · rw [max_eq_left hfresh] at h
    norm_num at h
  · rwa [max_eq_right hfresh] at h

theorem fresh_of_observation_healthy (hsignal : isEventContext signalType = false)
    {runAge : Option ℤ}
    (h : (observationHealthDecision row signalType evaluatedAt runAge).healthStatus = .healthy) :
    HasFreshStations row evaluatedAt := by
  rw [observationHealthDecision, if_neg (by simp [hsignal])] at h
  cases hcount : row.stationCount with
  | none => simp [hcount] at h
  | some stationCount =>
    have hstale : ∀ decision, upstreamStaleDecision row evaluatedAt runAge (freshnessSeconds row) =
        some decision → decision.healthStatus ≠ .healthy := fun _ =>
      upstreamStaleDecision_ne_healthy
    have hunavailable : (((upstreamStaleDecision row evaluatedAt runAge (freshnessSeconds row)).filter
        fun _ => decide (stationCount > 0)).getD
          ⟨.degraded, .upstreamUnavailable, "來源有更新紀錄，但尚未產生可用站點觀測。"⟩).healthStatus ≠
        .healthy := by
      refine getD_ne_healthy (fun decision hfiltered => ?_) (by simp)
      exact hstale decision (Option.filter_eq_some_iff.mp hfiltered).1
    simp only [hcount, stationDecision] at h
    cases hobserved : row.latestObservedAt with
    | none =>
      simp only [hobserved] at h
      exact absurd h hunavailable
    | some observedAt =>
      simp only [hobserved] at h
      split_ifs at h with hnone
      · exact absurd h hunavailable
      · have hactive : 0 < activeStations row stationCount :=
          lt_of_le_of_ne (le_max_left 0 _) (Ne.symm hnone)
        cases hfresh : row.freshStationCount with
        | none =>
          simp only [hfresh] at h
          have hage := age_of_healthy h
          exact Or.inr ⟨hfresh, observedAt, hobserved, (le_max_right 0 _).trans hage⟩
        | some fresh =>
          simp only [hfresh] at h
          have hshare := share_of_max (share_of_healthy hstale h)
          exact Or.inl ⟨stationCount, fresh, hcount, hfresh, hactive, hshare⟩

/-! ### The run -/

theorem pipelineOutcomeFailure_ne_healthy {decision : SourceHealthDecision} {runAt : Option ℤ}
    (h : pipelineOutcomeFailure row runAt = some decision) : decision.healthStatus ≠ .healthy := by
  unfold pipelineOutcomeFailure at h
  split at h
  · split_ifs at h
    rw [← Option.some.inj h]
    exact pipelineFailureDecision_ne_healthy _ _
  · exact absurd h (by simp)

theorem selection_ne_healthy {decision : SourceHealthDecision}
    (h : selectionDecision row evaluatedAt = some decision) : decision.healthStatus ≠ .healthy := by
  unfold selectionDecision at h
  split_ifs at h
  · rw [← Option.some.inj h]; simp [disabledDecision]
  · rw [← Option.some.inj h]; simp
  · rw [← Option.some.inj h]; simp
  · rw [← Option.some.inj h]; simp
  · exact pipelineOutcomeFailure_ne_healthy h

theorem activity_ne_healthy {decision : SourceHealthDecision} {enabledNow : Bool}
    (h : activityDecision row evaluatedAt enabledNow = some decision) :
    decision.healthStatus ≠ .healthy := by
  simp only [activityDecision] at h
  split_ifs at h <;> rw [← Option.some.inj h] <;> simp [disabledDecision]

theorem confirmation_ne_healthy {decision : SourceHealthDecision} {runAge : Option ℤ}
    (h : confirmationDecision row runAge = some decision) : decision.healthStatus ≠ .healthy := by
  simp only [confirmationDecision] at h
  split_ifs at h <;> rw [← Option.some.inj h] <;> simp

/-- A row that no branch on the row itself decides has passed all of them. -/
theorem selected_of_none (h : selectionDecision row evaluatedAt = none) :
    row.isEnabled = true ∧ row.isRegistered = true ∧
      ¬ (runtimeSelectionIsFresh row evaluatedAt = true ∧ row.runtimeEnabled = some false) ∧
      pipelineOutcomeFailure row (latestRunReference row) = none := by
  unfold selectionDecision at h
  split_ifs at h with henabled hregistered hdeselected hstale
  refine ⟨by simpa using henabled, by simpa using hregistered, ?_, h⟩
  rintro ⟨hfresh, hoff⟩
  exact hdeselected (by simp [hfresh, hoff])

theorem not_failed_of_none (h : pipelineOutcomeFailure row (latestRunReference row) = none) :
    ¬ HasFailedOutcome row := by
  rintro ⟨hstatus, checkedAt, hchecked, hnewer⟩
  have hmatches : pipelineOutcomeMatchesRun row checkedAt (latestRunReference row) = true := by
    unfold pipelineOutcomeMatchesRun
    cases hrunAt : row.runtimePipelineRunAt with
    | none =>
      rw [hrunAt] at hnewer
      simpa [Option.all_eq_true] using hnewer
    | some runAt =>
      rw [hrunAt] at hnewer
      simpa [Option.all_eq_true] using hnewer
  simp [pipelineOutcomeFailure, hstatus, hchecked, hmatches] at h

theorem running_of_none {enabledNow : Bool}
    (h : activityDecision row evaluatedAt enabledNow = none) :
    ∀ run ∈ latestRunReference row, evaluatedAt - run ≤ sourceWorkerStopped := by
  intro run hrun
  simp only [activityDecision] at h
  split_ifs at h with hdisabled hconfigured hunclear hstopped
  simp only [age, Option.mem_def.mp hrun, Option.map_some, Option.any_some, decide_eq_true_eq,
    not_lt] at hstopped
  exact (le_max_right 0 _).trans hstopped

theorem onSchedule_of_age {run elapsed : ℤ} (hrun : run ∈ latestRunReference row)
    (h : ∀ runAge ∈ age evaluatedAt (latestRunReference row), runAge ≤ elapsed) :
    evaluatedAt - run ≤ elapsed := by
  have hage := h (max 0 (evaluatedAt - run)) (by simp [age, Option.mem_def.mp hrun])
  exact (le_max_right 0 _).trans hage

theorem history_healthy (hsignal : isEventContext signalType = false) {runAge : Option ℤ}
    {enabledNow : Bool}
    (h : (historyDecision row signalType evaluatedAt runAge enabledNow).healthStatus = .healthy) :
    HasFreshStations row evaluatedAt := by
  simp only [historyDecision] at h
  split_ifs at h with hfailed hseen hconfigured hdisabled
  · exact fresh_of_observation_healthy hsignal h
  · simp [disabledDecision] at h

/-- A run answers healthy from fresh stations only, and never late when its job is known. -/
theorem run_healthy (hsignal : isEventContext signalType = false) {runAge : Option ℤ}
    {enabledNow : Bool}
    (h : (runDecision row signalType evaluatedAt runAge enabledNow).healthStatus = .healthy) :
    HasFreshStations row evaluatedAt ∧
      (row.latestRunStatus = some .succeeded ∨ row.latestRunStatus = some .partialRun →
        ∀ elapsed ∈ runAge, elapsed ≤ sourceWorkerDelayed) := by
  unfold runDecision at h
  cases hstatus : row.latestRunStatus with
  | none =>
    simp only [hstatus] at h
    exact ⟨history_healthy hsignal h, by simp⟩
  | some status =>
    simp only [hstatus] at h
    cases status with
    | failed => exact absurd h (pipelineFailureDecision_ne_healthy _ _)
    | queued => simp at h
    | running => simp at h
    | skipped => simp at h
    | disabled => exact ⟨history_healthy hsignal h, by simp⟩
    | partialRun =>
      simp only at h
      split_ifs at h with honTime
      refine ⟨fresh_of_observation_healthy hsignal h, fun _ elapsed helapsed => ?_⟩
      exact of_decide_eq_true (Option.all_eq_true _ _ |>.mp honTime elapsed helapsed)
    | succeeded =>
      simp only at h
      split_ifs at h with hlate
      refine ⟨fresh_of_observation_healthy hsignal h, fun _ elapsed helapsed => ?_⟩
      by_contra hover
      apply hlate
      rw [h, Option.mem_def.mp helapsed]
      simp [not_le.mp hover]

/-- A row of stations is called healthy on current evidence only. -/
theorem healthy_has_currentEvidence (row : RealtimeSourceHealthRow) (signalType : SignalType)
    (evaluatedAt : ℤ) (hsignal : signalType ≠ .floodWarning ∧ signalType ≠ .statusOnly)
    (h : (sourceHealthDecision row signalType evaluatedAt).healthStatus = .healthy ∧
      (sourceHealthDecision row signalType evaluatedAt).reasonCode = .operational) :
    CurrentEvidence row evaluatedAt := by
  have hcontext : isEventContext signalType = false := by simp [isEventContext, hsignal]
  have hhealthy := h.1
  simp only [sourceHealthDecision] at hhealthy
  cases hselection : selectionDecision row evaluatedAt with
  | some decision =>
    rw [hselection] at hhealthy
    exact absurd hhealthy (selection_ne_healthy hselection)
  | none =>
    obtain ⟨henabled, hregistered, hselected, houtcome⟩ := selected_of_none hselection
    simp only [hselection] at hhealthy
    cases hactivity : activityDecision row evaluatedAt
        (runtimeSelectionIsFresh row evaluatedAt && row.runtimeEnabled = some true) with
    | some decision =>
      rw [hactivity] at hhealthy
      exact absurd hhealthy (activity_ne_healthy hactivity)
    | none =>
      simp only [hactivity] at hhealthy
      have hrun := healthy_of_getD (fun decision hconfirmed => by
        split_ifs at hconfirmed
        exact confirmation_ne_healthy hconfirmed) hhealthy
      obtain ⟨hstations, hlate⟩ := run_healthy hcontext hrun
      have hrecent : RunsRecently row evaluatedAt := fun run hmem =>
        ⟨running_of_none hactivity run hmem, fun hstatus => onSchedule_of_age hmem (hlate hstatus)⟩
      exact ⟨henabled, hregistered, hselected, hrecent, not_failed_of_none houtcome, hstations⟩

/-- Eighty of a hundred stations are fresh; the run is two minutes old. -/
def rainRow : RealtimeSourceHealthRow where
  isEnabled := true
  configuredHealthStatus := .healthy
  lastSuccessAt := some (seconds 3480)
  lastFailureAt := none
  latestRunStatus := some .succeeded
  latestRunAt := some (seconds 3480)
  latestObservedAt := some (seconds 3400)
  latestIngestedAt := some (seconds 3490)
  stationCount := some 100
  freshStationCount := some 80

theorem rainRow_has_currentEvidence : CurrentEvidence rainRow (seconds 3600) :=
  healthy_has_currentEvidence rainRow .rainfall (seconds 3600) (by decide) (by decide +kernel)

/-- A source whose runs left no stamp at all is called healthy on its observations. -/
theorem healthy_without_run :
    let row := { rainRow with lastSuccessAt := none, latestRunStatus := none, latestRunAt := none }
    (sourceHealthDecision row .rainfall (seconds 3600)).healthStatus = .healthy ∧
      (sourceHealthDecision row .rainfall (seconds 3600)).reasonCode = .operational ∧
      latestRunReference row = none := by
  decide +kernel

end FloodRisk.Realtime
