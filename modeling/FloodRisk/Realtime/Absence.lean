import FloodRisk.Realtime.StationReads

/-!
# When a coverage says that no station is in range

A signal has the cause `no_station_in_range` exactly when it has no row within
15 km and the required sources of a verified jurisdiction are conclusive.
-/

namespace FloodRisk.Realtime
open Promotion

/-! ### The cause of one signal -/

def isConclusive (item : NearbySourceHealth) : Bool :=
  item.healthStatus = .healthy && item.reasonCode = .operational && item.inventoryComplete &&
    item.stationCount.any (0 < ·)

/-- The required sources of a signal are there and each of them is conclusive. -/
def ConclusiveSources (sourceHealth : List NearbySourceHealth) : Prop :=
  (∃ item ∈ sourceHealth, item.requiredForAbsence = true) ∧
    ∀ item ∈ sourceHealth, item.requiredForAbsence = true → isConclusive item = true

theorem hasConclusiveStationInventory_iff {sourceHealth : List NearbySourceHealth}
    {verified : Bool} :
    hasConclusiveStationInventory sourceHealth verified = true ↔
      verified = true ∧ ConclusiveSources sourceHealth := by
  have hmatch : ∀ item : NearbySourceHealth,
      (item.healthStatus ≠ .disabled && item.healthStatus = .healthy &&
        item.reasonCode = .operational && item.inventoryComplete &&
          item.stationCount.any (0 < ·)) = isConclusive item := by
    intro item
    unfold isConclusive
    cases item.healthStatus <;> simp
  have hsome : sourceHealth.filter NearbySourceHealth.requiredForAbsence ≠ [] ↔
      ∃ item ∈ sourceHealth, item.requiredForAbsence = true := by
    rw [ne_eq, List.filter_eq_nil_iff]
    push Not
    rfl
  simp only [hasConclusiveStationInventory, hmatch, Bool.and_eq_true, decide_eq_true_eq, hsome,
    List.all_eq_true, List.mem_filter, ConclusiveSources, and_assoc, and_imp]

theorem runtimeMissingCause_ne (sourceHealth : List NearbySourceHealth) :
    runtimeMissingCause sourceHealth ≠ some .noStationInRange := by
  unfold runtimeMissingCause
  simp only
  repeat' split
  all_goals simp

theorem isConclusive_healthy {item : NearbySourceHealth} (h : isConclusive item = true) :
    item.healthStatus = .healthy := by
  simp only [isConclusive, Bool.and_eq_true, decide_eq_true_eq] at h
  exact h.1.1.1

theorem runtimeMissingCause_none {sourceHealth : List NearbySourceHealth}
    (h : ConclusiveSources sourceHealth) : runtimeMissingCause sourceHealth = none := by
  have hhealthy : ∀ item ∈ activeRequiredSources sourceHealth, item.healthStatus = .healthy := by
    intro item hitem
    obtain ⟨hmem, hactive⟩ := List.mem_filter.mp hitem
    simp only [Bool.and_eq_true] at hactive
    exact isConclusive_healthy (h.2 item hmem hactive.1)
  have hnone : ∀ status : HealthStatus, status ≠ .healthy →
      ∀ item ∈ activeRequiredSources sourceHealth, ¬ item.healthStatus = status := by
    intro status hne item hitem heq
    exact hne (heq.symm.trans (hhealthy item hitem))
  have hfailed : (activeRequiredSources sourceHealth).filter
      (fun item => item.healthStatus = .failed) = [] := by
    rw [List.filter_eq_nil_iff]
    intro item hitem hstatus
    exact hnone .failed (by simp) item hitem (of_decide_eq_true hstatus)
  have hquiet : ∀ status : HealthStatus, status ≠ .healthy →
      (activeRequiredSources sourceHealth).any (fun item => item.healthStatus = status) = false := by
    intro status hne
    rw [List.any_eq_false]
    intro item hitem hstatus
    exact hnone status hne item hitem (of_decide_eq_true hstatus)
  simp only [runtimeMissingCause, hfailed, ne_eq, not_true_eq_false, if_false,
    hquiet .degraded (by simp), hquiet .unknown (by simp), Bool.false_eq_true, ite_self]

theorem missingCause_eq_noStation_iff {hasUsableRow hasRows : Bool}
    {sourceHealth : List NearbySourceHealth} {checks : CoverageChecks}
    (hrows : hasUsableRow = true → hasRows = true) :
    missingCause hasUsableRow hasRows sourceHealth checks = .noStationInRange ↔
      hasRows = false ∧ checks.sourceHealthUnavailable = false ∧
        checks.jurisdictionVerified = true ∧ ConclusiveSources sourceHealth := by
  constructor
  · intro h
    unfold missingCause at h
    split at h
    · exact absurd h (by simp)
    · split at h
      · cases hcause : runtimeMissingCause sourceHealth with
        | none =>
            rw [hcause] at h
            exact absurd h (by simp)
        | some cause =>
            rw [hcause] at h
            exact absurd (hcause.trans (congrArg some h)) (runtimeMissingCause_ne sourceHealth)
      · rename_i hnorows
        split at h
        · exact absurd h (by simp)
        · rename_i havailable
          split at h
          · repeat' split at h
            all_goals exact absurd h (by simp)
          · cases hcause : runtimeMissingCause sourceHealth with
            | some cause =>
                rw [hcause] at h
                exact absurd (hcause.trans (congrArg some h)) (runtimeMissingCause_ne sourceHealth)
            | none =>
                rw [hcause] at h
                simp only at h
                split at h
                · exact absurd h (by simp)
                · split at h
                  · rename_i hconclusive
                    obtain ⟨hverified, hsources⟩ := hasConclusiveStationInventory_iff.mp hconclusive
                    exact ⟨Bool.eq_false_iff.mpr hnorows, Bool.eq_false_iff.mpr havailable,
                      hverified, hsources⟩
                  · repeat' split at h
                    all_goals exact absurd h (by simp)
  · intro h
    obtain ⟨hnorows, havailable, hverified, hsources⟩ := h
    have hunusable : hasUsableRow = false := by
      cases husable : hasUsableRow with
      | false => rfl
      | true => exact absurd (hrows husable) (by rw [hnorows]; simp)
    have hlisted : sourceHealth ≠ [] := by
      obtain ⟨item, hitem, -⟩ := hsources.1
      exact List.ne_nil_of_mem hitem
    have hconclusive : hasConclusiveStationInventory sourceHealth true = true :=
      hasConclusiveStationInventory_iff.mpr ⟨rfl, hsources⟩
    simp only [missingCause, hunusable, hnorows, havailable, hlisted, hverified, hconclusive,
      runtimeMissingCause_none hsources, Bool.false_eq_true, if_false, Bool.not_true, if_true]

/-! ### The signals of a coverage -/

def publishesAbsence (coverage : NearbyRealtimeCoverage) (signalType : SignalType) : Bool :=
  coverage.signalBreakdown.any fun item =>
    item.signalType = signalType && item.missingCause = .noStationInRange

theorem mem_allSignalTypes (signalType : SignalType) : signalType ∈ allSignalTypes := by
  cases signalType <;> decide

theorem inRange_groupRows (rows : List NearbyCoverageRow) (signalType : SignalType) :
    inRange (groupRows rows signalType) = groupRows rows signalType := by
  rw [inRange, List.filter_eq_self]
  intro row hrow
  exact (List.mem_filter.mp (List.mem_of_mem_filter hrow)).2

theorem groupRows_eq_nil_iff {rows : List NearbyCoverageRow} {signalType : SignalType} :
    groupRows rows signalType = [] ↔ ∀ row ∈ rows, row.distanceToQueryM ≤ coverageRadiusM →
      coverageSignalType row.eventType row.adapterKey ≠ signalType := by
  simp only [groupRows, inRange, List.filter_eq_nil_iff, List.mem_filter, decide_eq_true_eq,
    and_imp, ne_eq]

theorem hasRows_of_usable {rows : List NearbyCoverageRow}
    (h : (nearestRow (usableRows rows)).isSome = true) : decide (rows ≠ []) = true := by
  obtain ⟨row, hrow⟩ := Option.isSome_iff_exists.mp h
  exact decide_eq_true (List.ne_nil_of_mem (mem_usableRows.mp (nearestRow_mem hrow)).1)

theorem evaluateSignal_noStation_iff {signalType : SignalType} {rows : List NearbyCoverageRow}
    {sourceHealth : List NearbySourceHealth} {checks : CoverageChecks} :
    (evaluateSignal signalType (groupRows rows signalType) sourceHealth checks).missingCause =
        .noStationInRange ↔
      (∀ row ∈ rows, row.distanceToQueryM ≤ coverageRadiusM →
        coverageSignalType row.eventType row.adapterKey ≠ signalType) ∧
        checks.sourceHealthUnavailable = false ∧ checks.jurisdictionVerified = true ∧
          ConclusiveSources sourceHealth := by
  rw [← groupRows_eq_nil_iff]
  simp only [evaluateSignal, inRange_groupRows]
  rw [missingCause_eq_noStation_iff hasRows_of_usable]
  simp only [decide_eq_false_iff_not, ne_eq, not_not]

theorem publishesAbsence_iff {input : CoverageInput} {signalType : SignalType} :
    publishesAbsence (buildNearbyRealtimeCoverage input) signalType = true ↔
      input.repositoryUnavailable = false ∧
        (∀ row ∈ input.rows, row.distanceToQueryM ≤ coverageRadiusM →
          coverageSignalType row.eventType row.adapterKey ≠ signalType) ∧
        input.sourceHealthUnavailable = false ∧
        (input.jurisdictionChecked = true ∧
          signalType ∈ input.jurisdictionCompleteSignalTypes) ∧
        ConclusiveSources (groupSourceHealth input.sourceHealth signalType) := by
  cases hread : input.repositoryUnavailable with
  | true => simp [publishesAbsence, buildNearbyRealtimeCoverage, hread]
  | false =>
      simp only [publishesAbsence, buildNearbyRealtimeCoverage, hread, Bool.false_eq_true,
        if_false, signalEvaluations, List.any_map, List.any_eq_true, Function.comp_apply,
        Bool.and_eq_true, decide_eq_true_eq, true_and]
      constructor
      · intro h
        obtain ⟨evaluated, -, htype, hcause⟩ := h
        have hsame : evaluated = signalType := htype
        subst hsame
        simpa only [Bool.and_eq_true, decide_eq_true_eq] using
          evaluateSignal_noStation_iff.mp hcause
      · intro h
        refine ⟨signalType, mem_allSignalTypes signalType, rfl,
          evaluateSignal_noStation_iff.mpr ?_⟩
        simpa only [Bool.and_eq_true, decide_eq_true_eq] using h

theorem mem_groupSourceHealth {sourceHealth : List NearbySourceHealth} {signalType : SignalType}
    {item : NearbySourceHealth} :
    item ∈ groupSourceHealth sourceHealth signalType ↔
      item ∈ sourceHealth ∧ signalType ∈ item.signalTypes := by
  simp only [groupSourceHealth, List.mem_flatMap, List.mem_map, List.mem_filter,
    decide_eq_true_eq]
  constructor
  · intro h
    obtain ⟨listed, hlisted, found, ⟨hfound, heq⟩, hitem⟩ := h
    rw [← hitem, ← heq]
    exact ⟨hlisted, hfound⟩
  · intro h
    obtain ⟨hitem, hlisted⟩ := h
    exact ⟨item, hitem, signalType, ⟨hlisted, rfl⟩, rfl⟩

end FloodRisk.Realtime
