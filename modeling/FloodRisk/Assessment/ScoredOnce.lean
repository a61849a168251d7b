import FloodRisk.Assessment.ObservationReads

/-!
# One observation, one score

`query_nearby_observed_flood_history` says of its cutoff: "The six-hour grace
keeps one row from being scored as both current and historical".  Both bounds
include their instant.
-/

namespace FloodRisk.Assessment
open Promotion Realtime Risk

variable {Geometry Point : Type} (geography : Geography Geometry Point)
  (tables : ObservationTables Geometry) (available : ReadAvailability) (point : Point)
  (request : RiskAssessRequest) (asOf : ℤ) (excludedAdapterKeys : List String)

/-! ### The two scores -/

def currentSignal (candidate : LatestCandidate Geometry) (eventType : EventType) :
    RiskEvidenceSignal :=
  signalFromRecord (currentRecord geography point candidate eventType)

/-- The row gives a positive amount to the realtime score. -/
def ScoredAsCurrent (row : EvidenceRow Geometry) : Prop :=
  ∃ current, loadCurrentOfficial geography tables available point request.radiusM asOf =
      .ok current ∧
    ∃ candidate ∈ current, candidate.evidence = row ∧
      ∃ eventType, candidate.scoringEvent = some eventType ∧
        isWeightedSignalEligible (currentSignal geography point candidate eventType) .realtime
          (some (realtimeRecency asOf)) = true ∧
        0 < scoreContribution (currentSignal geography point candidate eventType) .realtime

def ScoredAsHistorical (row : EvidenceRow Geometry) : Prop :=
  row ∈ loadObservedFloodHistory geography tables point request.radiusM asOf excludedAdapterKeys

/-! ### What decides, row by row -/

/-- The row's evidence is observed no later than six hours before `asOf`, the
row itself no earlier. -/
structure StraddlesGrace (candidate : LatestCandidate Geometry) : Prop where
  ended : ∀ observedAt ∈ candidate.evidence.observedAt,
    observedAt ≤ asOf - observedFloodHistoryCurrentGrace
  live : asOf - observedFloodHistoryCurrentGrace ≤ candidate.latest.observedAt
  notFuture : candidate.latest.observedAt ≤ asOf + 5 * 60 * 1000000

/-- Of the rows that the latest read weighs, fewer than fifty come before it. -/
structure LeadsCurrent (candidate : LatestCandidate Geometry) : Prop where
  mem : candidate ∈ deduplicatedLatest geography tables point
    (max request.radiusM realtimeSupportRadiusM) asOf
  applicable : candidate.latest.adapterKey ∈
    applicableKeys geography tables.toRealtimeTables available point request.radiusM
  position : rowsBefore (selectedOrder geography point (deduplicatedLatest geography tables point
    (max request.radiusM realtimeSupportRadiusM) asOf)) (deduplicatedLatest geography tables point
    (max request.radiusM realtimeSupportRadiusM) asOf) candidate < 50

/-- The score of the row's signal is positive at any age. -/
def Weighs (candidate : LatestCandidate Geometry) : Prop :=
  ∃ eventType, candidate.scoringEvent = some eventType ∧
    0 < weightedSignalContribution (currentSignal geography point candidate eventType)
      (weight .realtime eventType)

/-- It is a positive reading of the last five years, no later one of its
station is past, and fewer than twenty stations come before. -/
structure LeadsHistory (row : EvidenceRow Geometry) : Prop where
  mem : row ∈ tables.evidence
  positive : isPositiveSensor geography tables point
    (max request.radiusM observedFloodHistorySupportRadiusM) row = true
  retained : ∃ observedAt, row.observedAt = some observedAt ∧
    asOf - observedFloodHistoryWindow ≤ observedAt
  notExcluded : row.dataSourceKey.getD "" ∉ excludedAdapterKeys
  lastOfStation : ∀ other ∈ nearbyPositive geography tables point
    (max request.radiusM observedFloodHistorySupportRadiusM) asOf,
    sensorKey other = sensorKey row → stationOrder row ≤ stationOrder other
  position : rowsBefore (historyOrder geography point) (latestOfStations (nearbyPositive geography
    tables point (max request.radiusM observedFloodHistorySupportRadiusM) asOf)) row < 20

/-! ### Rows of the latest read -/

section Current

variable {geography : Geography Geometry Point} {tables : ObservationTables Geometry}
  {available : ReadAvailability} {point : Point} {request : RiskAssessRequest} {asOf : ℤ}
  {candidate other : LatestCandidate Geometry}

theorem nodup_map_of_finer {ρ κ ω : Type*} {key : ρ → κ} {order : ρ → ω} {l : List ρ}
    (distinct : (l.map key).Nodup) (finer : ∀ a b, order a = order b → key a = key b) :
    (l.map order).Nodup := by
  have hpairs := List.pairwise_map.mp distinct
  exact List.pairwise_map.mpr (hpairs.imp fun hne heq => hne (finer _ _ heq))

theorem joined_key {latest : LatestRow Geometry} (h : joinEvidence tables latest = some candidate) :
    candidate.latest = latest := by
  obtain ⟨evidence, -, rfl⟩ := Option.map_eq_some_iff.mp h
  rfl

theorem nodup_joinedLatest (tables : ObservationTables Geometry) :
    ((joinedLatest tables).map fun candidate => candidate.latest.key).Nodup := by
  have hsub : ∀ rows : List (LatestRow Geometry),
      ((rows.filterMap (joinEvidence tables)).map fun candidate => candidate.latest.key).Sublist
        (rows.map LatestRow.key) := by
    intro rows
    induction rows with
    | nil => exact List.Sublist.slnil
    | cons latest rest ih =>
        cases hjoin : joinEvidence tables latest with
        | none =>
            rw [List.filterMap_cons_none hjoin]
            exact ih.cons _
        | some candidate =>
            rw [List.filterMap_cons_some hjoin, List.map_cons, List.map_cons, joined_key hjoin]
            exact ih.cons_cons _
  exact (hsub tables.latest.rows).nodup tables.latest.keysNodup

theorem key_eq_of_newestOrder (h : newestOrder candidate = newestOrder other) :
    candidate.latest.key = other.latest.key := by
  have hparts := toLex_inj.mp h
  simp only [Prod.mk.injEq, toLex_inj, primaryKeyOrder] at hparts
  obtain ⟨-, -, -, hadapter, hevent, hstation⟩ := hparts
  simp only [LatestRow.key, hadapter, hevent, hstation]

theorem key_eq_of_nearestOrder
    (h : nearestOrder geography point candidate = nearestOrder geography point other) :
    candidate.latest.key = other.latest.key :=
  key_eq_of_newestOrder (Prod.mk.inj (toLex_inj.mp h)).2

theorem nodup_deduplicatedLatest (radiusM : ℕ) :
    ((deduplicatedLatest geography tables point radiusM asOf).map
      fun candidate => candidate.latest.key).Nodup :=
  (List.Sublist.map _ (List.filter_sublist.trans List.filter_sublist)).nodup
    (nodup_joinedLatest tables)

theorem mem_selectedLatest {radiusM : ℕ} :
    candidate ∈ selectedLatest geography tables point radiusM asOf 50 ↔
      candidate ∈ deduplicatedLatest geography tables point radiusM asOf ∧
        rowsBefore (selectedOrder geography point
          (deduplicatedLatest geography tables point radiusM asOf))
          (deduplicatedLatest geography tables point radiusM asOf) candidate < 50 := by
  refine mem_limitBy_order (nodup_map_of_finer (nodup_deduplicatedLatest radiusM) ?_)
  exact fun a b heq => key_eq_of_nearestOrder (Prod.mk.inj (toLex_inj.mp heq)).2

theorem origin_ne_of_deduplicated {radiusM : ℕ}
    (hcandidate : candidate ∈ deduplicatedLatest geography tables point radiusM asOf)
    (hother : other ∈ deduplicatedLatest geography tables point radiusM asOf)
    (hne : candidate.latest.key ≠ other.latest.key) (horigin : other.originKey ≠ none) :
    candidate.originKey ≠ other.originKey := by
  intro heq
  have hwarning : ∀ item : LatestCandidate Geometry, item.originKey ≠ none →
      item.latest.eventType = "flood_warning" ∧ item.originKey = some (warningOrigin item) := by
    intro item hitem
    unfold LatestCandidate.originKey at hitem ⊢
    split
    · rename_i hevent
      exact ⟨hevent, rfl⟩
    · rename_i hevent
      rw [if_neg hevent] at hitem
      exact absurd rfl hitem
  obtain ⟨hothers, hotherKey⟩ := hwarning other horigin
  obtain ⟨hcandidates, hcandidateKey⟩ := hwarning candidate (heq ▸ horigin)
  rw [hotherKey, hcandidateKey] at heq
  have hsame : warningOrigin candidate = warningOrigin other := Option.some.inj heq
  obtain ⟨hcandidateIn, hcandidateFirst⟩ := List.mem_filter.mp hcandidate
  obtain ⟨hotherIn, hotherFirst⟩ := List.mem_filter.mp hother
  simp only [hcandidates, hothers, ne_eq, not_true_eq_false, decide_false, Bool.false_or,
    Bool.not_eq_true', List.any_eq_false, Bool.and_eq_true, decide_eq_true_eq, not_and]
    at hcandidateFirst hotherFirst
  have hle := hotherFirst candidate hcandidateIn ⟨hcandidates, hsame⟩
  have hge := hcandidateFirst other hotherIn ⟨hothers, hsame.symm⟩
  have hequal : warningOrder candidate = warningOrder other :=
    le_antisymm (not_lt.mp hge) (not_lt.mp hle)
  exact hne (key_eq_of_newestOrder (Prod.mk.inj (toLex_inj.mp hequal)).2)

/-- What `current_official` holds: the selected rows of applicable sources
whose event is scored. -/
theorem mem_loadCurrentOfficial (geography : Geography Geometry Point)
    (tables : ObservationTables Geometry) (available : ReadAvailability) (point : Point)
    (request : RiskAssessRequest) (asOf : ℤ) :
    ∃ current, loadCurrentOfficial geography tables available point request.radiusM asOf =
        .ok current ∧
      ∀ candidate, candidate ∈ current ↔
        LeadsCurrent geography tables available point request asOf candidate ∧
          candidate.scoringEvent.isSome = true := by
  have hradius : 50 ≤ max request.radiusM realtimeSupportRadiusM ∧
      max request.radiusM realtimeSupportRadiusM ≤ 5000 := by
    have hbounds := request.radiusBounds
    simp only [realtimeSupportRadiusM]
    omega
  let selected := selectedLatest geography tables point
    (max request.radiusM realtimeSupportRadiusM) asOf 50
  let latest := selected.insertionSort fun a b =>
    nearestOrder geography point a ≤ nearestOrder geography point b
  have hperm : latest.Perm selected := List.perm_insertionSort _ _
  have hkeys : (latest.map fun candidate => candidate.latest.key).Nodup :=
    (hperm.map _).nodup_iff.mpr (nodup_map_limitBy (nodup_deduplicatedLatest _))
  let applicable := latest.filter fun item => item.latest.adapterKey ∈
    applicableKeys geography tables.toRealtimeTables available point request.radiusM
  have hdistinct :
      applicable.Pairwise fun a b => b.originKey ≠ none → a.originKey ≠ b.originKey := by
    refine List.Pairwise.filter _ ((List.pairwise_map.mp hkeys).imp_of_mem ?_)
    intro a b ha hb hne horigin
    exact origin_ne_of_deduplicated (mem_selectedLatest.mp (hperm.mem_iff.mp ha)).1
      (mem_selectedLatest.mp (hperm.mem_iff.mp hb)).1 hne horigin
  refine ⟨officialCurrent applicable, ?_, ?_⟩
  · rw [loadCurrentOfficial, queryNearbyLatestOfficial, if_pos hradius]
    rfl
  · intro candidate
    rw [officialCurrent_of_distinct hdistinct, List.mem_filter, List.mem_filter, hperm.mem_iff, mem_selectedLatest, decide_eq_true_eq]
    constructor
    · rintro ⟨⟨⟨hmem, hposition⟩, happlicable⟩, hevent⟩
      exact ⟨⟨hmem, happlicable, hposition⟩, hevent⟩
    · rintro ⟨⟨hmem, happlicable, hposition⟩, hevent⟩
      exact ⟨⟨⟨hmem, hposition⟩, happlicable⟩, hevent⟩

end Current

/-! ### Rows of the two scores -/

section Scores

variable {geography : Geography Geometry Point} {tables : ObservationTables Geometry}
  {available : ReadAvailability} {point : Point} {request : RiskAssessRequest} {asOf : ℤ}
  {excludedAdapterKeys : List String} {candidate : LatestCandidate Geometry}

theorem scoringEvent_weight {eventType : EventType} (h : candidate.scoringEvent = some eventType) :
    0 < weight .realtime eventType := by
  obtain ⟨event, hevent, rfl⟩ := Option.map_eq_some_iff.mp h
  have hmem := List.mem_of_find?_eq_some hevent
  have hall : ∀ event ∈ scoringCurrentAdapterEvents, 0 < weight .realtime event.2.2 := by
    decide +kernel
  exact hall event hmem

/-- A current signal is eligible exactly while its observation is recent. -/
theorem current_eligible_iff {eventType : EventType}
    (h : candidate.scoringEvent = some eventType) :
    isWeightedSignalEligible (currentSignal geography point candidate eventType) .realtime
        (some (realtimeRecency asOf)) = true ↔
      asOf - observedFloodHistoryCurrentGrace ≤ candidate.latest.observedAt ∧
        candidate.latest.observedAt ≤ asOf + 5 * 60 * 1000000 := by
  have hweight : ¬ weight .realtime eventType ≤ 0 := not_le.mpr (scoringEvent_weight h)
  simp [isWeightedSignalEligible, currentSignal, signalFromRecord, currentRecord, hweight, isRecent,
    realtimeRecency, observedFloodHistoryCurrentGrace]

theorem current_contribution {eventType : EventType} :
    scoreContribution (currentSignal geography point candidate eventType) .realtime =
      weightedSignalContribution (currentSignal geography point candidate eventType)
        (weight .realtime eventType) := by
  have hreport : ¬ weight .historical .floodReport ≤ weight .realtime .floodReport := by
    decide +kernel
  have hevent : (currentSignal geography point candidate eventType).eventType = eventType := rfl
  unfold scoreContribution
  rw [hevent]
  by_cases h : eventType = .floodReport
  · rw [h]
    simp [hreport]
  · simp [h]

theorem scoredAsCurrent_iff {row : EvidenceRow Geometry} :
    ScoredAsCurrent geography tables available point request asOf row ↔
      ∃ candidate, candidate.evidence = row ∧
        LeadsCurrent geography tables available point request asOf candidate ∧
        Weighs geography point candidate ∧
        asOf - observedFloodHistoryCurrentGrace ≤ candidate.latest.observedAt ∧
        candidate.latest.observedAt ≤ asOf + 5 * 60 * 1000000 := by
  obtain ⟨current, hcurrent, hmem⟩ :=
    mem_loadCurrentOfficial geography tables available point request asOf
  constructor
  · rintro ⟨other, hother, candidate, hcandidate, hrow, eventType, hevent, heligible, hpositive⟩
    have hsame : current = other := Except.ok.inj (hcurrent.symm.trans hother)
    rw [← hsame] at hcandidate
    rw [current_contribution] at hpositive
    exact ⟨candidate, hrow, ((hmem candidate).mp hcandidate).1, ⟨eventType, hevent, hpositive⟩,
      (current_eligible_iff hevent).mp heligible⟩
  · rintro ⟨candidate, hrow, hleads, ⟨eventType, hevent, hpositive⟩, hrecent⟩
    refine ⟨current, hcurrent, candidate, (hmem candidate).mpr ⟨hleads, by simp [hevent]⟩, hrow,
      eventType, hevent, (current_eligible_iff hevent).mpr hrecent, ?_⟩
    rw [current_contribution]
    exact hpositive

theorem nodup_stationOrder (rows : List (EvidenceRow Geometry))
    (distinct : (rows.map fun row => row.id).Nodup) : (rows.map stationOrder).Nodup := by
  refine nodup_map_of_finer distinct ?_
  intro a b heq
  have hparts := toLex_inj.mp heq
  simp only [Prod.mk.injEq, toLex_inj] at hparts
  exact Int.ofNat.inj (neg_injective hparts.2.2)

theorem nodup_historyOrder (rows : List (EvidenceRow Geometry))
    (distinct : (rows.map fun row => row.id).Nodup) :
    (rows.map (historyOrder geography point)).Nodup := by
  refine nodup_map_of_finer distinct ?_
  intro a b heq
  have hparts := toLex_inj.mp heq
  simp only [Prod.mk.injEq, toLex_inj] at hparts
  exact Int.ofNat.inj (neg_injective hparts.2.2)

theorem scoredAsHistorical_iff {row : EvidenceRow Geometry} :
    ScoredAsHistorical geography tables point request asOf excludedAdapterKeys row ↔
      LeadsHistory geography tables point request asOf excludedAdapterKeys row ∧
        ∀ observedAt ∈ row.observedAt, observedAt ≤ asOf - observedFloodHistoryCurrentGrace := by
  let rows := nearbyPositive geography tables point
    (max request.radiusM observedFloodHistorySupportRadiusM) asOf
  have hrows : (rows.map fun row => row.id).Nodup :=
    (List.Sublist.map _ List.filter_sublist).nodup tables.evidence.keysNodup
  have hsorted : ((rows.insertionSort fun a b => stationOrder a ≤ stationOrder b).map
      fun row => row.id).Nodup :=
    ((List.perm_insertionSort (fun a b => stationOrder a ≤ stationOrder b) rows).map
      _).nodup_iff.mpr hrows
  have hlatest : ((latestOfStations rows).map fun row => row.id).Nodup :=
    (List.Sublist.map _ (distinctBy_sublist _ _)).nodup hsorted
  have hlast : row ∈ latestOfStations rows ↔ row ∈ rows ∧ ∀ other ∈ rows,
      sensorKey other = sensorKey row → stationOrder row ≤ stationOrder other :=
    mem_distinctBy_order (nodup_stationOrder rows hrows)
  have hselected : row ∈ queryNearbyObservedFloodHistory geography tables point
      (max request.radiusM observedFloodHistorySupportRadiusM) asOf ↔
        row ∈ latestOfStations rows ∧
          rowsBefore (historyOrder geography point) (latestOfStations rows) row < 20 :=
    mem_limitBy_order (nodup_historyOrder _ hlatest)
  have hwindow : isInHistoryWindow asOf row = true ↔
      (∃ observedAt, row.observedAt = some observedAt ∧
        asOf - observedFloodHistoryWindow ≤ observedAt) ∧
        ∀ observedAt ∈ row.observedAt, observedAt ≤ asOf - observedFloodHistoryCurrentGrace := by
    cases hobserved : row.observedAt with
    | none => simp [isInHistoryWindow, hobserved]
    | some observedAt => simp [isInHistoryWindow, hobserved]
  rw [ScoredAsHistorical, loadObservedFloodHistory, withoutExcluded, List.mem_filter, hselected,
    hlast, decide_eq_true_eq]
  constructor
  · rintro ⟨⟨⟨hrow, hstation⟩, hposition⟩, hexcluded⟩
    obtain ⟨hmem, hqualified⟩ := List.mem_filter.mp hrow
    rw [Bool.and_eq_true, hwindow] at hqualified
    exact ⟨⟨hmem, hqualified.1, hqualified.2.1, hexcluded, hstation, hposition⟩, hqualified.2.2⟩
  · rintro ⟨hleads, hended⟩
    have hrow : row ∈ rows := by
      refine List.mem_filter.mpr ⟨hleads.mem, ?_⟩
      rw [Bool.and_eq_true, hwindow]
      exact ⟨hleads.positive, hleads.retained, hended⟩
    exact ⟨⟨⟨hrow, hleads.lastOfStation⟩, hleads.position⟩, hleads.notExcluded⟩

end Scores

/-- No evidence row is scored twice exactly when none straddles the grace
whose latest row weighs, is among the first fifty and whose reading is
retained for its station. -/
theorem observation_scored_once_iff :
    (∀ row ∈ tables.evidence,
        ¬ (ScoredAsCurrent geography tables available point request asOf row ∧
          ScoredAsHistorical geography tables point request asOf excludedAdapterKeys row)) ↔
      ∀ candidate, LeadsCurrent geography tables available point request asOf candidate →
        Weighs geography point candidate →
        LeadsHistory geography tables point request asOf excludedAdapterKeys candidate.evidence →
        ¬ StraddlesGrace asOf candidate := by
  constructor
  · intro honce candidate hcurrent hweighs hhistory hstraddles
    refine honce candidate.evidence hhistory.mem ⟨?_, ?_⟩
    · exact scoredAsCurrent_iff.mpr
        ⟨candidate, rfl, hcurrent, hweighs, hstraddles.live, hstraddles.notFuture⟩
    · exact scoredAsHistorical_iff.mpr ⟨hhistory, hstraddles.ended⟩
  · rintro hfree row - ⟨hscored, hhistorical⟩
    obtain ⟨candidate, rfl, hcurrent, hweighs, hlive, hfuture⟩ := scoredAsCurrent_iff.mp hscored
    obtain ⟨hhistory, hended⟩ := scoredAsHistorical_iff.mp hhistorical
    exact hfree candidate hcurrent hweighs hhistory ⟨hended, hlive, hfuture⟩

/-- A latest row that carries the instant of its evidence straddles the grace
at the cutoff only. -/
theorem straddlesGrace_iff_of_mirrored {candidate : LatestCandidate Geometry}
    (mirrored : candidate.evidence.observedAt = some candidate.latest.observedAt) :
    StraddlesGrace asOf candidate ↔
      candidate.latest.observedAt = asOf - observedFloodHistoryCurrentGrace := by
  constructor
  · intro h
    exact le_antisymm (h.ended _ mirrored) h.live
  · intro h
    refine ⟨?_, h.ge, ?_⟩
    · intro observedAt hobserved
      rw [mirrored] at hobserved
      exact (Option.some.inj hobserved).symm.le.trans h.le
    · simp only [h, observedFloodHistoryCurrentGrace, hour]
      omega

/-! ### A reading at the cutoff -/

def cutoffReading : EvidenceRow Unit where
  dataSourceKey := some wraIowFloodDepth
  sourceId := "sensor-1"
  eventType := "flood_report"
  observedAt := some 0
  ingestedAt := 0
  geom := some ()
  isOfficial := true
  isAccepted := true
  isPublicOrAggregated := true
  id := 1
  confidence := 9 / 10
  evidenceScope := some "current"
  floodDepthCm := some "12.5"

def cutoffLatest : LatestRow Unit where
  adapterKey := wraIowFloodDepth
  sourceId := "sensor-1"
  eventType := "flood_report"
  stationId := "sensor-1"
  observedAt := 0
  ingestedAt := 0
  geom := ()
  floodDepthCm := some (25 / 2)
  evidenceId := some 1
  updatedAt := 0

/-- One flood sensor, observed at instant 0. -/
def cutoffTables : ObservationTables Unit where
  jurisdictions := []
  snapshots := []
  boundaries := []
  contracts := []
  mappings := []
  boundaryNamed := boundaryNamed_nil
  sources := [{ unregisteredSource wraIowFloodDepth with isEnabled := true, isRegistered := true }]
  activeSnapshotRawRef := fun _ => none
  ingestionJobs := []
  evidence := ⟨[cutoffReading], List.nodup_singleton _⟩
  latest := ⟨[cutoffLatest], List.nodup_singleton _⟩

def nearbyGeography : Geography Unit Unit where
  distance := fun _ _ => 100
  covers := fun _ _ => true
  isEmpty := fun _ => false
  isValid := fun _ => true
  geometrySha256 := fun _ => ""
  boundaryManifestSha256 := fun _ => ""
  mappingManifestSha256 := fun _ => ""

def cutoffRequest : RiskAssessRequest where
  lat := 25
  lng := 121
  radiusM := 500
  radiusBounds := by omega

/-- Six hours after its observation the reading counts in both scores. -/
theorem reading_at_cutoff_scored_twice :
    ¬ ∀ row ∈ cutoffTables.evidence,
      ¬ (ScoredAsCurrent nearbyGeography cutoffTables {} () cutoffRequest (6 * hour) row ∧
        ScoredAsHistorical nearbyGeography cutoffTables () cutoffRequest (6 * hour) [] row) := by
  intro honce
  have hstored : cutoffReading ∈ cutoffTables.evidence := List.mem_singleton_self cutoffReading
  refine honce cutoffReading hstored ⟨?_, ?_⟩
  · refine scoredAsCurrent_iff.mpr ⟨⟨cutoffLatest, cutoffReading⟩, rfl, ⟨?_, ?_, ?_⟩, ?_, ?_, ?_⟩
    · have hjoined : joinedLatest cutoffTables = [⟨cutoffLatest, cutoffReading⟩] := rfl
      have hmem := List.mem_singleton_self (⟨cutoffLatest, cutoffReading⟩ : LatestCandidate Unit)
      rw [deduplicatedLatest, eligibleLatest, hjoined]
      exact List.mem_filter.mpr ⟨List.mem_filter.mpr ⟨hmem, by decide +kernel⟩, by decide +kernel⟩
    · decide +kernel
    · decide +kernel
    · exact ⟨.floodReport, by decide +kernel, by decide +kernel⟩
    · decide +kernel
    · decide +kernel
  · refine scoredAsHistorical_iff.mpr ⟨⟨hstored, by decide +kernel, ⟨0, rfl, by decide +kernel⟩,
      by decide +kernel, ?_, by decide +kernel⟩, ?_⟩
    · intro other hother _
      have hsame : other = cutoffReading := List.mem_singleton.mp (List.mem_of_mem_filter hother)
      rw [hsame]
    · decide +kernel

end FloodRisk.Assessment
