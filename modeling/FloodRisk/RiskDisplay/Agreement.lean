import FloodRisk.RiskDisplay.Sensing
import FloodRisk.Realtime.Absence

/-!
# The page and the API agree on absence

`served` is the payload that the API answers with.  The page confirms that no
station is in range exactly for the coverages whose four measured signals have
that cause in a complete jurisdiction catalog.
-/

namespace FloodRisk.RiskDisplay
open Promotion
open Realtime (SignalType MissingCause SignalAvailability CoverageInput allSignalTypes
  buildNearbyRealtimeCoverage evaluateSignal groupRows groupSourceHealth mem_groupSourceHealth
  ConclusiveSources isConclusive requiredSignalTypes signalText)

/-! ### The payload of the API -/

def servedSource (item : Realtime.NearbySourceHealth) : PublicRealtimeSourceHealth :=
  { signalTypes := item.signalTypes
    healthStatus := item.healthStatus
    reasonCode := item.reasonCode
    stationCount := item.stationCount
    inventoryComplete := some item.inventoryComplete
    requiredForAbsence := some item.requiredForAbsence }

def servedSignal (item : Realtime.NearbyCoverageSignal) : CoverageSignal :=
  { signalType := item.signalType
    coverageLevel := item.coverageLevel
    availabilityState := some item.availabilityState
    nearestDistanceM := item.nearestDistanceM
    nearestObservedAt := item.nearestObservedAt
    nearestObservationValue := item.nearestObservationValue
    nearestObservationUnit := item.nearestObservationUnit
    nearestReferenceValue := item.nearestReferenceValue
    freshCount := item.freshCount
    degradedCount := some item.degradedCount
    staleCount := item.staleCount
    statusOnlyCount := item.statusOnlyCount
    nearestFreshnessState := item.nearestFreshnessState
    missingCause := some item.missingCause }

def served (coverage : Realtime.NearbyRealtimeCoverage) : NearbyRealtimeCoverage :=
  { overallLevel := coverage.overallLevel
    queryRadiusM := coverage.queryRadiusM
    radiusBucketsM := coverage.radiusBucketsM
    summary := coverage.summary
    signalBreakdown := coverage.signalBreakdown.map servedSignal
    missingSignalTypes := coverage.missingSignalTypes
    sourceHealth := some (coverage.sourceHealth.map servedSource)
    sourceHealthChecked := some coverage.sourceHealthChecked
    jurisdictionChecked := some coverage.jurisdictionChecked
    jurisdictionCatalogComplete := some coverage.jurisdictionCatalogComplete
    jurisdictionUnverifiedSignalTypes := some coverage.jurisdictionUnverifiedSignalTypes }

/-- The cause that the API gives a signal. -/
def causeOf (coverage : Realtime.NearbyRealtimeCoverage) (signalType : SignalType) :
    Option MissingCause :=
  (coverage.signalBreakdown.find? fun item => item.signalType = signalType).map
    Realtime.NearbyCoverageSignal.missingCause

def evaluated (input : CoverageInput) (signalType : SignalType) : Realtime.NearbyCoverageSignal :=
  evaluateSignal signalType (groupRows input.rows signalType)
    (groupSourceHealth input.sourceHealth signalType)
    { sourceHealthUnavailable := input.sourceHealthUnavailable
      sourceHealthChecked := input.sourceHealthChecked
      jurisdictionMappingMissing := input.jurisdictionMappingMissing
      jurisdictionVerified := input.jurisdictionChecked &&
        signalType ∈ input.jurisdictionCompleteSignalTypes }

/-- A coverage that was built with the repository, the source health and the
jurisdiction at hand. -/
structure FullyChecked (input : CoverageInput) : Prop where
  repository : input.repositoryUnavailable = false
  health : input.sourceHealthUnavailable = false
  healthChecked : input.sourceHealthChecked = true
  jurisdictionChecked : input.jurisdictionChecked = true

/-! ### The breakdown of a built coverage -/

variable {input : CoverageInput}

theorem breakdown_build (hread : input.repositoryUnavailable = false) :
    (buildNearbyRealtimeCoverage input).signalBreakdown = allSignalTypes.map (evaluated input) := by
  simp only [buildNearbyRealtimeCoverage, hread, Bool.false_eq_true, if_false]
  rfl

theorem evaluated_signalType (signalType : SignalType) :
    (evaluated input signalType).signalType = signalType := rfl

theorem find_allSignalTypes (signalType : SignalType) :
    (allSignalTypes.find? fun listed => listed = signalType) = some signalType := by
  cases signalType <;> rfl

theorem find_breakdown (hread : input.repositoryUnavailable = false) (signalType : SignalType) :
    ((buildNearbyRealtimeCoverage input).signalBreakdown.find? fun item =>
      item.signalType = signalType) = some (evaluated input signalType) := by
  rw [breakdown_build hread, List.find?_map]
  have hsame : ((fun item : Realtime.NearbyCoverageSignal => decide (item.signalType = signalType)) ∘
      evaluated input) = fun listed => decide (listed = signalType) := rfl
  rw [hsame, find_allSignalTypes]
  rfl

theorem causeOf_build (hread : input.repositoryUnavailable = false) (signalType : SignalType) :
    causeOf (buildNearbyRealtimeCoverage input) signalType =
      some (evaluated input signalType).missingCause := by
  rw [causeOf, find_breakdown hread]
  rfl

theorem primary_served (hread : input.repositoryUnavailable = false) :
    primaryMeasurementSignals (served (buildNearbyRealtimeCoverage input)) =
      requiredCoverageSignals.map fun signalType => servedSignal (evaluated input signalType) := by
  have hfound : ∀ signalType,
      ((served (buildNearbyRealtimeCoverage input)).signalBreakdown.find? fun candidate =>
        candidate.signalType = signalType) = some (servedSignal (evaluated input signalType)) := by
    intro signalType
    show (((buildNearbyRealtimeCoverage input).signalBreakdown.map servedSignal).find? _) = _
    rw [List.find?_map]
    exact congrArg (Option.map servedSignal) (find_breakdown hread signalType)
  unfold primaryMeasurementSignals
  simp only [hfound]
  rw [List.filterMap_eq_map', if_pos (by simp [requiredCoverageSignals])]

theorem mem_primary_served (hread : input.repositoryUnavailable = false) {signal : CoverageSignal} :
    signal ∈ primaryMeasurementSignals (served (buildNearbyRealtimeCoverage input)) ↔
      ∃ signalType ∈ requiredCoverageSignals,
        servedSignal (evaluated input signalType) = signal := by
  rw [primary_served hread, List.mem_map]

/-! ### The proof of an absence -/

theorem sourceHealthIssue_audited {source : PublicRealtimeSourceHealth}
    (h : hasAuditedInventory source = true) : sourceHealthIssue source = none := by
  simp only [hasAuditedInventory, Bool.and_eq_true, decide_eq_true_eq] at h
  simp only [sourceHealthIssue, h.1.1.1]

theorem audited_servedSource (item : Realtime.NearbySourceHealth) :
    hasAuditedInventory (servedSource item) = isConclusive item := by
  cases hinventory : item.inventoryComplete <;>
    simp [hasAuditedInventory, servedSource, isConclusive, hinventory]

theorem required_servedSource (item : Realtime.NearbySourceHealth) :
    isRequiredForAbsence (servedSource item) = item.requiredForAbsence := by
  cases hrequired : item.requiredForAbsence <;>
    simp [isRequiredForAbsence, servedSource, hrequired]

/-- Of audited sources, one of which there is, the proof of an absence has no
issue. -/
theorem noStationProofIssue_none {coverage : NearbyRealtimeCoverage} {signal : CoverageSignal}
    (hhealth : coverage.sourceHealthChecked = some true)
    (hjurisdiction : coverage.jurisdictionChecked = some true)
    (hcatalog : coverage.jurisdictionCatalogComplete = some true)
    (hverified : signal.signalType ∉ coverage.jurisdictionUnverifiedSignalTypes.getD [])
    (hsome : ∃ source ∈ coverage.sourceHealth.getD [],
      signal.signalType ∈ source.signalTypes ∧ isRequiredForAbsence source = true)
    (haudited : ∀ source ∈ coverage.sourceHealth.getD [], signal.signalType ∈ source.signalTypes →
      isRequiredForAbsence source = true → hasAuditedInventory source = true) :
    noStationProofIssue coverage signal = none := by
  unfold noStationProofIssue
  simp only [hhealth, hjurisdiction, hcatalog, hverified, not_true_eq_false, or_self, if_false,
    ne_eq]
  split
  · rfl
  · have hrelevant : ∀ source ∈ (coverage.sourceHealth.getD []).filter (fun source =>
        signal.signalType ∈ source.signalTypes && isRequiredForAbsence source),
        hasAuditedInventory source = true := by
      intro source hsource
      rw [List.mem_filter, Bool.and_eq_true, decide_eq_true_eq] at hsource
      exact haudited source hsource.1 hsource.2.1 hsource.2.2
    have hnonempty : (coverage.sourceHealth.getD []).filter (fun source =>
        signal.signalType ∈ source.signalTypes && isRequiredForAbsence source) ≠ [] := by
      obtain ⟨source, hsource, hlisted, hrequired⟩ := hsome
      apply List.ne_nil_of_mem (a := source)
      rw [List.mem_filter, Bool.and_eq_true, decide_eq_true_eq]
      exact ⟨hsource, hlisted, hrequired⟩
    have hissues : ((coverage.sourceHealth.getD []).filter (fun source =>
        signal.signalType ∈ source.signalTypes && isRequiredForAbsence source)).filterMap
          sourceHealthIssue = [] := by
      rw [List.filterMap_eq_nil_iff]
      intro source hsource
      exact sourceHealthIssue_audited (hrelevant source hsource)
    rw [if_neg hnonempty, hissues, if_pos (List.all_eq_true.mpr hrelevant)]
    rfl

theorem noStationProofIssue_catalog {coverage : NearbyRealtimeCoverage} {signal : CoverageSignal}
    (hcause : signal.missingCause = some .noStationInRange)
    (hnone : noStationProofIssue coverage signal = none) :
    coverage.jurisdictionCatalogComplete = some true := by
  by_contra hincomplete
  unfold noStationProofIssue at hnone
  simp only [hcause, hincomplete, ne_eq, not_true_eq_false, if_false, not_false_eq_true, true_or,
    or_true, if_true] at hnone
  split at hnone <;> exact absurd hnone (by simp)

/-! ### What the API knows of an absence -/

theorem noStation_facts (hchecked : FullyChecked input) {signalType : SignalType}
    (hcause : (evaluated input signalType).missingCause = .noStationInRange) :
    signalType ∈ input.jurisdictionCompleteSignalTypes ∧
      ConclusiveSources (groupSourceHealth input.sourceHealth signalType) := by
  obtain ⟨-, -, hverified, hsources⟩ := Realtime.evaluateSignal_noStation_iff.mp hcause
  rw [hchecked.jurisdictionChecked, Bool.true_and, decide_eq_true_eq] at hverified
  exact ⟨hverified, hsources⟩

theorem unverified_build (signalType : SignalType) :
    signalType ∈ (buildNearbyRealtimeCoverage input).jurisdictionUnverifiedSignalTypes →
      signalType ∉ input.jurisdictionCompleteSignalTypes := by
  intro h
  have hlisted : signalType ∈ requiredSignalTypes.filter fun listed =>
      listed ∉ input.jurisdictionCompleteSignalTypes := h
  exact of_decide_eq_true (List.mem_filter.mp hlisted).2

/-- The page finds no issue with an absence that the API states in a complete
catalog. -/
theorem noStationProofIssue_served (hchecked : FullyChecked input) {signalType : SignalType}
    (hcatalog : (buildNearbyRealtimeCoverage input).jurisdictionCatalogComplete = true)
    (hcause : (evaluated input signalType).missingCause = .noStationInRange) :
    noStationProofIssue (served (buildNearbyRealtimeCoverage input))
      (servedSignal (evaluated input signalType)) = none := by
  obtain ⟨hverified, hsome, hall⟩ := noStation_facts hchecked hcause
  have hsources : (served (buildNearbyRealtimeCoverage input)).sourceHealth.getD [] =
      input.sourceHealth.map servedSource := rfl
  apply noStationProofIssue_none
  · exact congrArg some hchecked.healthChecked
  · exact congrArg some hchecked.jurisdictionChecked
  · exact congrArg some hcatalog
  · intro hunverified
    exact unverified_build signalType hunverified hverified
  · obtain ⟨item, hitem, hrequired⟩ := hsome
    obtain ⟨hmem, hlisted⟩ := mem_groupSourceHealth.mp hitem
    rw [hsources]
    refine ⟨servedSource item, List.mem_map_of_mem hmem, hlisted, ?_⟩
    rw [required_servedSource]
    exact hrequired
  · intro source hsource hlisted hrequired
    rw [hsources] at hsource
    obtain ⟨item, hmem, rfl⟩ := List.mem_map.mp hsource
    rw [required_servedSource] at hrequired
    rw [audited_servedSource]
    exact hall item (mem_groupSourceHealth.mpr ⟨hmem, hlisted⟩) hrequired

/-- A signal without a station in range has neither a reading nor a state of
its sources. -/
theorem availability_noStation {signalType : SignalType}
    (hcause : (evaluated input signalType).missingCause = .noStationInRange) :
    (evaluated input signalType).availabilityState = .noStation := by
  unfold evaluated evaluateSignal at hcause ⊢
  simp only at hcause ⊢
  cases hnearest : Realtime.nearestRow (Realtime.usableRows (Realtime.inRange
      (groupRows input.rows signalType))) with
  | some row =>
      rw [hnearest] at hcause
      exact absurd hcause (by simp [Realtime.missingCause])
  | none =>
      rw [hnearest] at hcause
      simp only [Realtime.availabilityState, hcause]
      rfl

/-! ### Confirmed absences -/

theorem confirmedNoStation_iff {coverage : NearbyRealtimeCoverage} :
    confirmedNoLocalSensor (some coverage) = true ↔
      coverage.sourceHealthChecked = some true ∧
        (∀ signalType ∈ requiredCoverageSignals,
          ∃ signal ∈ primaryMeasurementSignals coverage, signal.signalType = signalType) ∧
        ∀ signal ∈ primaryMeasurementSignals coverage,
          signal.missingCause = some .noStationInRange ∧
            noStationProofIssue coverage signal = none := by
  simp only [confirmedNoLocalSensor, diagnoseCoverage, Bool.and_eq_true, decide_eq_true_eq,
    List.all_eq_true, List.mem_map, and_assoc]

theorem confirmed_served_iff (hchecked : FullyChecked input) :
    confirmedNoLocalSensor (some (served (buildNearbyRealtimeCoverage input))) = true ↔
      (buildNearbyRealtimeCoverage input).jurisdictionCatalogComplete = true ∧
        ∀ signalType ∈ requiredCoverageSignals,
          causeOf (buildNearbyRealtimeCoverage input) signalType = some .noStationInRange := by
  rw [confirmedNoStation_iff]
  constructor
  · intro h
    obtain ⟨-, -, hprimary⟩ := h
    have hsignal : ∀ signalType ∈ requiredCoverageSignals,
        (servedSignal (evaluated input signalType)).missingCause = some .noStationInRange ∧
          noStationProofIssue (served (buildNearbyRealtimeCoverage input))
            (servedSignal (evaluated input signalType)) = none := by
      intro signalType hrequired
      exact hprimary _ ((mem_primary_served hchecked.repository).mpr ⟨signalType, hrequired, rfl⟩)
    constructor
    · obtain ⟨hcause, hnone⟩ := hsignal .rainfall (by simp [requiredCoverageSignals])
      exact Option.some.inj (noStationProofIssue_catalog hcause hnone)
    · intro signalType hrequired
      rw [causeOf_build hchecked.repository]
      exact (hsignal signalType hrequired).1
  · intro h
    obtain ⟨hcatalog, hcauses⟩ := h
    refine ⟨congrArg some hchecked.healthChecked, ?_, ?_⟩
    · intro signalType hrequired
      refine ⟨servedSignal (evaluated input signalType), ?_, rfl⟩
      exact (mem_primary_served hchecked.repository).mpr ⟨signalType, hrequired, rfl⟩
    · intro signal hsignal
      obtain ⟨signalType, hrequired, rfl⟩ := (mem_primary_served hchecked.repository).mp hsignal
      have hcause := hcauses signalType hrequired
      rw [causeOf_build hchecked.repository] at hcause
      exact ⟨hcause, noStationProofIssue_served hchecked hcatalog (Option.some.inj hcause)⟩

/-! ### What an item says -/

def noStationWords : List Char := ['沒', '有', '測', '站']

/-- The text ends with the words that there is no station. -/
def SaysNoStation (text : String) : Prop := noStationWords <:+ text.toList

instance (text : String) : Decidable (SaysNoStation text) :=
  inferInstanceAs (Decidable (noStationWords <:+ text.toList))

theorem saysNoStation_append {start ending : String} (h : SaysNoStation (start ++ ending))
    (hlength : 4 ≤ ending.toList.length) : SaysNoStation ending := by
  unfold SaysNoStation at h ⊢
  rw [String.toList_append] at h
  exact List.suffix_of_suffix_length_le h (List.suffix_append _ _) hlength

theorem noStation_of_missingDetail {formats : LocaleFormats} {coverage : NearbyRealtimeCoverage}
    {signal : CoverageSignal} {searchRadiusM : ℚ}
    (h : SaysNoStation (missingSignalDetail formats coverage signal searchRadiusM)) :
    signal.missingCause = some .noStationInRange := by
  have hnoReading : ∀ radius : String, ¬ SaysNoStation (radius ++ "內未取得觀測") := by
    intro radius hends
    exact absurd (saysNoStation_append hends (by decide)) (by decide)
  unfold missingSignalDetail at h
  simp only at h
  cases hcause : signal.missingCause with
  | none =>
      simp only [hcause, Option.map_none] at h
      repeat' split at h
      · exact absurd h (by decide)
      · exact absurd h (by decide)
      · exact absurd h (hnoReading _)
  | some cause =>
      simp only [hcause, Option.map_some, effectiveMissingCause] at h
      cases hissue : noStationProofIssue coverage signal with
      | some issue =>
          simp only [hissue, Option.map_some, Option.getD_some] at h
          cases issue <;> simp only [SourceIssueCause.cause] at h
          case jurisdictionMappingMissing =>
            repeat' split at h
            · exact absurd h (by decide)
            · exact absurd h (by decide)
            · exact absurd h (hnoReading _)
          all_goals exact absurd h (by decide)
      | none =>
          simp only [hissue, Option.map_none, Option.getD_none] at h
          cases cause <;> simp only at h
          case noStationInRange => rfl
          case none | staleObservation | jurisdictionMappingMissing =>
            repeat' split at h
            · exact absurd h (by decide)
            · exact absurd h (by decide)
            · exact absurd h (hnoReading _)
          all_goals exact absurd h (by decide)

theorem noStation_of_signalDetail {formats : LocaleFormats} {coverage : NearbyRealtimeCoverage}
    {signal : CoverageSignal} {searchRadiusM : ℚ}
    (h : SaysNoStation (signalDetail formats coverage signal searchRadiusM)) :
    signal.missingCause = some .noStationInRange := by
  unfold signalDetail at h
  cases hdistance : signal.nearestDistanceM with
  | none =>
      rw [hdistance] at h
      exact noStation_of_missingDetail h
  | some distance =>
      simp only [hdistance] at h
      by_cases hnear : distance ≤ realtimeScoringRadiusM
      · rw [if_pos hnear, ← String.append_assoc] at h
        exact absurd (saysNoStation_append h (by decide)) (by decide)
      · rw [if_neg hnear, ← String.append_assoc] at h
        exact absurd (saysNoStation_append h (by decide)) (by decide)

theorem mem_breakdown_of_displayed {coverage : NearbyRealtimeCoverage} {signal : CoverageSignal}
    (h : signal ∈ displayMeasurementSignals coverage) : signal ∈ coverage.signalBreakdown := by
  have hprimary : ∀ signal ∈ primaryMeasurementSignals coverage,
      signal ∈ coverage.signalBreakdown := by
    intro primary hmem
    unfold primaryMeasurementSignals at hmem
    simp only at hmem
    split at hmem
    · obtain ⟨signalType, -, hfound⟩ := List.mem_filterMap.mp hmem
      exact List.mem_of_find?_eq_some hfound
    · exact List.mem_of_mem_filter hmem
  cases List.mem_append.mp (List.mem_of_mem_take h) with
  | inl hmem => exact hprimary signal hmem
  | inr hmem => exact List.mem_of_mem_filter (List.mem_mergeSort.mp hmem)

/-- An item that says there is no station is one of a signal with that cause. -/
theorem noStation_of_item (hread : input.repositoryUnavailable = false)
    {formats : LocaleFormats} {dataFreshness : List String} {item : SensingItem}
    (hitem : item ∈ (nearbySensingState formats dataFreshness
      (served (buildNearbyRealtimeCoverage input))).items)
    (hends : SaysNoStation item.detail) :
    ∃ signalType, item.id = signalText signalType ∧
      causeOf (buildNearbyRealtimeCoverage input) signalType = some .noStationInRange := by
  obtain ⟨signal, hsignal, rfl⟩ := List.mem_map.mp hitem
  have hcause : signal.missingCause = some .noStationInRange := noStation_of_signalDetail hends
  obtain ⟨evaluation, hevaluation, rfl⟩ := List.mem_map.mp (mem_breakdown_of_displayed hsignal)
  rw [breakdown_build hread] at hevaluation
  obtain ⟨signalType, -, rfl⟩ := List.mem_map.mp hevaluation
  refine ⟨signalType, rfl, ?_⟩
  rw [causeOf_build hread]
  exact hcause

/-! ### No source issue -/

/-- The four measured signals of the coverage have no station in range. -/
def MeasuredAbsent (input : CoverageInput) : Prop :=
  ∀ signalType ∈ requiredCoverageSignals,
    (evaluated input signalType).missingCause = .noStationInRange

theorem evaluated_absent {signalType : SignalType}
    (hcause : (evaluated input signalType).missingCause = .noStationInRange) :
    (evaluated input signalType).coverageLevel = .noLocalSensor ∧
      (evaluated input signalType).freshCount = 0 ∧
      (evaluated input signalType).degradedCount = 0 ∧
      (evaluated input signalType).staleCount = 0 := by
  have hrows : groupRows input.rows signalType = [] :=
    Realtime.groupRows_eq_nil_iff.mpr (Realtime.evaluateSignal_noStation_iff.mp hcause).1
  unfold evaluated
  rw [hrows]
  exact ⟨rfl, rfl, rfl, rfl⟩

theorem sourceIssue_absent (hchecked : FullyChecked input)
    (hcatalog : (buildNearbyRealtimeCoverage input).jurisdictionCatalogComplete = true)
    (habsent : MeasuredAbsent input) :
    (diagnoseCoverage (served (buildNearbyRealtimeCoverage input))).sourceIssue = none := by
  have hprimary := primary_served hchecked.repository
  have hstates : (primaryMeasurementSignals (served (buildNearbyRealtimeCoverage input))).map
      signalAvailability = requiredCoverageSignals.map fun _ => .noStation := by
    rw [hprimary, List.map_map]
    apply List.map_congr_left
    intro signalType hrequired
    exact availability_noStation (habsent signalType hrequired)
  have hsignals : ((primaryMeasurementSignals (served (buildNearbyRealtimeCoverage input))).map
      effectiveMissingCause).filterMap asSourceIssue = [] := by
    rw [hprimary, List.map_map, List.filterMap_eq_nil_iff]
    intro cause hmem
    obtain ⟨signalType, hrequired, rfl⟩ := List.mem_map.mp hmem
    exact congrArg asSourceIssue (habsent signalType hrequired)
  have hproofs : (primaryMeasurementSignals (served (buildNearbyRealtimeCoverage input))).filterMap
      (noStationProofIssue (served (buildNearbyRealtimeCoverage input))) = [] := by
    rw [hprimary, List.filterMap_eq_nil_iff]
    intro signal hmem
    obtain ⟨signalType, hrequired, rfl⟩ := List.mem_map.mp hmem
    exact noStationProofIssue_served hchecked hcatalog (habsent signalType hrequired)
  simp only [diagnoseCoverage, hstates, hsignals, hproofs]
  rfl

theorem evaluations_eq : Realtime.signalEvaluations input = allSignalTypes.map (evaluated input) :=
  rfl

theorem overallLevel_absent (hread : input.repositoryUnavailable = false)
    (habsent : MeasuredAbsent input) :
    (buildNearbyRealtimeCoverage input).overallLevel = .noLocalSensor := by
  have hlevel : ∀ signalType ∈ requiredCoverageSignals,
      (evaluated input signalType).coverageLevel = .noLocalSensor := by
    intro signalType hrequired
    exact (evaluated_absent (habsent signalType hrequired)).1
  have hrank : (((Realtime.signalEvaluations input).filter fun evaluation =>
      Realtime.isHydrologic evaluation.signalType).map fun evaluation =>
        Realtime.levelRank evaluation.coverageLevel).foldl max 0 = 0 := by
    show ([evaluated input .waterLevel, evaluated input .floodDepth,
      evaluated input .sewerWaterLevel].map fun evaluation =>
        Realtime.levelRank evaluation.coverageLevel).foldl max 0 = 0
    simp only [List.map_cons, List.map_nil, hlevel .waterLevel (by simp [requiredCoverageSignals]),
      hlevel .floodDepth (by simp [requiredCoverageSignals]),
      hlevel .sewerWaterLevel (by simp [requiredCoverageSignals])]
    rfl
  have hrainfall : ((Realtime.signalEvaluations input).any fun evaluation =>
      evaluation.signalType = .rainfall && Realtime.hasCoverage evaluation) = false := by
    rw [List.any_eq_false]
    intro evaluation hmem hrain
    rw [evaluations_eq] at hmem
    obtain ⟨signalType, -, rfl⟩ := List.mem_map.mp hmem
    rw [Bool.and_eq_true, decide_eq_true_eq, evaluated_signalType] at hrain
    obtain ⟨rfl, hcovered⟩ := hrain
    rw [Realtime.hasCoverage, hlevel .rainfall (by simp [requiredCoverageSignals])] at hcovered
    exact absurd hcovered (by simp)
  simp only [buildNearbyRealtimeCoverage, hread, Bool.false_eq_true, if_false,
    Realtime.overallLevel, hrank, hrainfall, ne_eq, not_true_eq_false]

theorem hasRequired_absent {property : Realtime.NearbyCoverageSignal → Bool}
    (hproperty : ∀ signalType ∈ requiredSignalTypes,
      property (evaluated input signalType) = false) :
    Realtime.hasRequired (Realtime.signalEvaluations input) property = false := by
  rw [Realtime.hasRequired, List.any_eq_false]
  intro evaluation hmem hholds
  rw [evaluations_eq] at hmem
  obtain ⟨signalType, -, rfl⟩ := List.mem_map.mp hmem
  rw [Bool.and_eq_true, decide_eq_true_eq, evaluated_signalType] at hholds
  rw [hproperty signalType hholds.1] at hholds
  exact absurd hholds.2 (by simp)

theorem mem_requiredCoverageSignals {signalType : SignalType}
    (h : signalType ∈ requiredSignalTypes) : signalType ∈ requiredCoverageSignals := by
  cases signalType <;> first | decide | exact absurd h (by decide)

def statusRowsSummary : String :=
  "附近有狀態線索，但沒有可用的雨量、水位或淹水深度量測。"

def noDataSummary : String := "目前沒有可用的近距離即時感測資料。"

theorem summary_absent (hread : input.repositoryUnavailable = false)
    (habsent : MeasuredAbsent input) :
    (buildNearbyRealtimeCoverage input).summary = statusRowsSummary ∨
      (buildNearbyRealtimeCoverage input).summary = noDataSummary := by
  have hcause : ∀ signalType ∈ requiredSignalTypes,
      (evaluated input signalType).missingCause = .noStationInRange := by
    intro signalType hrequired
    exact habsent signalType (mem_requiredCoverageSignals hrequired)
  have hfault : Realtime.hasSourceFault (Realtime.signalEvaluations input) = false := by
    apply hasRequired_absent
    intro signalType hrequired
    rw [hcause signalType hrequired]
    rfl
  have hother : ∀ cause : MissingCause, cause ≠ .noStationInRange →
      Realtime.hasCause (Realtime.signalEvaluations input) cause = false := by
    intro cause hne
    apply hasRequired_absent
    intro signalType hrequired
    rw [hcause signalType hrequired]
    exact decide_eq_false fun heq => hne heq.symm
  have hregional : Realtime.hasRegionalReference (Realtime.signalEvaluations input) = false := by
    apply hasRequired_absent
    intro signalType hrequired
    obtain ⟨-, hfresh, hdegraded, -⟩ := evaluated_absent (hcause signalType hrequired)
    rw [hfresh, hdegraded]
    simp
  have hstale : Realtime.hasStaleMeasurements (Realtime.signalEvaluations input) = false := by
    apply hasRequired_absent
    intro signalType hrequired
    obtain ⟨-, -, -, hstale⟩ := evaluated_absent (hcause signalType hrequired)
    rw [hstale]
    rfl
  have hunknown : Realtime.hasSourceStatusUnknown (Realtime.signalEvaluations input) = false := by
    apply hasRequired_absent
    intro signalType hrequired
    rw [availability_noStation (hcause signalType hrequired)]
    rfl
  have hsummary : (buildNearbyRealtimeCoverage input).summary =
      Realtime.buildSummary (Realtime.signalEvaluations input) .noLocalSensor := by
    rw [← overallLevel_absent hread habsent]
    rfl
  rw [hsummary]
  cases hstatus : Realtime.hasLocalUsableStatusRows (Realtime.signalEvaluations input) with
  | true =>
      left
      simp [Realtime.buildSummary, hfault, hother, hregional, hstale, hstatus, statusRowsSummary]
  | false =>
      right
      simp [Realtime.buildSummary, hfault, hother, hregional, hstale, hstatus, hunknown,
        noDataSummary]

theorem plain_statusRowsSummary :
    jsTrim statusRowsSummary = statusRowsSummary ∧ statusRowsSummary ≠ "" := by
  simp [jsTrim, isJsSpace, statusRowsSummary]

theorem plain_noDataSummary : jsTrim noDataSummary = noDataSummary ∧ noDataSummary ≠ "" := by
  simp [jsTrim, isJsSpace, noDataSummary]

theorem shortSummary_of_plain {coverage : NearbyRealtimeCoverage} {text : String}
    (hsummary : coverage.summary = text) (hplain : jsTrim text = text ∧ text ≠ "") :
    (nearbyCoverageSummary (some coverage)).summary = text := by
  simp only [nearbyCoverageSummary, trimmedOr, hsummary, hplain.1, hplain.2, if_false]

/-- For a coverage that was checked in full, the page confirms an absence exactly
when the catalog is complete and the API gives the four measured signals the
cause `no_station_in_range`; an item says so only of a signal with that cause;
and with a confirmed absence neither badge nor summary reports a source issue. -/
theorem page_agrees_on_absence (hchecked : FullyChecked input) (formats : LocaleFormats)
    (dataFreshness : List String) :
    let api := buildNearbyRealtimeCoverage input
    let page := served api
    let state := nearbySensingState formats dataFreshness page
    (confirmedNoLocalSensor (some page) = true ↔
        api.jurisdictionCatalogComplete = true ∧
          ∀ signalType ∈ [SignalType.rainfall, .waterLevel, .floodDepth, .sewerWaterLevel],
            causeOf api signalType = some .noStationInRange) ∧
      (∀ item ∈ state.items, SaysNoStation item.detail →
        ∃ signalType, item.id = signalText signalType ∧
          causeOf api signalType = some .noStationInRange) ∧
      (confirmedNoLocalSensor (some page) = true →
        (diagnoseCoverage page).sourceIssue = none ∧
          state.badge = confirmedBadge ∧ state.summary = confirmedSummary ∧
          (nearbyCoverageSummary (some page)).badge = nearbyCoverageLabels .noLocalSensor ∧
          ((nearbyCoverageSummary (some page)).summary = statusRowsSummary ∨
            (nearbyCoverageSummary (some page)).summary = noDataSummary)) := by
  intro api page state
  refine ⟨confirmed_served_iff hchecked, fun item => noStation_of_item hchecked.repository, ?_⟩
  intro hconfirmed
  obtain ⟨hcatalog, hcauses⟩ := (confirmed_served_iff hchecked).mp hconfirmed
  have habsent : MeasuredAbsent input := by
    intro signalType hrequired
    have hcause := hcauses signalType hrequired
    rw [causeOf_build hchecked.repository] at hcause
    exact Option.some.inj hcause
  have hissue : (diagnoseCoverage page).sourceIssue = none :=
    sourceIssue_absent hchecked hcatalog habsent
  have hlevel : page.overallLevel = .noLocalSensor :=
    overallLevel_absent hchecked.repository habsent
  have hdiagnosis : (diagnoseCoverage page).confirmedNoStation = true := hconfirmed
  refine ⟨hissue, ?_, ?_, ?_, ?_⟩
  · show coverageBadge page (diagnoseCoverage page) = confirmedBadge
    simp [coverageBadge, hlevel, hissue, hdiagnosis]
  · show nearbySensingCoverageSummary formats page (diagnoseCoverage page) = confirmedSummary
    simp [nearbySensingCoverageSummary, hlevel, hissue, hdiagnosis]
  · show nearbyCoverageLabels page.overallLevel = _
    rw [hlevel]
  · exact (summary_absent hchecked.repository habsent).imp
      (fun hsummary => @shortSummary_of_plain page _ hsummary plain_statusRowsSummary)
      fun hsummary => @shortSummary_of_plain page _ hsummary plain_noDataSummary

def isletSource (name : String) (signalType : SignalType) : Realtime.NearbySourceHealth :=
  { sourceId := name
    name := name
    signalTypes := [signalType]
    healthStatus := .healthy
    reasonCode := .operational
    observedAt := none
    checkedAt := none
    stationCount := some 12
    inventoryComplete := true
    jurisdictions := []
    requiredForAbsence := true
    message := "" }

/-- An islet without a station, whose four sources have complete inventories. -/
def isletInput : CoverageInput :=
  { queryRadiusM := 500
    evaluatedAt := 0
    sourceHealth := [isletSource "cwa-rainfall" .rainfall, isletSource "wra-water-level" .waterLevel,
      isletSource "wra-iow-flood-depth" .floodDepth,
      isletSource "civil-iot-sewer-water-level" .sewerWaterLevel]
    sourceHealthChecked := true
    jurisdictionStatus := .verified
    jurisdictionChecked := true
    jurisdictionCompleteSignalTypes := allSignalTypes }

/-- The formats of whole numbers below a thousand. -/
def wholeFormats : LocaleFormats :=
  { integer := fun value => toString value
    decimal := fun _ value => toString (mathRound value)
    dateTime := fun _ => "1970/01/01 上午08:00" }

theorem page_agrees_on_absence_islet :
    (nearbySensingState wholeFormats [] (served (buildNearbyRealtimeCoverage isletInput))).badge =
        confirmedBadge ∧
      confirmedNoLocalSensor (some (served (buildNearbyRealtimeCoverage isletInput))) = true := by
  have hchecked : FullyChecked isletInput := ⟨rfl, rfl, rfl, rfl⟩
  obtain ⟨hiff, -, hquiet⟩ := page_agrees_on_absence hchecked wholeFormats []
  have hconfirmed : confirmedNoLocalSensor (some (served (buildNearbyRealtimeCoverage isletInput))) =
      true := hiff.mpr (by decide)
  exact ⟨(hquiet hconfirmed).2.1, hconfirmed⟩

end FloodRisk.RiskDisplay
