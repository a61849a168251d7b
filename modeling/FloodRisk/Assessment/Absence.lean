import FloodRisk.Assessment.Repository
import FloodRisk.Realtime.Absence
import Mathlib.Data.List.Dedup

/-!
# Absence that a loaded coverage publishes

`SearchedAbsence` is what `load` checks before a signal has no station in range:
the counties within the radius of the query and the sources mapped for them.
`AbsenceProven` is what the published text says, of everything within 15 km.
-/

namespace FloodRisk.Assessment
open Promotion Realtime

variable {Geometry Point : Type} {geography : Geography Geometry Point}
  {tables : RealtimeTables Geometry} {available : ReadAvailability} {point : Point} {radiusM : ℕ}
  {now asOf : ℤ} {signalType : SignalType}

/-! ### What the tables say of a county and of a source -/

section Predicates

variable (geography : Geography Geometry Point) (tables : RealtimeTables Geometry) (point : Point)

/-- The county has a proven contract of the signal at the reviewed revision. -/
def IsReviewedFor (signalType : SignalType) (jurisdictionCode : String) : Prop :=
  ∃ contract ∈ tables.contracts, contract.jurisdictionCode = jurisdictionCode ∧
    contract.signalType = signalType ∧
    mappingProofValid geography tables.toJurisdictionTables contract = true ∧
    reviewedSignalContractRevisions.lookup signalType = some contract.mappingRevision

/-- The contract of the county requires the source for the signal. -/
def IsRequiredFor (signalType : SignalType) (jurisdictionCode adapterKey : String) : Prop :=
  ∃ contract ∈ tables.contracts, contract.jurisdictionCode = jurisdictionCode ∧
    contract.signalType = signalType ∧
    ∃ mapping ∈ contractMappings tables.toJurisdictionTables contract,
      mapping.requirementRole = .required ∧ mapping.adapterKey = adapterKey

/-- Enabled, healthy with the reason `operational`, and with a complete
inventory of at least one station. -/
def isOperationalSource (asOf : ℤ) (adapterKey : String) : Bool :=
  let row := sourceRow tables adapterKey
  (adapterSignalTypes.lookup adapterKey).any fun signalType =>
    let decision := sourceHealthDecision row.toRealtimeSourceHealthRow signalType asOf
    row.isEnabled && decision.healthStatus = .healthy && decision.reasonCode = .operational &&
      row.inventoryComplete && row.stationCount.any (0 < ·)

def IsCountyWithin (distanceM : ℚ) (jurisdictionCode : String) : Prop :=
  ∃ boundary ∈ activeBoundaries geography tables.toJurisdictionTables,
    boundary.jurisdictionCode = jurisdictionCode ∧
      geography.isWithin boundary.geom point distanceM = true

/-- Nothing within 15 km contradicts a published absence. -/
structure AbsenceProven (asOf : ℤ) (signalType : SignalType) : Prop where
  stations : ∀ reading ∈ tables.latest, isEnabledSource tables reading.adapterKey = true →
    coverageSignalType reading.eventType reading.adapterKey = signalType →
      geography.isWithin reading.geom point coverageRadiusM = false
  contracts : ∀ code, IsCountyWithin geography tables point coverageRadiusM code →
    IsReviewedFor geography tables signalType code
  sources : ∀ code, IsCountyWithin geography tables point coverageRadiusM code →
    ∀ adapterKey, IsRequiredFor tables signalType code adapterKey →
      isOperationalSource tables asOf adapterKey = true

end Predicates

/-! ### What the search covers -/

section Search

variable (geography : Geography Geometry Point) (tables : RealtimeTables Geometry) (point : Point)
  (radiusM : ℕ)

def IsMappedWithin (mapping : SourceMapping) : Prop :=
  mapping ∈ tables.mappings ∧ isMappedFor geography tables.toJurisdictionTables
    (consideredJurisdictions geography tables.toJurisdictionTables point radiusM) mapping = true

def IsSearchedSource (adapterKey : String) : Prop :=
  ∃ mapping, IsMappedWithin geography tables point radiusM mapping ∧
    mapping.adapterKey = adapterKey

/-- A required source among them that publishes its health under the signal. -/
def IsCheckedSource (signalType : SignalType) (adapterKey : String) : Prop :=
  adapterSignalTypes.lookup adapterKey = some signalType ∧
    ∃ mapping, IsMappedWithin geography tables point radiusM mapping ∧
      mapping.requirementRole = .required ∧ mapping.adapterKey = adapterKey

/-- What is checked before a signal has no station in range. -/
structure SearchedAbsence (available : ReadAvailability) (now asOf : ℤ)
    (signalType : SignalType) : Prop where
  jurisdictionRead : available.jurisdiction = true
  healthRead : available.health = true
  verified : resolutionStatus geography tables.toJurisdictionTables point = .verified
  county : ∃ code, IsCountyWithin geography tables point radiusM code
  contracts : ∀ code, IsCountyWithin geography tables point radiusM code →
    IsReviewedFor geography tables signalType code
  stationsRead : available.stations = true ∧ (available.supplement = true ∨
    queryNearbyLatestCoverageRows geography tables point now ≠ [])
  stations : ∀ reading ∈ tables.latest, isEnabledSource tables reading.adapterKey = true →
    geography.isWithin reading.geom point coverageRadiusM = true →
      IsSearchedSource geography tables point radiusM reading.adapterKey →
        coverageSignalType reading.eventType reading.adapterKey ≠ signalType
  supplement : available.supplement = true →
    ∀ row ∈ queryNearbyEvidenceCoverageRows geography tables point now,
      IsSearchedSource geography tables point radiusM row.adapterKey →
        coverageSignalType row.eventType row.adapterKey ≠ signalType
  source : ∃ adapterKey, IsCheckedSource geography tables point radiusM signalType adapterKey
  sources : ∀ adapterKey, IsCheckedSource geography tables point radiusM signalType adapterKey →
    isOperationalSource tables asOf adapterKey = true

/-- What the search leaves out agrees with the absence: stations of sources
that no county within the radius has mapped, counties beyond the radius, and
required sources that no county within it has checked under the signal. -/
structure UnsearchedAgrees (asOf : ℤ) (signalType : SignalType) : Prop where
  stations : ∀ reading ∈ tables.latest, isEnabledSource tables reading.adapterKey = true →
    coverageSignalType reading.eventType reading.adapterKey = signalType →
      ¬ IsSearchedSource geography tables point radiusM reading.adapterKey →
        geography.isWithin reading.geom point coverageRadiusM = false
  contracts : ∀ code, IsCountyWithin geography tables point coverageRadiusM code →
    ¬ IsCountyWithin geography tables point radiusM code →
      IsReviewedFor geography tables signalType code
  sources : ∀ code, IsCountyWithin geography tables point coverageRadiusM code →
    ∀ adapterKey, IsRequiredFor tables signalType code adapterKey →
      ¬ IsCheckedSource geography tables point radiusM signalType adapterKey →
        isOperationalSource tables asOf adapterKey = true

end Search

/-! ### The counties of the search -/

theorem exists_considered {searchRadiusM : ℚ} {code : String}
    (h : IsCountyWithin geography tables point searchRadiusM code) :
    ∃ county ∈ consideredJurisdictions geography tables.toJurisdictionTables point searchRadiusM,
      county.jurisdictionCode = code := by
  obtain ⟨boundary, hboundary, hcode, hnear⟩ := h
  have hstored : boundary ∈ tables.boundaries := by
    unfold activeBoundaries at hboundary
    split at hboundary
    · exact List.mem_of_mem_filter hboundary
    · exact absurd hboundary List.not_mem_nil
  obtain ⟨county, hcounty, hnamed⟩ := tables.boundaryNamed boundary hstored
  refine ⟨county, ?_, hnamed.trans hcode⟩
  apply mem_orderBy.mpr
  exact List.mem_flatMap.mpr ⟨boundary, List.mem_filter.mpr ⟨hboundary, hnear⟩,
    List.mem_filter.mpr ⟨hcounty, decide_eq_true hnamed⟩⟩

theorem county_of_considered {searchRadiusM : ℚ} {county : Jurisdiction}
    (h : county ∈
      consideredJurisdictions geography tables.toJurisdictionTables point searchRadiusM) :
    IsCountyWithin geography tables point searchRadiusM county.jurisdictionCode := by
  obtain ⟨boundary, hboundary, hcounty⟩ := List.mem_flatMap.mp (mem_orderBy.mp h)
  obtain ⟨hactive, hnear⟩ := List.mem_filter.mp hboundary
  have hnamed := of_decide_eq_true (List.mem_filter.mp hcounty).2
  exact ⟨boundary, hactive, hnamed.symm, hnear⟩

theorem mem_contractsOf {considered : List Jurisdiction} {entry : Jurisdiction × SignalContract}
    {jurisdictionTables : JurisdictionTables Geometry} :
    entry ∈ contractsOf jurisdictionTables considered ↔ entry.1 ∈ considered ∧
      entry.2 ∈ jurisdictionTables.contracts ∧
        entry.2.jurisdictionCode = entry.1.jurisdictionCode := by
  simp only [contractsOf, List.mem_flatMap, List.mem_map, List.mem_filter, decide_eq_true_eq]
  constructor
  · intro h
    obtain ⟨county, hcounty, contract, hcontract, heq⟩ := h
    rw [← heq]
    exact ⟨hcounty, hcontract⟩
  · intro h
    obtain ⟨hcounty, hcontract⟩ := h
    exact ⟨entry.1, hcounty, entry.2, hcontract, rfl⟩

/-- A verified point has the counties, contracts and mappings of its search. -/
structure VerifiedContext (geography : Geography Geometry Point) (tables : RealtimeTables Geometry)
    (point : Point) (radiusM : ℕ) (jurisdiction : RealtimeJurisdictionContext) : Prop where
  status : jurisdiction.resolutionStatus = .verified
  considered : jurisdiction.consideredJurisdictions =
    consideredJurisdictions geography tables.toJurisdictionTables point radiusM
  contracts : ∀ contract, contract ∈ jurisdiction.signalContracts ↔
    ∃ entry ∈ contractsOf tables.toJurisdictionTables
        (consideredJurisdictions geography tables.toJurisdictionTables point radiusM),
      contextContract geography tables.toJurisdictionTables entry = contract
  mappings : ∀ mapping, mapping ∈ jurisdiction.sourceMappings ↔
    ∃ stored, IsMappedWithin geography tables point radiusM stored ∧
      contextMapping tables.toJurisdictionTables stored = mapping

theorem verifiedContext_load (hread : available.jurisdiction = true)
    (hverified : resolutionStatus geography tables.toJurisdictionTables point = .verified) :
    VerifiedContext geography tables point radiusM
      (loadJurisdiction geography tables available point radiusM) := by
  have hquery : loadJurisdiction geography tables available point radiusM =
      queryRealtimeJurisdictionContext geography tables.toJurisdictionTables point radiusM := by
    simp only [loadJurisdiction, hread, if_true]
  rw [hquery]
  constructor
  · simp only [queryRealtimeJurisdictionContext, hverified, if_true]
  · simp only [queryRealtimeJurisdictionContext, hverified, if_true]
  · intro contract
    simp only [queryRealtimeJurisdictionContext, hverified, if_true, mem_orderBy, List.mem_map]
  · intro mapping
    simp only [queryRealtimeJurisdictionContext, hverified, if_true, mem_orderBy, List.mem_map,
      List.mem_filter, IsMappedWithin]

theorem loadJurisdiction_unverified
    (h : ¬ (available.jurisdiction = true ∧
      resolutionStatus geography tables.toJurisdictionTables point = .verified)) :
    (loadJurisdiction geography tables available point radiusM).consideredJurisdictions = [] := by
  unfold loadJurisdiction
  split
  · rename_i hread
    simp only [queryRealtimeJurisdictionContext, if_neg fun hverified => h ⟨hread, hverified⟩]
  · rfl

/-! ### Reviewed signals -/

theorem lookup_reviewedRevisions (signalType : SignalType) :
    reviewedSignalContractRevisions.lookup signalType =
      match signalType with
      | .rainfall | .waterLevel | .floodDepth => some "2026-08-24-v1-baseline"
      | .sewerWaterLevel => some "2026-08-29-sewer-publication"
      | _ => none := by
  cases signalType <;> rfl

theorem mem_reviewedRevisions {revision : String} :
    (signalType, revision) ∈ reviewedSignalContractRevisions ↔
      reviewedSignalContractRevisions.lookup signalType = some revision := by
  rw [lookup_reviewedRevisions]
  cases signalType <;> simp [reviewedSignalContractRevisions, eq_comm]

theorem mem_completeSignalTypes {jurisdiction : RealtimeJurisdictionContext} :
    signalType ∈ completeSignalTypes jurisdiction ↔
      jurisdiction.consideredJurisdictions ≠ [] ∧ ∃ revision,
        reviewedSignalContractRevisions.lookup signalType = some revision ∧
          ∀ county ∈ jurisdiction.consideredJurisdictions,
            ∃ contract ∈ jurisdiction.signalContracts,
              isReviewedContract signalType revision county.jurisdictionCode contract = true := by
  unfold completeSignalTypes
  split
  · rename_i hnone
    constructor
    · intro h
      exact absurd h List.not_mem_nil
    · intro h
      exact absurd hnone h.1
  · rename_i hsome
    simp only [mem_orderBy, List.mem_map, List.mem_filter, List.all_eq_true, List.any_eq_true]
    constructor
    · intro h
      obtain ⟨entry, ⟨hentry, hcounties⟩, heq⟩ := h
      subst heq
      exact ⟨hsome, entry.2, mem_reviewedRevisions.mp hentry, hcounties⟩
    · intro h
      obtain ⟨-, revision, hrevision, hcounties⟩ := h
      exact ⟨(signalType, revision), ⟨mem_reviewedRevisions.mpr hrevision, hcounties⟩, rfl⟩

theorem isReviewedFor_iff {jurisdiction : RealtimeJurisdictionContext}
    (hcontext : VerifiedContext geography tables point radiusM jurisdiction) {revision : String}
    (hrevision : reviewedSignalContractRevisions.lookup signalType = some revision)
    {county : Jurisdiction} (hcounty : county ∈ jurisdiction.consideredJurisdictions) :
    (∃ contract ∈ jurisdiction.signalContracts,
      isReviewedContract signalType revision county.jurisdictionCode contract = true) ↔
        IsReviewedFor geography tables signalType county.jurisdictionCode := by
  constructor
  · intro h
    obtain ⟨contract, hcontract, hreviewed⟩ := h
    obtain ⟨entry, hentry, heq⟩ := (hcontext.contracts contract).mp hcontract
    obtain ⟨-, hstored, -⟩ := mem_contractsOf.mp hentry
    rw [← heq] at hreviewed
    simp only [isReviewedContract, Bool.and_eq_true, decide_eq_true_eq] at hreviewed
    obtain ⟨⟨⟨⟨hcode, htype⟩, -⟩, hproof⟩, hsame⟩ := hreviewed
    have hlookup : reviewedSignalContractRevisions.lookup signalType =
        some entry.2.mappingRevision := hrevision.trans (congrArg some hsame.symm)
    exact ⟨entry.2, hstored, hcode, htype, hproof, hlookup⟩
  · intro h
    obtain ⟨contract, hstored, hcode, htype, hproof, hsame⟩ := h
    have hstatus : contract.catalogStatus = .reviewedComplete := by
      simp only [mappingProofValid, Bool.and_eq_true, decide_eq_true_eq] at hproof
      exact hproof.1.1.1.1.1.1.1.1
    have heq : contract.mappingRevision = revision :=
      Option.some.inj (hsame.symm.trans hrevision)
    rw [hcontext.considered] at hcounty
    refine ⟨_, (hcontext.contracts _).mpr
      ⟨(county, contract), mem_contractsOf.mpr ⟨hcounty, hstored, hcode⟩, rfl⟩, ?_⟩
    simp only [isReviewedContract, contextContract, hcode, htype, hstatus, hproof, heq,
      decide_true, Bool.and_self]

theorem complete_load_iff :
    (available.jurisdiction = true ∧ signalType ∈ completeSignalTypes
        (loadJurisdiction geography tables available point radiusM)) ↔
      available.jurisdiction = true ∧
        resolutionStatus geography tables.toJurisdictionTables point = .verified ∧
        (∃ code, IsCountyWithin geography tables point radiusM code) ∧
        ∀ code, IsCountyWithin geography tables point radiusM code →
          IsReviewedFor geography tables signalType code := by
  rw [mem_completeSignalTypes]
  by_cases hread : available.jurisdiction = true ∧
      resolutionStatus geography tables.toJurisdictionTables point = .verified
  · have hcontext : VerifiedContext geography tables point radiusM
        (loadJurisdiction geography tables available point radiusM) :=
      verifiedContext_load hread.1 hread.2
    constructor
    · intro h
      obtain ⟨-, hsome, revision, hrevision, hcounties⟩ := h
      obtain ⟨county, hcounty⟩ := List.exists_mem_of_ne_nil _ hsome
      have hwithin := hcounty
      rw [hcontext.considered] at hwithin
      refine ⟨hread.1, hread.2, ⟨_, county_of_considered hwithin⟩, ?_⟩
      intro code hcode
      obtain ⟨near, hnear, heq⟩ := exists_considered hcode
      rw [← hcontext.considered] at hnear
      rw [← heq]
      exact (isReviewedFor_iff hcontext hrevision hnear).mp (hcounties near hnear)
    · intro h
      obtain ⟨-, -, ⟨code, hcode⟩, hreviewed⟩ := h
      obtain ⟨county, hcounty, -⟩ := exists_considered hcode
      obtain ⟨contract, -, -, -, -, hrevision⟩ := hreviewed code hcode
      refine ⟨hread.1, ?_, contract.mappingRevision, hrevision, ?_⟩
      · rw [hcontext.considered]
        exact List.ne_nil_of_mem hcounty
      · intro near hnear
        apply (isReviewedFor_iff hcontext hrevision hnear).mpr
        rw [hcontext.considered] at hnear
        exact hreviewed _ (county_of_considered hnear)
  · constructor
    · intro h
      obtain ⟨-, hsome, -⟩ := h
      exact absurd (loadJurisdiction_unverified hread) hsome
    · intro h
      obtain ⟨hjurisdiction, hverified, -⟩ := h
      exact absurd ⟨hjurisdiction, hverified⟩ hread

/-! ### The sources of the search -/

theorem mem_applicableKeys (hread : available.jurisdiction = true)
    (hverified : resolutionStatus geography tables.toJurisdictionTables point = .verified)
    {adapterKey : String} :
    adapterKey ∈ applicableKeys geography tables available point radiusM ↔
      IsSearchedSource geography tables point radiusM adapterKey := by
  have hcontext : VerifiedContext geography tables point radiusM
      (loadJurisdiction geography tables available point radiusM) :=
    verifiedContext_load hread hverified
  simp only [applicableKeys, hread, hcontext.status, and_self, if_true,
    RealtimeJurisdictionContext.adapterKeys, mem_orderBy, List.mem_dedup, List.mem_map,
    hcontext.mappings, IsSearchedSource]
  constructor
  · intro h
    obtain ⟨mapping, ⟨stored, hstored, heq⟩, hkey⟩ := h
    rw [← heq] at hkey
    exact ⟨stored, hstored, hkey⟩
  · intro h
    obtain ⟨stored, hstored, hkey⟩ := h
    exact ⟨_, ⟨stored, hstored, rfl⟩, hkey⟩

theorem mem_requiredKeys (hread : available.jurisdiction = true)
    (hverified : resolutionStatus geography tables.toJurisdictionTables point = .verified)
    {adapterKey : String} :
    adapterKey ∈ requiredKeys geography tables available point radiusM ↔
      ∃ mapping, IsMappedWithin geography tables point radiusM mapping ∧
        mapping.requirementRole = .required ∧ mapping.adapterKey = adapterKey := by
  have hcontext : VerifiedContext geography tables point radiusM
      (loadJurisdiction geography tables available point radiusM) :=
    verifiedContext_load hread hverified
  have hmapped : adapterKey ∈ requiredAdapterKeys
        (loadJurisdiction geography tables available point radiusM) ↔
      ∃ mapping, IsMappedWithin geography tables point radiusM mapping ∧
        mapping.requirementRole = .required ∧ mapping.adapterKey = adapterKey := by
    simp only [requiredAdapterKeys, List.mem_map, List.mem_filter, hcontext.mappings,
      decide_eq_true_eq]
    constructor
    · intro h
      obtain ⟨mapping, ⟨⟨stored, hstored, heq⟩, hrole⟩, hkey⟩ := h
      rw [← heq] at hrole hkey
      exact ⟨stored, hstored, hrole, hkey⟩
    · intro h
      obtain ⟨stored, hstored, hrole, hkey⟩ := h
      exact ⟨_, ⟨⟨stored, hstored, rfl⟩, hrole⟩, hkey⟩
  unfold requiredKeys
  split
  · exact hmapped
  · rename_i hnone
    constructor
    · intro h
      exact absurd h List.not_mem_nil
    · intro h
      obtain ⟨mapping, hmapping, -, hkey⟩ := h
      have hsearched : adapterKey ∈ applicableKeys geography tables available point radiusM :=
        (mem_applicableKeys hread hverified).mpr ⟨mapping, hmapping, hkey⟩
      exact absurd (List.ne_nil_of_mem hsearched) hnone

theorem enabled_of_healthy {row : RealtimeSourceHealthRow}
    (h : (sourceHealthDecision row signalType asOf).healthStatus = .healthy) :
    row.isEnabled = true := by
  cases henabled : row.isEnabled with
  | true => rfl
  | false =>
      simp [sourceHealthDecision, selectionDecision, henabled, disabledDecision] at h

theorem isConclusive_source {adapterKey : String} {names : String → List String}
    {required : List String} {item : NearbySourceHealth}
    (hitem : nearbySourceHealth asOf names required (sourceRow tables adapterKey) = some item)
    (hlisted : signalType ∈ item.signalTypes) :
    adapterSignalTypes.lookup adapterKey = some signalType ∧
      (item.requiredForAbsence = true ↔ adapterKey ∈ required) ∧
      isConclusive item = isOperationalSource tables asOf adapterKey := by
  unfold nearbySourceHealth at hitem
  rw [sourceRow_adapterKey] at hitem
  obtain ⟨published, hpublished, heq⟩ := Option.map_eq_some_iff.mp hitem
  rw [← heq] at hlisted
  have hsame : signalType = published := List.mem_singleton.mp hlisted
  subst hsame
  refine ⟨hpublished, ?_, ?_⟩
  · rw [← heq]
    simp only [decide_eq_true_eq]
  · rw [← heq]
    simp only [isConclusive, isOperationalSource, hpublished, Option.any_some]
    cases hhealthy : decide ((sourceHealthDecision
        (sourceRow tables adapterKey).toRealtimeSourceHealthRow signalType asOf).healthStatus =
          .healthy) with
    | false => simp
    | true => simp only [enabled_of_healthy (of_decide_eq_true hhealthy), Bool.true_and]

theorem mem_loadSourceHealth (hhealth : available.health = true) {item : NearbySourceHealth} :
    item ∈ loadSourceHealth geography tables available point radiusM asOf ↔
      ∃ adapterKey ∈ applicableKeys geography tables available point radiusM,
        nearbySourceHealth asOf
          (jurisdictionsByAdapter (loadJurisdiction geography tables available point radiusM))
          (requiredKeys geography tables available point radiusM) (sourceRow tables adapterKey) =
            some item := by
  simp only [loadSourceHealth, loadHealth, hhealth, if_true, Option.getD_some,
    buildNearbySourceHealth, queryRealtimeSourceHealthRows, mem_orderBy, List.mem_filterMap,
    List.mem_map]
  constructor
  · intro h
    obtain ⟨row, ⟨adapterKey, hkey, heq⟩, hitem⟩ := h
    rw [← heq] at hitem
    exact ⟨adapterKey, hkey, hitem⟩
  · intro h
    obtain ⟨adapterKey, hkey, hitem⟩ := h
    exact ⟨_, ⟨adapterKey, hkey, rfl⟩, hitem⟩

theorem conclusiveSources_iff (hread : available.jurisdiction = true)
    (hverified : resolutionStatus geography tables.toJurisdictionTables point = .verified)
    (hhealth : available.health = true) :
    ConclusiveSources (groupSourceHealth
        (loadSourceHealth geography tables available point radiusM asOf) signalType) ↔
      (∃ adapterKey, IsCheckedSource geography tables point radiusM signalType adapterKey) ∧
        ∀ adapterKey, IsCheckedSource geography tables point radiusM signalType adapterKey →
          isOperationalSource tables asOf adapterKey = true := by
  have hchecked : ∀ item, item ∈ groupSourceHealth
      (loadSourceHealth geography tables available point radiusM asOf) signalType →
        item.requiredForAbsence = true → ∃ adapterKey,
          IsCheckedSource geography tables point radiusM signalType adapterKey ∧
            isConclusive item = isOperationalSource tables asOf adapterKey := by
    intro item hitem hrequired
    obtain ⟨hloaded, hlisted⟩ := mem_groupSourceHealth.mp hitem
    obtain ⟨adapterKey, -, hpublished⟩ := (mem_loadSourceHealth hhealth).mp hloaded
    obtain ⟨hlookup, hrole, hsame⟩ := isConclusive_source hpublished hlisted
    exact ⟨adapterKey, ⟨hlookup, (mem_requiredKeys hread hverified).mp (hrole.mp hrequired)⟩,
      hsame⟩
  have hshown : ∀ adapterKey,
      IsCheckedSource geography tables point radiusM signalType adapterKey →
        ∃ item ∈ groupSourceHealth
          (loadSourceHealth geography tables available point radiusM asOf) signalType,
            item.requiredForAbsence = true ∧
              isConclusive item = isOperationalSource tables asOf adapterKey := by
    intro adapterKey hsource
    obtain ⟨hlookup, mapping, hmapping, hrole, hkey⟩ := hsource
    have hsearched : adapterKey ∈ applicableKeys geography tables available point radiusM :=
      (mem_applicableKeys hread hverified).mpr ⟨mapping, hmapping, hkey⟩
    have hrequired : adapterKey ∈ requiredKeys geography tables available point radiusM :=
      (mem_requiredKeys hread hverified).mpr ⟨mapping, hmapping, hrole, hkey⟩
    obtain ⟨item, hitem, hlisted⟩ : ∃ item, nearbySourceHealth asOf
        (jurisdictionsByAdapter (loadJurisdiction geography tables available point radiusM))
        (requiredKeys geography tables available point radiusM) (sourceRow tables adapterKey) =
          some item ∧ signalType ∈ item.signalTypes := by
      simp only [nearbySourceHealth, sourceRow_adapterKey, hlookup, Option.map_some]
      exact ⟨_, rfl, List.mem_cons_self⟩
    obtain ⟨-, hneeded, hsame⟩ := isConclusive_source hitem hlisted
    exact ⟨item, mem_groupSourceHealth.mpr
      ⟨(mem_loadSourceHealth hhealth).mpr ⟨adapterKey, hsearched, hitem⟩, hlisted⟩,
      hneeded.mpr hrequired, hsame⟩
  constructor
  · intro h
    obtain ⟨⟨item, hitem, hrequired⟩, hall⟩ := h
    obtain ⟨adapterKey, hsource, -⟩ := hchecked item hitem hrequired
    refine ⟨⟨adapterKey, hsource⟩, ?_⟩
    intro other hother
    obtain ⟨shown, hmem, hneeded, hsame⟩ := hshown other hother
    rw [← hsame]
    exact hall shown hmem hneeded
  · intro h
    obtain ⟨⟨adapterKey, hsource⟩, hall⟩ := h
    obtain ⟨shown, hmem, hneeded, -⟩ := hshown adapterKey hsource
    refine ⟨⟨shown, hmem, hneeded⟩, ?_⟩
    intro item hitem hrequired
    obtain ⟨other, hother, hsame⟩ := hchecked item hitem hrequired
    rw [hsame]
    exact hall other hother

/-! ### The stations of the search -/

theorem isSome_loadStations :
    (loadStations geography tables available point now).isSome = true ↔
      available.stations = true ∧ (available.supplement = true ∨
        queryNearbyLatestCoverageRows geography tables point now ≠ []) := by
  unfold loadStations queryNearbyRealtimeCoverageRows
  cases hstations : available.stations with
  | false => simp
  | true =>
      cases hsupplement : available.supplement with
      | true => simp
      | false =>
          by_cases hlatest : queryNearbyLatestCoverageRows geography tables point now = []
          · simp [hlatest]
          · simp [hlatest]

theorem loadStations_rows {rows : List CoverageRead}
    (h : loadStations geography tables available point now = some rows)
    (property : String → String → Prop) :
    (∀ row ∈ rows, row.distanceToQueryM ≤ coverageRadiusM →
        property row.adapterKey row.eventType) ↔
      (∀ row ∈ queryNearbyLatestCoverageRows geography tables point now,
        property row.adapterKey row.eventType) ∧
      (available.supplement = true →
        ∀ row ∈ queryNearbyEvidenceCoverageRows geography tables point now,
          property row.adapterKey row.eventType) := by
  have hstations : available.stations = true := by
    have hread : (loadStations geography tables available point now).isSome = true := by
      rw [h]
      rfl
    exact (isSome_loadStations.mp hread).1
  simp only [loadStations, hstations, if_true, queryNearbyRealtimeCoverageRows] at h
  cases hsupplement : available.supplement with
  | false =>
      rw [hsupplement] at h
      simp only [Bool.false_eq_true, if_false] at h
      split at h
      · have hrows := Option.some.inj h
        rw [← hrows]
        simp only [Bool.false_eq_true, false_implies, and_true]
        constructor
        · intro hall row hrow
          exact hall row hrow (latest_within hrow)
        · intro hall row hrow _
          exact hall row hrow
      · exact absurd h (by simp)
  | true =>
      rw [hsupplement] at h
      have hrows := Option.some.inj h
      rw [← hrows]
      simp only [true_implies]
      have hwithin : ∀ row ∈ mergeNearbyCoverageRows
          (queryNearbyLatestCoverageRows geography tables point now)
          (queryNearbyEvidenceCoverageRows geography tables point now),
            row.distanceToQueryM ≤ coverageRadiusM := by
        intro row hrow
        rcases mem_mergeNearbyCoverageRows hrow with hlatest | hevidence
        · exact latest_within hlatest
        · exact supplement_within hevidence
      constructor
      · intro hall
        have hread : ∀ row, row ∈ queryNearbyLatestCoverageRows geography tables point now ∨
            row ∈ queryNearbyEvidenceCoverageRows geography tables point now →
              property row.adapterKey row.eventType := by
          intro row hrow
          obtain ⟨kept, hkept, hadapter, hevent⟩ := exists_mergeNearbyCoverageRows hrow
          rw [← hadapter, ← hevent]
          exact hall kept hkept (hwithin kept hkept)
        exact ⟨fun row hrow => hread row (Or.inl hrow), fun row hrow => hread row (Or.inr hrow)⟩
      · intro hall row hrow _
        rcases mem_mergeNearbyCoverageRows hrow with hlatest | hevidence
        · exact hall.1 row hlatest
        · exact hall.2 row hevidence

theorem forall_latest_rows (property : String → String → Prop) :
    (∀ row ∈ queryNearbyLatestCoverageRows geography tables point now,
        property row.adapterKey row.eventType) ↔
      ∀ reading ∈ tables.latest, isEnabledSource tables reading.adapterKey = true →
        geography.isWithin reading.geom point coverageRadiusM = true →
          property reading.adapterKey reading.eventType := by
  constructor
  · intro h reading hreading henabled hnear
    have hrow : latestCoverageRead geography tables point now reading ∈
        queryNearbyLatestCoverageRows geography tables point now :=
      List.mem_map_of_mem (List.mem_filter.mpr
        ⟨hreading, Bool.and_eq_true_iff.mpr ⟨henabled, hnear⟩⟩)
    exact h _ hrow
  · intro h row hrow
    obtain ⟨reading, hreading, heq⟩ := List.mem_map.mp hrow
    obtain ⟨hstored, hread⟩ := List.mem_filter.mp hreading
    obtain ⟨henabled, hnear⟩ := Bool.and_eq_true_iff.mp hread
    rw [← heq]
    exact h reading hstored henabled hnear

theorem forall_shown_rows (hread : available.jurisdiction = true)
    (hverified : resolutionStatus geography tables.toJurisdictionTables point = .verified)
    {rows : List CoverageRead}
    (hloaded : loadStations geography tables available point now = some rows) :
    (∀ row ∈ (((loadStations geography tables available point now).getD []).filter fun row =>
        row.adapterKey ∈ applicableKeys geography tables available point radiusM).map
          CoverageRead.toNearbyCoverageRow,
      row.distanceToQueryM ≤ coverageRadiusM →
        coverageSignalType row.eventType row.adapterKey ≠ signalType) ↔
    (∀ reading ∈ tables.latest, isEnabledSource tables reading.adapterKey = true →
      geography.isWithin reading.geom point coverageRadiusM = true →
        IsSearchedSource geography tables point radiusM reading.adapterKey →
          coverageSignalType reading.eventType reading.adapterKey ≠ signalType) ∧
    (available.supplement = true →
      ∀ row ∈ queryNearbyEvidenceCoverageRows geography tables point now,
        IsSearchedSource geography tables point radiusM row.adapterKey →
          coverageSignalType row.eventType row.adapterKey ≠ signalType) := by
  let property : String → String → Prop := fun adapterKey eventType =>
    IsSearchedSource geography tables point radiusM adapterKey →
      coverageSignalType eventType adapterKey ≠ signalType
  have hsplit := (loadStations_rows hloaded property).trans
    (and_congr_left' (forall_latest_rows property))
  refine Iff.trans ?_ hsplit
  rw [hloaded, Option.getD_some]
  constructor
  · intro hall row hrow hnear hsearched
    have hkey := (mem_applicableKeys hread hverified).mpr hsearched
    have hshown : row ∈ rows.filter fun row =>
        row.adapterKey ∈ applicableKeys geography tables available point radiusM :=
      List.mem_filter.mpr ⟨hrow, decide_eq_true hkey⟩
    exact hall row.toNearbyCoverageRow (List.mem_map_of_mem hshown) hnear
  · intro hall shown hshown hnear
    obtain ⟨row, hrow, heq⟩ := List.mem_map.mp hshown
    obtain ⟨hmem, hkey⟩ := List.mem_filter.mp hrow
    rw [← heq] at hnear ⊢
    exact hall row hmem hnear ((mem_applicableKeys hread hverified).mp (of_decide_eq_true hkey))

/-! ### Absence that is published -/

/-- A coverage publishes an absence exactly when the search proves it. -/
theorem publishesAbsence_load_iff :
    publishesAbsence (load geography tables available point radiusM now asOf).nearbyCoverage
        signalType = true ↔
      SearchedAbsence geography tables point radiusM available now asOf signalType := by
  simp only [load]
  rw [publishesAbsence_iff]
  simp only [coverageInput, Bool.not_eq_eq_eq_not, Bool.not_false]
  have hrowsRead : (loadStations geography tables available point now).isNone = false ↔
      available.stations = true ∧ (available.supplement = true ∨
        queryNearbyLatestCoverageRows geography tables point now ≠ []) := by
    rw [← isSome_loadStations, Option.isNone_eq_false_iff]
  rw [hrowsRead, complete_load_iff]
  constructor
  · intro h
    obtain ⟨hstations, hnear, hhealth, ⟨hread, hverified, hcounty, hreviewed⟩, hsources⟩ := h
    obtain ⟨rows, hloaded⟩ := Option.isSome_iff_exists.mp (isSome_loadStations.mpr hstations)
    obtain ⟨hlatest, hsupplement⟩ := (forall_shown_rows hread hverified hloaded).mp hnear
    obtain ⟨hsource, hoperational⟩ := (conclusiveSources_iff hread hverified hhealth).mp hsources
    exact ⟨hread, hhealth, hverified, hcounty, hreviewed, hstations, hlatest, hsupplement,
      hsource, hoperational⟩
  · intro h
    obtain ⟨rows, hloaded⟩ :=
      Option.isSome_iff_exists.mp (isSome_loadStations.mpr h.stationsRead)
    exact ⟨h.stationsRead,
      (forall_shown_rows h.jurisdictionRead h.verified hloaded).mpr ⟨h.stations, h.supplement⟩,
      h.healthRead, ⟨h.jurisdictionRead, h.verified, h.county, h.contracts⟩,
      (conclusiveSources_iff h.jurisdictionRead h.verified h.healthRead).mpr
        ⟨h.source, h.sources⟩⟩

/-- A proven absence is one that the search proves and the rest agrees with. -/
theorem SearchedAbsence.proven_iff
    (h : SearchedAbsence geography tables point radiusM available now asOf signalType) :
    AbsenceProven geography tables point asOf signalType ↔
      UnsearchedAgrees geography tables point radiusM asOf signalType := by
  constructor
  · intro hproven
    constructor
    · intro reading hreading henabled htype _
      exact hproven.stations reading hreading henabled htype
    · intro code hcode _
      exact hproven.contracts code hcode
    · intro code hcode adapterKey hrequired _
      exact hproven.sources code hcode adapterKey hrequired
  · intro hrest
    constructor
    · intro reading hreading henabled htype
      by_cases hsearched : IsSearchedSource geography tables point radiusM reading.adapterKey
      · rw [Bool.eq_false_iff]
        intro hnear
        exact h.stations reading hreading henabled hnear hsearched htype
      · exact hrest.stations reading hreading henabled htype hsearched
    · intro code hcode
      by_cases hnear : IsCountyWithin geography tables point radiusM code
      · exact h.contracts code hnear
      · exact hrest.contracts code hcode hnear
    · intro code hcode adapterKey hrequired
      by_cases hchecked : IsCheckedSource geography tables point radiusM signalType adapterKey
      · exact h.sources adapterKey hchecked
      · exact hrest.sources code hcode adapterKey hrequired hchecked

/-- Every absence that a loaded coverage publishes is proven exactly when what
each proving search leaves out agrees with it. -/
theorem published_absence_is_proven_iff (geography : Geography Geometry Point)
    (tables : RealtimeTables Geometry) (available : ReadAvailability) (point : Point)
    (radiusM : ℕ) (now asOf : ℤ) :
    (∀ signalType,
      publishesAbsence (load geography tables available point radiusM now asOf).nearbyCoverage
          signalType = true →
        AbsenceProven geography tables point asOf signalType) ↔
      ∀ signalType,
        SearchedAbsence geography tables point radiusM available now asOf signalType →
          UnsearchedAgrees geography tables point radiusM asOf signalType := by
  constructor
  · intro h signalType hsearched
    exact hsearched.proven_iff.mp (h signalType (publishesAbsence_load_iff.mpr hsearched))
  · intro h signalType hpublished
    have hsearched := publishesAbsence_load_iff.mp hpublished
    exact hsearched.proven_iff.mpr (h signalType hsearched)

/-! ### A station across the border -/

/-- Counties and stations along a line, in metres. -/
def stripGeography : Geography (ℚ × ℚ) ℚ where
  distance strip position := max 0 (max (strip.1 - position) (position - strip.2))
  covers strip position := strip.1 ≤ position ∧ position ≤ strip.2
  isEmpty strip := strip.2 < strip.1
  isValid _ := true
  geometrySha256 strip := toString strip.1 ++ " " ++ toString strip.2
  boundaryManifestSha256 manifest := String.join (manifest.map fun entry => entry.1 ++ entry.2)
  mappingManifestSha256 mappings := String.join (mappings.map SourceMapping.adapterKey)

/-- The rows of migration 0035. -/
def seededJurisdictions : List Jurisdiction :=
  [⟨"63000000", "臺北市"⟩, ⟨"65000000", "新北市"⟩, ⟨"68000000", "桃園市"⟩, ⟨"66000000", "臺中市"⟩,
    ⟨"67000000", "臺南市"⟩, ⟨"64000000", "高雄市"⟩, ⟨"10017000", "基隆市"⟩, ⟨"10018000", "新竹市"⟩,
    ⟨"10020000", "嘉義市"⟩, ⟨"10004000", "新竹縣"⟩, ⟨"10005000", "苗栗縣"⟩, ⟨"10007000", "彰化縣"⟩,
    ⟨"10008000", "南投縣"⟩, ⟨"10009000", "雲林縣"⟩, ⟨"10010000", "嘉義縣"⟩, ⟨"10013000", "屏東縣"⟩,
    ⟨"10002000", "宜蘭縣"⟩, ⟨"10015000", "花蓮縣"⟩, ⟨"10014000", "臺東縣"⟩, ⟨"10016000", "澎湖縣"⟩,
    ⟨"09020000", "金門縣"⟩, ⟨"09007000", "連江縣"⟩]

/-- The flood depth rows of migration 0040. -/
def seededMappings : List SourceMapping :=
  [{ adapterKey := "local.tainan.flood_sensor"
     signalType := .floodDepth
     coverageScope := .localScope
     jurisdictionCode := "67000000"
     mappingRevision := "2026-08-24-v1-baseline" },
    { adapterKey := "official.wra_iow.flood_depth"
      signalType := .floodDepth
      coverageScope := .national
      jurisdictionCode := "TW"
      mappingRevision := "2026-08-24-v1-baseline" }]

def stripBoundaries : List (JurisdictionBoundary (ℚ × ℚ)) :=
  seededJurisdictions.zipIdx.map fun entry =>
    let strip : ℚ × ℚ := (30000 * entry.2, 30000 * (entry.2 + 1))
    { snapshotId := 1
      jurisdictionCode := entry.1.jurisdictionCode
      geom := strip
      geomSha256 := stripGeography.geometrySha256 strip }

def reviewedContract (jurisdictionCode : String) : SignalContract :=
  let mappings := seededMappings.filter fun mapping => mapping.appliesTo jurisdictionCode
  { jurisdictionCode := jurisdictionCode
    signalType := .floodDepth
    catalogStatus := .reviewedComplete
    mappingRevision := "2026-08-24-v1-baseline"
    approvedMappingCount := some mappings.length
    approvedMappingManifestSha256 := some (stripGeography.mappingManifestSha256 mappings)
    reviewedAt := some 0
    reviewRef := some "0040_v1_official_baseline_source_mappings" }

/-- A source that ran and published a minute ago, with one station. -/
def operationalSource (adapterKey : String) : SourceHealthRow where
  isEnabled := true
  configuredHealthStatus := .healthy
  lastSuccessAt := some (-seconds 60)
  lastFailureAt := none
  latestRunStatus := some .succeeded
  latestRunAt := some (-seconds 60)
  latestObservedAt := some (-seconds 60)
  latestIngestedAt := some (-seconds 60)
  stationCount := some 1
  runtimeEnabled := some true
  runtimeEnabledCheckedAt := some (-seconds 60)
  runtimePipelineStatus := some .succeeded
  runtimePipelineCheckedAt := some (-seconds 60)
  runtimePipelineRunAt := some (-seconds 60)
  runtimePipelineComplete := true
  freshStationCount := some 1
  delayedStationCount := some 0
  activeStationCount := some 1
  adapterKey := adapterKey
  name := adapterKey
  inventoryComplete := true

def floodDepthReading (adapterKey : String) (position : ℚ) : StationReading (ℚ × ℚ) where
  adapterKey := adapterKey
  sourceId := adapterKey
  eventType := "flood_report"
  stationId := adapterKey
  observedAt := -seconds 60
  ingestedAt := -seconds 60
  geom := (position, position)

def stripManifest : String :=
  stripGeography.boundaryManifestSha256
    ((orderBy (fun boundary => [boundary.jurisdictionCode]) stripBoundaries).map fun boundary =>
      (boundary.jurisdictionCode, boundary.geomSha256))

/-- One flood sensor in 臺南市, a kilometre from 高雄市, and one far away. -/
def borderTables : RealtimeTables (ℚ × ℚ) where
  jurisdictions := seededJurisdictions
  snapshots :=
    [{ id := 1
       importedCount := 22
       manifestSha256 := some stripManifest
       approvedManifestSha256 := some stripManifest
       isComplete := true
       reviewedAt := some 0
       reviewRef := some "snapshot"
       isActive := true }]
  boundaries := stripBoundaries
  contracts := seededJurisdictions.map fun county => reviewedContract county.jurisdictionCode
  mappings := seededMappings
  boundaryNamed := by
    intro boundary hboundary
    obtain ⟨entry, hentry, heq⟩ := List.mem_map.mp hboundary
    exact ⟨entry.1, List.fst_mem_of_mem_zipIdx hentry, heq ▸ rfl⟩
  latest :=
    [floodDepthReading "local.tainan.flood_sensor" 149000,
      floodDepthReading "official.wra_iow.flood_depth" 20000]
  evidence := []
  sources :=
    [operationalSource "local.tainan.flood_sensor",
      operationalSource "official.wra_iow.flood_depth"]

/-- Four kilometres inside 高雄市, with a radius of 500 metres, no flood sensor
is said to be within 15 km; one stands five kilometres away. -/
theorem border_absence_is_published :
    publishesAbsence (load stripGeography borderTables {} 154000 500 0 0).nearbyCoverage
        .floodDepth = true ∧
      ¬ AbsenceProven stripGeography borderTables 154000 0 .floodDepth := by
  constructor
  · decide +kernel
  · intro h
    have hmem : floodDepthReading "local.tainan.flood_sensor" 149000 ∈ borderTables.latest :=
      List.mem_cons_self
    have hfar := h.stations _ hmem (by decide +kernel) (by decide +kernel)
    exact absurd hfar (by decide +kernel)

end FloodRisk.Assessment
