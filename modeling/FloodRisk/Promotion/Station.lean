import FloodRisk.Promotion.Frame

/-!
# Promotion of a station observation

A candidate that is no warning skips the CAP checks.  What it does to
`official_realtime_latest` is one guarded upsert after the duplicate handling,
and the row of the upsert does not depend on the area enrichment.
-/

namespace FloodRisk.Promotion

variable {env : Environment} {now : ℤ} {payload : EvidencePromotionPayload} {db : Database}

/-! ### Candidates outside the CAP lifecycle -/

theorem adapterEventIn_eventType {pairs : List (String × EventType)}
    (h : adapterEventIn pairs payload = true) :
    ∃ key, payload.adapterKey = some key ∧ (key, payload.eventType) ∈ pairs := by
  unfold adapterEventIn at h
  split at h
  · exact absurd h (by simp)
  · rename_i key hkey
    exact ⟨key, hkey, of_decide_eq_true h⟩

theorem isCurrentCapLifecycleCandidate_eq_false (h : payload.eventType ≠ .floodWarning) :
    isCurrentCapLifecycleCandidate payload = false := by
  cases hc : isCurrentCapLifecycleCandidate payload with
  | false => rfl
  | true =>
      simp only [isCurrentCapLifecycleCandidate, Bool.and_eq_true] at hc
      obtain ⟨key, -, hmem⟩ := adapterEventIn_eventType hc.2
      simp only [List.mem_cons, Prod.mk.injEq, List.not_mem_nil, or_false] at hmem
      rcases hmem with ⟨-, heq⟩ | ⟨-, heq⟩
      · exact absurd heq h
      · exact absurd heq h

section NotCap

variable (hcap : isCurrentCapLifecycleCandidate payload = false)
include hcap

theorem settleCapCandidate_of_not_cap : settleCapCandidate env now payload db = none := by
  simp [settleCapCandidate, hcap]

theorem blockingNoActiveGeneration_of_not_cap : blockingNoActiveGeneration payload db = none := by
  simp [blockingNoActiveGeneration, hcap]

theorem weightedPayload_of_not_cap :
    weightedPayload env payload db = withAdminAreaEnrichment env payload := by
  simp [weightedPayload, blockingNoActiveGeneration_of_not_cap hcap]

theorem promotesLatest_of_not_cap :
    promotesLatest payload db = shouldUpsertOfficialRealtimeLatest payload := by
  simp [promotesLatest, blockingNoActiveGeneration_of_not_cap hcap]

theorem candidateRejectionReason_of_not_cap :
    candidateRejectionReason env now payload = currentCandidateRejectionReason now payload := by
  simp [candidateRejectionReason, currentGeometryTopologyRejectionReason, hcap]

end NotCap

/-! ### The area enrichment of a station -/

theorem isCap_of_shouldUpsert (hcurrent : shouldUpsertOfficialRealtimeLatest payload = true)
    (hevent : payload.eventType = .floodWarning) :
    isCurrentCapLifecycleCandidate payload = true := by
  simp only [shouldUpsertOfficialRealtimeLatest, isReviewedCurrentCandidate, Bool.and_eq_true]
    at hcurrent
  obtain ⟨⟨hscope, hreviewed⟩, -⟩ := hcurrent
  obtain ⟨key, hkey, hmem⟩ := adapterEventIn_eventType hreviewed
  simp only [isCurrentCapLifecycleCandidate, Bool.and_eq_true]
  refine ⟨hscope, ?_⟩
  rw [hevent] at hmem
  simp only [adapterEventIn, hkey, hevent, decide_eq_true_eq]
  simpa [reviewedOfficialRealtimeAdapterEvents] using hmem

section Enrichment

variable (env) (hcap : isCurrentCapLifecycleCandidate payload = false)
include hcap

theorem enrichment_of_station :
    ∃ county town village,
      withAdminAreaEnrichment env payload =
        { payload with
          properties :=
            { payload.properties with county := county, town := town, village := village } } := by
  have same : payload =
      { payload with
        properties :=
          { payload.properties with
            county := payload.properties.county
            town := payload.properties.town
            village := payload.properties.village } } := rfl
  unfold withAdminAreaEnrichment
  split
  · exact ⟨_, _, _, same⟩
  · rename_i hcurrent
    have hwarning : payload.eventType ≠ .floodWarning := by
      intro hevent
      have htrue := isCap_of_shouldUpsert (by simpa using hcurrent) hevent
      rw [hcap] at htrue
      exact Bool.noConfusion htrue
    rw [if_neg hwarning]
    split
    · exact ⟨_, _, _, same⟩
    · split
      · exact ⟨_, _, _, same⟩
      · split
        · exact ⟨_, _, _, same⟩
        · split
          · exact ⟨_, _, _, same⟩
          · exact ⟨_, _, _, rfl⟩

theorem enrichment_isCap :
    isCurrentCapLifecycleCandidate (withAdminAreaEnrichment env payload) = false := by
  obtain ⟨county, town, village, heq⟩ := enrichment_of_station env hcap
  rw [heq]
  exact hcap

theorem enrichment_capMessageType :
    (withAdminAreaEnrichment env payload).properties.capMessageType =
      payload.properties.capMessageType := by
  obtain ⟨county, town, village, heq⟩ := enrichment_of_station env hcap
  rw [heq]

theorem enrichment_shouldUpsert :
    shouldUpsertOfficialRealtimeLatest (withAdminAreaEnrichment env payload) =
      shouldUpsertOfficialRealtimeLatest payload := by
  obtain ⟨county, town, village, heq⟩ := enrichment_of_station env hcap
  rw [heq]
  rfl

theorem enrichment_latestRow (evidenceId : ℕ) :
    latestRow (withAdminAreaEnrichment env payload) evidenceId = latestRow payload evidenceId := by
  obtain ⟨county, town, village, heq⟩ := enrichment_of_station env hcap
  rw [heq]
  rfl

theorem enrichment_resolvedDataSource :
    resolvedDataSource db (withAdminAreaEnrichment env payload) =
      resolvedDataSource db payload := by
  obtain ⟨county, town, village, heq⟩ := enrichment_of_station env hcap
  rw [heq]
  rfl

theorem enrichment_sourceRawRef (source : DataSource) (id : ℕ) :
    (evidenceRow (withAdminAreaEnrichment env payload) source id).sourceRawRef =
      (payload.sourceId, payload.rawRef) := by
  obtain ⟨county, town, village, heq⟩ := enrichment_of_station env hcap
  rw [heq]
  rfl

theorem enrichment_warningBoundary :
    warningBoundaryRejectionReason (withAdminAreaEnrichment env payload) = none := by
  simp [warningBoundaryRejectionReason, enrichment_isCap env hcap]

end Enrichment

/-! ### Rows of the upsert -/

/-- The columns of a proposed row that the invariants look at. -/
structure ProposedRow (payload : EvidencePromotionPayload) (row : OfficialRealtimeLatest) :
    Prop where
  stationId : officialRealtimeStationId payload = some row.stationId
  geom : (geojsonPointGeometry payload.properties).bind pointPosition = some row.geom
  adapterKey : payload.adapterKey = some row.adapterKey
  observedAt : payload.observedAt.map Datetime.timestamptz = some row.observedAt
  eventType : row.eventType = payload.eventType
  rainfallMm1h : row.rainfallMm1h = payload.properties.rainfallMm1h
  rainfallMm24h : row.rainfallMm24h = payload.properties.rainfallMm24h
  waterLevelM : row.waterLevelM = payload.properties.waterLevelM
  floodDepthCm : row.floodDepthCm = payload.properties.floodDepthCm
  warningLevelM : row.warningLevelM = payload.properties.warningLevelM
  generation : row.qualityFlags.ingestionGenerationStartedAt =
    payload.properties.ingestionGenerationStartedAt

theorem latestRow_eq_some {evidenceId : ℕ} {row : OfficialRealtimeLatest}
    (h : latestRow payload evidenceId = some row) : ProposedRow payload row := by
  simp only [latestRow, Option.bind_eq_bind, Option.bind_eq_some_iff] at h
  obtain ⟨stationId, hstation, geom, hgeom, adapterKey, hadapter, observedAt, hobserved, hrow⟩ := h
  cases hrow
  exact ⟨hstation, Option.bind_eq_some_iff.mpr hgeom, hadapter, hobserved, rfl, rfl, rfl, rfl,
    rfl, rfl, rfl⟩

theorem latestRow_evidenceId {evidenceId : ℕ} {row : OfficialRealtimeLatest}
    (h : latestRow payload evidenceId = some row) : row.evidenceId = evidenceId := by
  simp only [latestRow, Option.bind_eq_bind, Option.bind_eq_some_iff] at h
  obtain ⟨_, _, _, _, _, _, _, _, hrow⟩ := h
  cases hrow
  rfl

theorem latestRow_isSome {stationId : StationId} {geom : Position} {adapterKey : String}
    {observedAt : Datetime} (hstation : officialRealtimeStationId payload = some stationId)
    (hgeom : (geojsonPointGeometry payload.properties).bind pointPosition = some geom)
    (hadapter : payload.adapterKey = some adapterKey)
    (hobserved : payload.observedAt = some observedAt) (evidenceId : ℕ) :
    ∃ row, latestRow payload evidenceId = some row := by
  obtain ⟨point, hpoint, hposition⟩ := Option.bind_eq_some_iff.mp hgeom
  simp only [latestRow, hstation, hpoint, hposition, hadapter, hobserved, Option.map_some,
    Option.bind_eq_bind, Option.bind_some]
  exact ⟨_, rfl⟩

theorem upsert_latest_of_row {evidenceId : ℕ} {row : OfficialRealtimeLatest}
    (h : latestRow payload evidenceId = some row) :
    (upsertOfficialRealtimeLatest payload evidenceId db).officialRealtimeLatest =
      db.officialRealtimeLatest.upsertWhen observedAfter row := by
  simp only [upsertOfficialRealtimeLatest, h]

theorem upsert_eq_of_none {evidenceId : ℕ} (h : latestRow payload evidenceId = none) :
    upsertOfficialRealtimeLatest payload evidenceId db = db := by
  simp only [upsertOfficialRealtimeLatest, h]

/-! ### The duplicate handling -/

/-- The parameters of the duplicate query, as the candidate gives them. -/
structure ProbeOf (payload : EvidencePromotionPayload) (probe : DuplicateProbe) : Prop where
  eventType : payload.eventType = .floodReport
  peer : duplicatePeer payload = some (probe.peerAdapterKey, probe.localCandidate)
  observedAt : payload.observedAt.map Datetime.timestamptz = some probe.observedAt
  stationId : officialRealtimeStationId payload = some probe.stationId
  point : (geojsonPointGeometry payload.properties).bind pointPosition = some probe.point
  floodDepthCm : payload.properties.floodDepthCm = some probe.floodDepthCm

theorem duplicateProbe_eq_some {probe : DuplicateProbe} :
    duplicateProbe payload = some probe ↔ ProbeOf payload probe := by
  unfold duplicateProbe
  constructor
  · intro h
    split at h
    · exact absurd h (by simp)
    · rename_i hevent
      simp only [Option.bind_eq_bind, Option.bind_eq_some_iff] at h
      obtain ⟨observed, hobserved, peer, hpeer, stationId, hstation, point, ⟨geometry, hgeometry,
        hpoint⟩, depth, hdepth, hprobe⟩ := h
      cases hprobe
      refine ⟨not_not.mp hevent, hpeer, by rw [hobserved]; rfl, hstation, ?_, hdepth⟩
      exact Option.bind_eq_some_iff.mpr ⟨geometry, hgeometry, hpoint⟩
  · rintro ⟨hevent, hpeer, hobserved, hstation, hpoint, hdepth⟩
    obtain ⟨observed, hobserved, htime⟩ := Option.map_eq_some_iff.mp hobserved
    simp only [hevent, ne_eq, not_true_eq_false, if_false, hobserved, hpeer, hstation, hpoint,
      hdepth, Option.bind_eq_bind, Option.bind_some, htime]

theorem duplicatePeer_eq_some {peer : String × Bool} (h : duplicatePeer payload = some peer) :
    (payload.adapterKey = some tainanFloodSensor ∧ peer = (wraIowFloodDepth, true)) ∨
      (payload.adapterKey = some wraIowFloodDepth ∧ peer = (tainanFloodSensor, false)) := by
  unfold duplicatePeer at h
  split at h
  · rename_i hkey
    exact Or.inl ⟨hkey, (Option.some.inj h).symm⟩
  · split at h
    · rename_i hkey
      exact Or.inr ⟨hkey, (Option.some.inj h).symm⟩
    · exact absurd h (by simp)

theorem wraIow_ne_tainan : wraIowFloodDepth ≠ tainanFloodSensor := by decide

theorem ProbeOf.peer_ne {probe : DuplicateProbe} (h : ProbeOf payload probe) :
    payload.adapterKey ≠ some probe.peerAdapterKey := by
  rcases duplicatePeer_eq_some h.peer with ⟨hkey, hpeer⟩ | ⟨hkey, hpeer⟩
  · rw [hkey, (Prod.mk.inj hpeer).1]
    exact fun heq => wraIow_ne_tainan (Option.some.inj heq).symm
  · rw [hkey, (Prod.mk.inj hpeer).1]
    exact fun heq => wraIow_ne_tainan (Option.some.inj heq)

theorem firstByStationId_eq_none {rows : List OfficialRealtimeLatest} :
    firstByStationId rows = none ↔ rows = [] := by
  cases rows with
  | nil => simp [firstByStationId]
  | cons row rest =>
      simp only [firstByStationId, reduceCtorEq, iff_false]
      split
      · simp
      · split <;> simp

theorem mem_of_firstByStationId {rows : List OfficialRealtimeLatest}
    {row : OfficialRealtimeLatest} (h : firstByStationId rows = some row) : row ∈ rows := by
  induction rows with
  | nil => simp [firstByStationId] at h
  | cons first rest ih =>
      simp only [firstByStationId] at h
      split at h
      · cases h
        exact List.mem_cons_self
      · rename_i other hother
        split at h
        · cases h
          exact List.mem_cons_self
        · exact List.mem_cons_of_mem _ (ih (hother.trans h))

theorem mem_duplicateDecision_of_mem {row : OfficialRealtimeLatest}
    (hrow : row ∈ db.officialRealtimeLatest)
    (hkept : payload.adapterKey = some row.adapterKey) :
    row ∈ (duplicateDecision env payload db).2.officialRealtimeLatest := by
  unfold duplicateDecision handleExactCentralLocalDuplicate
  split
  · split
    · rename_i probe peer hprobe hpeer
      split
      · exact hrow
      · refine Table.mem_deleteWhere.mpr ⟨hrow, ?_⟩
        have hne := (duplicateProbe_eq_some.mp hprobe).peer_ne
        rw [hkept] at hne
        have hadapter : row.adapterKey ≠ probe.peerAdapterKey := fun heq => hne (by rw [heq])
        simp [isReplacedLocal, hadapter]
    · exact hrow
  · exact hrow

theorem mem_of_mem_duplicateDecision {row : OfficialRealtimeLatest}
    (h : row ∈ (duplicateDecision env payload db).2.officialRealtimeLatest) :
    row ∈ db.officialRealtimeLatest := by
  unfold duplicateDecision handleExactCentralLocalDuplicate at h
  split at h
  · split at h
    · split at h
      · exact h
      · exact (Table.mem_deleteWhere.mp h).1
    · exact h
  · exact h

theorem find_duplicateDecision {adapterKey : String}
    (hadapter : payload.adapterKey = some adapterKey) (eventType : EventType)
    (stationId : StationId) :
    (duplicateDecision env payload db).2.officialRealtimeLatest.find
        (adapterKey, eventType, stationId) =
      db.officialRealtimeLatest.find (adapterKey, eventType, stationId) := by
  refine Table.find_congr ?_
  intro row hkey
  have hrow : payload.adapterKey = some row.adapterKey := by
    rw [hadapter, show row.adapterKey = adapterKey from congrArg Prod.fst hkey]
  exact ⟨mem_of_mem_duplicateDecision, fun h => mem_duplicateDecision_of_mem h hrow⟩

theorem duplicateDecision_of_unpaired (hlocal : payload.adapterKey ≠ some tainanFloodSensor)
    (hcentral : payload.adapterKey ≠ some wraIowFloodDepth) :
    duplicateDecision env payload db = (none, db) := by
  have hprobe : duplicateProbe payload = none := by
    cases h : duplicateProbe payload with
    | none => rfl
    | some probe =>
        rcases duplicatePeer_eq_some (duplicateProbe_eq_some.mp h).peer with ⟨hkey, -⟩ | ⟨hkey, -⟩
        · exact absurd hkey hlocal
        · exact absurd hkey hcentral
  simp [duplicateDecision, handleExactCentralLocalDuplicate, hprobe]

/-! ### Candidates whose evidence row is new -/

/-- A station candidate that passes every check of its own and whose evidence
row can be inserted. -/
structure StationCandidate (env : Environment) (now : ℤ) (payload : EvidencePromotionPayload)
    (db : Database) : Prop where
  notWarning : payload.eventType ≠ .floodWarning
  reaches : ReachesPromotion env now payload db
  current : shouldUpsertOfficialRealtimeLatest payload = true
  lasting : payload.properties.capMessageType ≠ some .cancel
  located : ∃ row, ProposedRow payload row
  resolved : (resolvedDataSource db payload).isSome
  fresh : ∀ row ∈ db.evidence, row.sourceRawRef ≠ (payload.sourceId, payload.rawRef)

/-- A station candidate that is no duplicate of a stored central row. -/
structure InsertableStation (env : Environment) (now : ℤ) (payload : EvidencePromotionPayload)
    (db : Database) : Prop extends StationCandidate env now payload db where
  distinct : (duplicateDecision env payload db).1 ≠ some .duplicateCentral

/-! ### The latest table after a station candidate -/

theorem publishedDatabase_of_station (hcap : isCurrentCapLifecycleCandidate payload = false)
    (evidence : Table Evidence.sourceRawRef) (promoteLatest : Bool) :
    publishedDatabase env payload db evidence promoteLatest =
      if promoteLatest && payload.properties.capMessageType ≠ some .cancel &&
          shouldUpsertOfficialRealtimeLatest payload then
        upsertOfficialRealtimeLatest (withAdminAreaEnrichment env payload)
          (freshId (db.evidence.rows.map Evidence.id))
          { (duplicateDecision env payload db).2 with evidence := evidence }
      else { (duplicateDecision env payload db).2 with evidence := evidence } := by
  simp only [publishedDatabase, publishEvidence, weightedPayload_of_not_cap hcap, hcap,
    Bool.false_and, Bool.false_eq_true, if_false, enrichment_capMessageType env hcap,
    enrichment_shouldUpsert env hcap]

/-- A station candidate leaves the table as it is, retires its inactive station,
stops after the duplicate handling, or proposes its own row. -/
theorem writeEvidence_station_latest (env : Environment) (now : ℤ) (db : Database)
    (hcap : isCurrentCapLifecycleCandidate payload = false) :
    (writeEvidence env now payload db).2.officialRealtimeLatest = db.officialRealtimeLatest ∨
    (candidateRejectionReason env now payload = some .inactiveStation ∧
      (writeEvidence env now payload db).2.officialRealtimeLatest =
        (retireInactiveStationLatest payload db).officialRealtimeLatest) ∨
    (writeEvidence env now payload db).2.officialRealtimeLatest =
      (duplicateDecision env payload db).2.officialRealtimeLatest ∨
    (InsertableStation env now payload db ∧ ∃ row, ProposedRow payload row ∧
      (writeEvidence env now payload db).2.officialRealtimeLatest =
        (duplicateDecision env payload db).2.officialRealtimeLatest.upsertWhen
          observedAfter row) := by
  refine writeEvidence_cases (motive := fun result =>
    result.2.officialRealtimeLatest = db.officialRealtimeLatest ∨
    (candidateRejectionReason env now payload = some .inactiveStation ∧
      result.2.officialRealtimeLatest =
        (retireInactiveStationLatest payload db).officialRealtimeLatest) ∨
    result.2.officialRealtimeLatest =
      (duplicateDecision env payload db).2.officialRealtimeLatest ∨
    (InsertableStation env now payload db ∧ ∃ row, ProposedRow payload row ∧
      result.2.officialRealtimeLatest =
        (duplicateDecision env payload db).2.officialRealtimeLatest.upsertWhen
          observedAfter row)) ?_ ?_ ?_ ?_ ?_ ?_
  · exact fun _ => Or.inl rfl
  · intro reason hreason
    rw [terminallyRejectStaging_latest]
    split
    · rename_i hinactive
      simp only [Bool.and_eq_true, decide_eq_true_eq] at hinactive
      rw [hinactive.1] at hreason
      exact Or.inr (Or.inl ⟨hreason, rfl⟩)
    · exact Or.inl rfl
  · exact fun _ _ => Or.inl rfl
  · intro reason next _ _ _ hsettled
    rw [settleCapCandidate_of_not_cap hcap] at hsettled
    exact absurd hsettled (by simp)
  · intro reason _
    rw [terminallyRejectStaging_latest]
    exact Or.inr (Or.inr (Or.inl rfl))
  · intro source evidence promote reaches inserts
    rw [publishedDatabase_of_station hcap]
    split
    · rename_i hpromote
      simp only [Bool.and_eq_true, decide_eq_true_eq] at hpromote
      obtain ⟨⟨-, hlasting⟩, hcurrent⟩ := hpromote
      cases hrow : latestRow (withAdminAreaEnrichment env payload)
          (freshId (db.evidence.rows.map Evidence.id)) with
      | none =>
          rw [upsert_eq_of_none hrow]
          exact Or.inr (Or.inr (Or.inl rfl))
      | some row =>
          have hproposed : ProposedRow payload row := by
            rw [enrichment_latestRow env hcap] at hrow
            exact latestRow_eq_some hrow
          have hwarning : payload.eventType ≠ .floodWarning := by
            intro hevent
            have htrue := isCap_of_shouldUpsert hcurrent hevent
            rw [hcap] at htrue
            exact Bool.noConfusion htrue
          have hresolved := inserts.resolved
          have hinserted := inserts.inserted
          rw [weightedPayload_of_not_cap hcap] at hresolved hinserted
          rw [enrichment_resolvedDataSource env hcap] at hresolved
          have hfresh : ∀ stored ∈ db.evidence,
              stored.sourceRawRef ≠ (payload.sourceId, payload.rawRef) := by
            intro stored hstored hkey
            rw [← enrichment_sourceRawRef env hcap source
              (freshId (db.evidence.rows.map Evidence.id))] at hkey
            rw [Table.insertNew_eq_none_iff.mpr ⟨stored, hstored, hkey⟩] at hinserted
            exact absurd hinserted (by simp)
          have candidate : StationCandidate env now payload db :=
            ⟨hwarning, reaches, hcurrent, hlasting, ⟨row, hproposed⟩, by rw [hresolved]; rfl, hfresh⟩
          exact Or.inr (Or.inr (Or.inr
            ⟨⟨candidate, inserts.distinct⟩, row, hproposed, upsert_latest_of_row hrow⟩))
    · exact Or.inr (Or.inr (Or.inl rfl))

theorem mem_of_mem_retireInactive {row : OfficialRealtimeLatest}
    (h : row ∈ (retireInactiveStationLatest payload db).officialRealtimeLatest) :
    row ∈ db.officialRealtimeLatest := by
  unfold retireInactiveStationLatest at h
  split at h
  · exact h
  · split at h
    · exact h
    · exact (Table.mem_deleteWhere.mp h).1

theorem writeEvidence_adds_own_row (env : Environment) (now : ℤ) (db : Database)
    (hcap : isCurrentCapLifecycleCandidate payload = false) :
    (∀ row ∈ (writeEvidence env now payload db).2.officialRealtimeLatest,
      row ∈ db.officialRealtimeLatest) ∨
    (InsertableStation env now payload db ∧ ∃ row, ProposedRow payload row ∧
      (writeEvidence env now payload db).2.officialRealtimeLatest =
        (duplicateDecision env payload db).2.officialRealtimeLatest.upsertWhen
          observedAfter row) := by
  rcases writeEvidence_station_latest env now db hcap with h | ⟨-, h⟩ | h | h
  · exact Or.inl (fun row hrow => h ▸ hrow)
  · exact Or.inl (fun row hrow => mem_of_mem_retireInactive (h ▸ hrow))
  · exact Or.inl (fun row hrow => mem_of_mem_duplicateDecision (h ▸ hrow))
  · exact Or.inr h

theorem inactive_adapter
    (h : candidateRejectionReason env now payload = some .inactiveStation) :
    payload.adapterKey = some tainanFloodSensor := by
  by_contra hadapter
  have hmetadata : isMetadataInactiveStationCandidate payload = false := by
    simp [isMetadataInactiveStationCandidate, hadapter]
  have hrealtime : isRealtimeInactiveStationCandidate payload = false := by
    simp [isRealtimeInactiveStationCandidate, hadapter]
  have hexplicit : explicitGeometryRejectionReason payload ≠ some .inactiveStation := by
    unfold explicitGeometryRejectionReason
    simp only
    repeat' split
    all_goals simp
  have hcurrent : currentCandidateRejectionReason now payload ≠ some .inactiveStation := by
    unfold currentCandidateRejectionReason
    rw [hmetadata, hrealtime]
    simp only [Bool.false_eq_true, if_false]
    repeat' split
    all_goals first | exact hexplicit | simp
  have htopology : currentGeometryTopologyRejectionReason env payload ≠ some .inactiveStation := by
    unfold currentGeometryTopologyRejectionReason
    repeat' split
    all_goals simp
  rcases Option.or_eq_some_iff.mp h with hreason | ⟨-, hreason⟩
  · exact hcurrent hreason
  · exact htopology hreason

theorem writeEvidence_unpaired_latest (env : Environment) (now : ℤ) (db : Database)
    (hcap : isCurrentCapLifecycleCandidate payload = false)
    (hlocal : payload.adapterKey ≠ some tainanFloodSensor)
    (hcentral : payload.adapterKey ≠ some wraIowFloodDepth) :
    (writeEvidence env now payload db).2.officialRealtimeLatest = db.officialRealtimeLatest ∨
    ∃ row, ProposedRow payload row ∧
      (writeEvidence env now payload db).2.officialRealtimeLatest =
        db.officialRealtimeLatest.upsertWhen observedAfter row := by
  have hdup : duplicateDecision env payload db = (none, db) :=
    duplicateDecision_of_unpaired hlocal hcentral
  rcases writeEvidence_station_latest env now db hcap with h | ⟨hinactive, -⟩ | h | ⟨-, row, hrow, h⟩
  · exact Or.inl h
  · exact absurd (inactive_adapter hinactive) hlocal
  · rw [hdup] at h
    exact Or.inl h
  · rw [hdup] at h
    exact Or.inr ⟨row, hrow, h⟩

/-! ### The decision of a candidate whose evidence row is new -/

theorem ProposedRow.key_eq {first second : OfficialRealtimeLatest}
    (h : ProposedRow payload first) (k : ProposedRow payload second) : first.key = second.key := by
  have hadapter := Option.some.inj (h.adapterKey.symm.trans k.adapterKey)
  have hstation := Option.some.inj (h.stationId.symm.trans k.stationId)
  simp only [OfficialRealtimeLatest.key, hadapter, hstation, h.eventType, k.eventType]

theorem ProposedRow.observedAt_eq {first second : OfficialRealtimeLatest}
    (h : ProposedRow payload first) (k : ProposedRow payload second) :
    first.observedAt = second.observedAt :=
  Option.some.inj (h.observedAt.symm.trans k.observedAt)

theorem ProposedRow.exists_latestRow {row : OfficialRealtimeLatest} (h : ProposedRow payload row)
    (evidenceId : ℕ) : ∃ proposed, latestRow payload evidenceId = some proposed := by
  obtain ⟨observed, hobserved, -⟩ := Option.map_eq_some_iff.mp h.observedAt
  exact latestRow_isSome h.stationId h.geom h.adapterKey hobserved evidenceId

theorem latestDecision_of_station {row : OfficialRealtimeLatest}
    (hevent : payload.eventType ≠ .floodWarning)
    (hcurrent : shouldUpsertOfficialRealtimeLatest payload = true)
    (h : ProposedRow payload row) :
    latestDecision env payload db =
      compareWithStored env payload row.stationId row.observedAt
        (db.officialRealtimeLatest.find row.key) := by
  obtain ⟨observed, hobserved, htime⟩ := Option.map_eq_some_iff.mp h.observedAt
  have hcap := isCurrentCapLifecycleCandidate_eq_false hevent
  simp only [latestDecision, promotesLatest_of_not_cap hcap, hcurrent, ne_eq, hevent,
    not_false_eq_true, decide_true, Bool.and_self, if_true, classifyLatestDecision, h.stationId,
    h.adapterKey, hobserved, htime, find_duplicateDecision h.adapterKey,
    OfficialRealtimeLatest.key, h.eventType]

namespace InsertableStation

variable (h : InsertableStation env now payload db)
include h

theorem isCap_eq_false : isCurrentCapLifecycleCandidate payload = false :=
  isCurrentCapLifecycleCandidate_eq_false h.notWarning

theorem insertsEvidence (hfresh : latestDecision env payload db ≠ .idempotent ∧
      latestDecision env payload db ≠ .conflict) :
    ∃ source evidence, InsertsEvidence env payload db source evidence
      (latestDecision env payload db ≠ .historicalOnly) := by
  have hcap := h.isCap_eq_false
  have hweighted : weightedPayload env payload db = withAdminAreaEnrichment env payload :=
    weightedPayload_of_not_cap hcap
  obtain ⟨source, hsource⟩ := Option.isSome_iff_exists.mp h.resolved
  have hkey : ∀ row ∈ db.evidence, row.sourceRawRef ≠
      (evidenceRow (withAdminAreaEnrichment env payload) source
        (freshId (db.evidence.rows.map Evidence.id))).sourceRawRef := by
    intro row hrow
    rw [enrichment_sourceRawRef env hcap]
    exact h.fresh row hrow
  obtain ⟨evidence, hevidence⟩ := Table.insertNew_isSome hkey
  refine ⟨source, evidence, h.distinct, hfresh, ?_, ?_, ?_, ?_⟩
  · rw [promotesLatest_of_not_cap hcap, h.current, Bool.true_and]
  · exact enrichment_warningBoundary env hcap
  · rw [hweighted, enrichment_resolvedDataSource env hcap]
    exact hsource
  · rw [hweighted]
    exact hevidence

theorem published {row : OfficialRealtimeLatest} (hrow : ProposedRow payload row)
    (newer : ∀ stored ∈ db.officialRealtimeLatest, stored.key = row.key →
      stored.observedAt < row.observedAt) :
    ∃ proposed, ProposedRow payload proposed ∧
      (writeEvidence env now payload db).1.isSome ∧
      (writeEvidence env now payload db).2.officialRealtimeLatest =
        (duplicateDecision env payload db).2.officialRealtimeLatest.upsertWhen
          observedAfter proposed := by
  have hdecision : latestDecision env payload db = .insert ∨
      latestDecision env payload db = .update := by
    rw [latestDecision_of_station h.notWarning h.current hrow]
    cases hfind : db.officialRealtimeLatest.find row.key with
    | none => exact Or.inl rfl
    | some stored =>
        obtain ⟨hstored, hkey⟩ := Table.find_eq_some_iff.mp hfind
        have hlt := newer stored hstored hkey
        refine Or.inr ?_
        simp only [compareWithStored]
        rw [if_neg (by omega), if_pos hlt]
  have hfresh : latestDecision env payload db ≠ .idempotent ∧
      latestDecision env payload db ≠ .conflict := by
    rcases hdecision with hd | hd <;> simp [hd]
  have hpromote : decide (latestDecision env payload db ≠ .historicalOnly) = true := by
    rcases hdecision with hd | hd <;> simp [hd]
  obtain ⟨source, evidence, inserts⟩ := h.insertsEvidence hfresh
  rw [hpromote] at inserts
  obtain ⟨proposed, hproposed⟩ :=
    hrow.exists_latestRow (freshId (db.evidence.rows.map Evidence.id))
  refine ⟨proposed, latestRow_eq_some hproposed, ?_, ?_⟩
  · rw [writeEvidence_eq_published h.reaches inserts]
    rfl
  · rw [writeEvidence_eq_published h.reaches inserts, publishedDatabase_of_station h.isCap_eq_false,
      if_pos (by simp [h.lasting, h.current])]
    refine upsert_latest_of_row ?_
    rw [enrichment_latestRow env h.isCap_eq_false]
    exact hproposed

theorem historical {row stored : OfficialRealtimeLatest} (hrow : ProposedRow payload row)
    (hfind : db.officialRealtimeLatest.find row.key = some stored)
    (older : row.observedAt < stored.observedAt) :
    (writeEvidence env now payload db).2.officialRealtimeLatest =
      (duplicateDecision env payload db).2.officialRealtimeLatest := by
  have hdecision : latestDecision env payload db = .historicalOnly := by
    rw [latestDecision_of_station h.notWarning h.current hrow, hfind]
    simp only [compareWithStored, if_pos older]
  obtain ⟨source, evidence, inserts⟩ := h.insertsEvidence (by simp [hdecision])
  rw [writeEvidence_eq_published h.reaches inserts, publishedDatabase_of_station h.isCap_eq_false]
  simp [hdecision]

end InsertableStation

end FloodRisk.Promotion
