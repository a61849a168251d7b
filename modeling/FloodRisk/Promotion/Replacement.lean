import FloodRisk.Promotion.Exclusion

/-!
# A local reading and the central reading that takes its place

`_handle_exact_central_local_duplicate` deletes the local row before the
transaction has decided about the central candidate.  The reading is replaced
when the central row of the candidate's station ends up with it, by the upsert
of this transaction or because it was stored before.
-/

namespace FloodRisk.Promotion
open Transition

variable {env : Environment} {now : ℤ} {payload : EvidencePromotionPayload} {db : Database}

/-! ### The property and its condition -/

/-- The candidate's own row with the reading of the candidate. -/
def carriesReading (payload : EvidencePromotionPayload) (row : OfficialRealtimeLatest) : Prop :=
  payload.adapterKey = some row.adapterKey ∧ row.eventType = payload.eventType ∧
    officialRealtimeStationId payload = some row.stationId ∧
    payload.observedAt.map Datetime.timestamptz = some row.observedAt ∧
    row.floodDepthCm = payload.properties.floodDepthCm

instance (payload : EvidencePromotionPayload) (row : OfficialRealtimeLatest) :
    Decidable (carriesReading payload row) := by
  unfold carriesReading
  infer_instance

/-- A write of a central candidate that takes a local row away leaves the
candidate's own row with its reading. -/
def localReadingReplaced (env : Environment) (db : Database)
    (call : ℤ × EvidencePromotionPayload) : Prop :=
  call.2.adapterKey = some wraIowFloodDepth →
    ∀ localRow ∈ db.officialRealtimeLatest.rows, localRow.adapterKey = tainanFloodSensor →
      localRow ∉ (writeStep env db call).officialRealtimeLatest.rows →
      ∃ row ∈ (writeStep env db call).officialRealtimeLatest.rows, carriesReading call.2 row

instance (env : Environment) (db : Database) (call : ℤ × EvidencePromotionPayload) :
    Decidable (localReadingReplaced env db call) := by
  unfold localReadingReplaced
  infer_instance

/-- The evidence row of the candidate can be inserted and published. -/
def evidenceInsertable (payload : EvidencePromotionPayload) (db : Database) : Prop :=
  payload.properties.capMessageType ≠ some .cancel ∧ (resolvedDataSource db payload).isSome ∧
    ∀ row ∈ db.evidence, row.sourceRawRef ≠ (payload.sourceId, payload.rawRef)

/-- The stored row of the candidate's station has the reading already, or it
is absent or older and the candidate can be inserted. -/
def acceptsReading (payload : EvidencePromotionPayload) (db : Database) : Prop :=
  ∀ stationId observedAt, officialRealtimeStationId payload = some stationId →
    payload.observedAt.map Datetime.timestamptz = some observedAt →
    match db.officialRealtimeLatest.find (wraIowFloodDepth, payload.eventType, stationId) with
    | none => evidenceInsertable payload db
    | some stored =>
        (stored.observedAt = observedAt ∧ stored.floodDepthCm = payload.properties.floodDepthCm) ∨
          (stored.observedAt < observedAt ∧ evidenceInsertable payload db)

/-- The candidate reaches the duplicate query, and a local row matches it. -/
structure MatchesLocal (env : Environment) (now : ℤ) (payload : EvidencePromotionPayload)
    (db : Database) : Prop where
  adapter : payload.adapterKey = some wraIowFloodDepth
  reaches : ReachesPromotion env now payload db
  current : shouldUpsertOfficialRealtimeLatest payload = true
  matched : exactDuplicates env payload db ≠ []

/-! ### What a write takes away -/

theorem latest_eq_of_not_reaches (hadapter : payload.adapterKey = some wraIowFloodDepth)
    (h : ¬ ReachesPromotion env now payload db) :
    (writeEvidence env now payload db).2.officialRealtimeLatest = db.officialRealtimeLatest := by
  have hcap := isCap_of_sensor (Or.inl hadapter)
  refine writeEvidence_cases (motive := fun result =>
    result.2.officialRealtimeLatest = db.officialRealtimeLatest) ?_ ?_ ?_ ?_ ?_ ?_
  · exact fun _ => rfl
  · intro reason hreason
    have hactive : reason ≠ .inactiveStation := by
      intro heq
      have hlocal := inactive_adapter (heq ▸ hreason)
      rw [hadapter] at hlocal
      exact wraIow_ne_tainan (Option.some.inj hlocal)
    rw [terminallyRejectStaging_latest]
    simp [hactive]
  · exact fun _ _ => rfl
  · intro reason next _ _ _ hsettled
    rw [settleCapCandidate_of_not_cap hcap] at hsettled
    exact absurd hsettled (by simp)
  · intro reason reaches
    exact absurd reaches h
  · intro source evidence promote reaches _
    exact absurd reaches h

/-- Past the checks, the rows after a central candidate are those the duplicate
handling keeps and a row of its own. -/
theorem mem_write_of_reaches (hadapter : payload.adapterKey = some wraIowFloodDepth)
    (reaches : ReachesPromotion env now payload db) {row : OfficialRealtimeLatest}
    (h : row ∈ (writeEvidence env now payload db).2.officialRealtimeLatest) :
    row ∈ (duplicateDecision env payload db).2.officialRealtimeLatest ∨
      ProposedRow payload row := by
  have hcap := isCap_of_sensor (Or.inl hadapter)
  rw [writeEvidence_of_reaches reaches] at h
  revert h
  refine promoteCandidate_cases (motive := fun result => row ∈ result.2.officialRealtimeLatest →
    row ∈ (duplicateDecision env payload db).2.officialRealtimeLatest ∨
      ProposedRow payload row) ?_ ?_
  · intro reason h
    rw [terminallyRejectStaging_latest] at h
    exact Or.inl h
  · intro source evidence promote _ h
    rw [publishedDatabase_of_station hcap] at h
    split at h
    · cases hrow : latestRow (withAdminAreaEnrichment env payload)
          (freshId (db.evidence.rows.map Evidence.id)) with
      | none =>
          rw [upsert_eq_of_none hrow] at h
          exact Or.inl h
      | some proposed =>
          rw [upsert_latest_of_row hrow] at h
          rw [enrichment_latestRow env hcap] at hrow
          rcases Table.mem_upsertWhen.mp h with ⟨hnew, -⟩ | ⟨hold, -⟩
          · rw [hnew]
            exact Or.inr (latestRow_eq_some hrow)
          · exact Or.inl hold
    · exact Or.inl h

theorem central_latest_cases (env : Environment) (now : ℤ) (db : Database)
    (hadapter : payload.adapterKey = some wraIowFloodDepth) :
    (writeEvidence env now payload db).2.officialRealtimeLatest = db.officialRealtimeLatest ∨
    (writeEvidence env now payload db).2.officialRealtimeLatest =
      (duplicateDecision env payload db).2.officialRealtimeLatest ∨
    (InsertableStation env now payload db ∧ ∃ row, ProposedRow payload row ∧
      (writeEvidence env now payload db).2.officialRealtimeLatest =
        (duplicateDecision env payload db).2.officialRealtimeLatest.upsertWhen
          observedAfter row) := by
  rcases writeEvidence_station_latest env now db (isCap_of_sensor (Or.inl hadapter)) with
    h | ⟨hinactive, -⟩ | h | h
  · exact Or.inl h
  · have hlocal := inactive_adapter hinactive
    rw [hadapter] at hlocal
    exact absurd (Option.some.inj hlocal) wraIow_ne_tainan
  · exact Or.inr (Or.inl h)
  · exact Or.inr (Or.inr h)

theorem mem_write_of_kept (hadapter : payload.adapterKey = some wraIowFloodDepth)
    {row : OfficialRealtimeLatest}
    (hkept : row ∈ (duplicateDecision env payload db).2.officialRealtimeLatest)
    (hstays : ∀ proposed, ProposedRow payload proposed → row.key = proposed.key →
      proposed.observedAt ≤ row.observedAt) :
    row ∈ (writeEvidence env now payload db).2.officialRealtimeLatest := by
  rcases central_latest_cases env now db hadapter with
    h | h | ⟨-, proposed, hproposed, h⟩
  · rw [h]
    exact mem_of_mem_duplicateDecision hkept
  · rw [h]
    exact hkept
  · rw [h]
    refine Table.mem_upsertWhen.mpr (Or.inr ⟨hkept, ?_⟩)
    rintro ⟨hkey, hafter⟩
    have hle := hstays proposed hproposed hkey
    have hlt : row.observedAt < proposed.observedAt := of_decide_eq_true hafter
    omega

theorem ProposedRow.not_tainan (hadapter : payload.adapterKey = some wraIowFloodDepth)
    {row : OfficialRealtimeLatest} (h : ProposedRow payload row) :
    row.adapterKey ≠ tainanFloodSensor := by
  have hcentral : row.adapterKey = wraIowFloodDepth :=
    Option.some.inj (h.adapterKey.symm.trans hadapter)
  rw [hcentral]
  exact wraIow_ne_tainan

theorem ProposedRow.carriesReading {row : OfficialRealtimeLatest} (h : ProposedRow payload row) :
    carriesReading payload row :=
  ⟨h.adapterKey, h.eventType, h.stationId, h.observedAt, h.floodDepthCm⟩

theorem matchesLocal_of_dropped (hadapter : payload.adapterKey = some wraIowFloodDepth)
    {localRow : OfficialRealtimeLatest} (hlocal : localRow ∈ db.officialRealtimeLatest)
    (htainan : localRow.adapterKey = tainanFloodSensor)
    (hdropped : localRow ∉ (writeEvidence env now payload db).2.officialRealtimeLatest) :
    MatchesLocal env now payload db := by
  have hdeleted : localRow ∉ (duplicateDecision env payload db).2.officialRealtimeLatest := by
    intro hkept
    refine hdropped (mem_write_of_kept hadapter hkept ?_)
    intro proposed hproposed hkey
    have hsame : localRow.adapterKey = proposed.adapterKey := congrArg Prod.fst hkey
    exact absurd (hsame.symm.trans htainan) (hproposed.not_tainan hadapter)
  have hreaches : ReachesPromotion env now payload db := by
    by_contra hstopped
    rw [latest_eq_of_not_reaches hadapter hstopped] at hdropped
    exact hdropped hlocal
  have hcurrent : shouldUpsertOfficialRealtimeLatest payload = true := by
    by_contra hfalse
    rw [duplicateDecision, promotesLatest_of_not_cap (isCap_of_sensor (Or.inl hadapter)),
      if_neg hfalse] at hdeleted
    exact hdeleted hlocal
  refine ⟨hadapter, hreaches, hcurrent, ?_⟩
  intro hnone
  have hfirst : firstByStationId (exactDuplicates env payload db) = none :=
    firstByStationId_eq_none.mpr hnone
  have hsame : duplicateDecision env payload db = (none, db) := by
    simp [duplicateDecision, handleExactCentralLocalDuplicate, hfirst]
  rw [hsame] at hdeleted
  exact hdeleted hlocal

namespace MatchesLocal

variable (h : MatchesLocal env now payload db)
include h

theorem promotes : promotesLatest payload db = true := by
  rw [promotesLatest_of_not_cap (isCap_of_sensor (Or.inl h.adapter))]
  exact h.current

theorem probe : ∃ probe, ProbeOf payload probe := by
  cases hprobe : duplicateProbe payload with
  | some probe => exact ⟨probe, duplicateProbe_eq_some.mp hprobe⟩
  | none =>
      have hnone : exactDuplicates env payload db = [] := by
        simp only [exactDuplicates, hprobe]
      exact absurd hnone h.matched

theorem dropped : ∃ localRow ∈ db.officialRealtimeLatest,
    localRow.adapterKey = tainanFloodSensor ∧
      localRow ∉ (writeEvidence env now payload db).2.officialRealtimeLatest := by
  obtain ⟨probe, hof⟩ := h.probe
  obtain ⟨first, hfirst⟩ := List.exists_mem_of_ne_nil _ h.matched
  obtain ⟨peer, hpeer⟩ := firstByStationId_isSome hfirst
  obtain ⟨hstored, hmatch⟩ := (mem_exactDuplicates (duplicateProbe_eq_some.mpr hof)).mp
    (mem_of_firstByStationId hpeer)
  simp only [isExactDuplicate, Bool.and_eq_true, decide_eq_true_eq] at hmatch
  have hpeerKey : probe.peerAdapterKey = tainanFloodSensor := by
    have hsame := hof.peer.symm.trans (duplicatePeer_central h.adapter)
    exact (Prod.mk.inj (Option.some.inj hsame)).1
  have htainan : peer.adapterKey = tainanFloodSensor := hmatch.1.1.1.1.trans hpeerKey
  refine ⟨peer, hstored, htainan, ?_⟩
  intro hmem
  rcases mem_write_of_reaches h.adapter h.reaches hmem with hkept | hproposed
  · exact ((mem_duplicateDecision_central h.adapter h.promotes hpeer).mp hkept).2 rfl
  · exact hproposed.not_tainan h.adapter htainan

theorem exists_proposedRow : payload.eventType = .floodReport ∧
    ∃ row, ProposedRow payload row := by
  obtain ⟨probe, hof⟩ := h.probe
  obtain ⟨observed, hobserved, -⟩ := Option.map_eq_some_iff.mp hof.observedAt
  obtain ⟨row, hrow⟩ := latestRow_isSome hof.stationId hof.point h.adapter hobserved 0
  exact ⟨hof.eventType, row, latestRow_eq_some hrow⟩

end MatchesLocal

/-! ### The condition is exact -/

theorem key_of_central {row : OfficialRealtimeLatest} (h : ProposedRow payload row)
    (hadapter : payload.adapterKey = some wraIowFloodDepth) :
    row.key = (wraIowFloodDepth, payload.eventType, row.stationId) := by
  have hcentral := Option.some.inj (h.adapterKey.symm.trans hadapter)
  simp only [OfficialRealtimeLatest.key, hcentral, h.eventType]

theorem StationCandidate.evidenceInsertable (h : StationCandidate env now payload db) :
    evidenceInsertable payload db :=
  ⟨h.lasting, h.resolved, h.fresh⟩

theorem MatchesLocal.publishes (h : MatchesLocal env now payload db)
    (hinsertable : evidenceInsertable payload db) {row : OfficialRealtimeLatest}
    (hrow : ProposedRow payload row)
    (hnewer : ∀ stored ∈ db.officialRealtimeLatest, stored.key = row.key →
      stored.observedAt < row.observedAt) : PublishesCentral env now payload db := by
  obtain ⟨hreport, -⟩ := h.exists_proposedRow
  obtain ⟨hlasting, hresolved, hfresh⟩ := hinsertable
  have hwarning : payload.eventType ≠ .floodWarning := by
    rw [hreport]
    exact EventType.noConfusion
  refine ⟨h.adapter, hreport,
    ⟨hwarning, h.reaches, h.current, hlasting, ⟨row, hrow⟩, hresolved, hfresh⟩, ?_⟩
  intro other hother stored hstored hkey
  rw [hother.observedAt_eq hrow]
  exact hnewer stored hstored (hkey.trans (hother.key_eq hrow))

theorem MatchesLocal.reading_of_accepts (h : MatchesLocal env now payload db)
    (haccepts : acceptsReading payload db) :
    ∃ row ∈ (writeEvidence env now payload db).2.officialRealtimeLatest,
      carriesReading payload row := by
  obtain ⟨-, row, hrow⟩ := h.exists_proposedRow
  have hkey := key_of_central hrow h.adapter
  have hstate := haccepts row.stationId row.observedAt hrow.stationId hrow.observedAt
  rw [← hkey] at hstate
  have published : evidenceInsertable payload db →
      (∀ stored ∈ db.officialRealtimeLatest, stored.key = row.key →
        stored.observedAt < row.observedAt) →
      ∃ row ∈ (writeEvidence env now payload db).2.officialRealtimeLatest,
        carriesReading payload row := by
    intro hinsertable hnewer
    obtain ⟨new, hnew, -, hmem⟩ := (h.publishes hinsertable hrow hnewer).row_mem
    exact ⟨new, hmem, hnew.carriesReading⟩
  cases hfind : db.officialRealtimeLatest.find row.key with
  | none =>
      rw [hfind] at hstate
      refine published hstate ?_
      intro stored hstored hsame
      exact absurd hsame (Table.find_eq_none_iff.mp hfind stored hstored)
  | some stored =>
      rw [hfind] at hstate
      obtain ⟨hstored, hsame⟩ := Table.find_eq_some_iff.mp hfind
      rcases hstate with ⟨htime, hdepth⟩ | ⟨holder, hinsertable⟩
      · -- the stored row keeps the reading, whatever becomes of the candidate
        obtain ⟨hadapter, hrest⟩ := Prod.mk.inj (hsame.trans hkey)
        obtain ⟨hevent, hstation⟩ := Prod.mk.inj hrest
        have hcentral : payload.adapterKey = some stored.adapterKey := by
          rw [h.adapter, hadapter]
        refine ⟨stored, mem_write_of_kept h.adapter
          (mem_duplicateDecision_of_mem hstored hcentral) ?_,
          hcentral, hevent, by rw [hstation]; exact hrow.stationId,
          by rw [htime]; exact hrow.observedAt, hdepth⟩
        intro proposed hproposed _
        rw [hproposed.observedAt_eq hrow]
        omega
      · refine published hinsertable ?_
        intro other hother hotherKey
        rw [Table.eq_of_key_eq hother hstored (hotherKey.trans hsame.symm)]
        exact holder

theorem MatchesLocal.accepts_of_reading (h : MatchesLocal env now payload db)
    {row : OfficialRealtimeLatest}
    (hmem : row ∈ (writeEvidence env now payload db).2.officialRealtimeLatest)
    (hcarries : carriesReading payload row) : acceptsReading payload db := by
  obtain ⟨hadapter, hevent, hstation, hobserved, hdepth⟩ := hcarries
  have hcentral : row.adapterKey = wraIowFloodDepth :=
    Option.some.inj (hadapter.symm.trans h.adapter)
  intro stationId observedAt hstationId hobservedAt
  have hsameStation : row.stationId = stationId :=
    Option.some.inj (hstation.symm.trans hstationId)
  have hsameTime : row.observedAt = observedAt :=
    Option.some.inj (hobserved.symm.trans hobservedAt)
  have hkey : row.key = (wraIowFloodDepth, payload.eventType, stationId) := by
    simp only [OfficialRealtimeLatest.key, hcentral, hevent, hsameStation]
  rw [← hkey]
  have stored : row ∈ db.officialRealtimeLatest →
      match db.officialRealtimeLatest.find row.key with
      | none => evidenceInsertable payload db
      | some stored =>
          (stored.observedAt = observedAt ∧
            stored.floodDepthCm = payload.properties.floodDepthCm) ∨
            (stored.observedAt < observedAt ∧ evidenceInsertable payload db) := by
    intro hold
    rw [Table.find_eq_some_iff.mpr ⟨hold, rfl⟩]
    exact Or.inl ⟨hsameTime, hdepth⟩
  rcases central_latest_cases env now db h.adapter with
    heq | heq | ⟨insertable, proposed, hproposed, heq⟩
  · exact stored (heq ▸ hmem)
  · exact stored (mem_of_mem_duplicateDecision (heq ▸ hmem))
  · rw [heq] at hmem
    rcases Table.mem_upsertWhen.mp hmem with ⟨hnew, hnewer⟩ | ⟨hold, -⟩
    · have hinsertable := insertable.toStationCandidate.evidenceInsertable
      cases hfind : db.officialRealtimeLatest.find row.key with
      | none => exact hinsertable
      | some other =>
          obtain ⟨hother, hotherKey⟩ := Table.find_eq_some_iff.mp hfind
          have hotherCentral : payload.adapterKey = some other.adapterKey := by
            rw [hadapter, show other.adapterKey = row.adapterKey from congrArg Prod.fst hotherKey]
          rcases hnewer other (mem_duplicateDecision_of_mem hother hotherCentral)
            (by rw [hotherKey, hnew]) with hsame | hafter
          · rw [hsame, ← hnew]
            exact Or.inl ⟨hsameTime, hdepth⟩
          · have hlt : other.observedAt < proposed.observedAt := of_decide_eq_true hafter
            rw [← hnew, hsameTime] at hlt
            exact Or.inr ⟨hlt, hinsertable⟩
    · exact stored (mem_of_mem_duplicateDecision hold)

/-- The condition on the state before the write. -/
def replacementAccepted (env : Environment) (db : Database)
    (call : ℤ × EvidencePromotionPayload) : Prop :=
  MatchesLocal env call.1 call.2 db → acceptsReading call.2 db

theorem localReadingReplaced_iff (env : Environment) (db : Database)
    (call : ℤ × EvidencePromotionPayload) :
    localReadingReplaced env db call ↔ replacementAccepted env db call := by
  constructor
  · intro replaced hmatch
    obtain ⟨localRow, hlocal, htainan, hdropped⟩ := hmatch.dropped
    obtain ⟨row, hrow, hcarries⟩ := replaced hmatch.adapter localRow hlocal htainan hdropped
    exact hmatch.accepts_of_reading hrow hcarries
  · intro accepted hadapter localRow hlocal htainan hdropped
    have hmatch := matchesLocal_of_dropped hadapter hlocal htainan hdropped
    exact hmatch.reading_of_accepts (accepted hmatch)

/-- A central candidate replaces the local reading it takes away exactly when
its own stored row accepts the reading; a run replaces every local reading
exactly when this holds at each of its writes. -/
theorem local_reading_replaced_iff_accepted (env : Environment) (db : Database)
    (calls : List (ℤ × EvidencePromotionPayload)) :
    Along (writeStep env) (localReadingReplaced env) db calls ↔
      Along (writeStep env) (replacementAccepted env) db calls := by
  apply along_congr (fun _ _ (_ : True) => trivial)
  · intro db call _
    exact localReadingReplaced_iff env db call
  · trivial

/-! ### A corrected central reading -/

/-- A central reading of 10 cm, a local one of 12 cm beside it, and the central
reading corrected to 12 cm, all observed at the same time. -/
def correctedCentral : Database :=
  let central := sensorItem wraIowFloodDepth "W1" (120 + 1 / 4000)
  writeBatch { adapterKey := wraIowFloodDepth, rawRef := "raw/wra_iow/2", accepted := [central] }
    (writeBatch
      { adapterKey := tainanFloodSensor, rawRef := "raw/tainan",
        accepted := [sensorItem tainanFloodSensor "T1" 120] }
      (writeBatch
        { adapterKey := wraIowFloodDepth, rawRef := "raw/wra_iow/1",
          accepted := [{ central with payload := { central.payload with floodDepthCm := some 10 } }] }
        (catalogued [wraIowFloodDepth, tainanFloodSensor])))

def correctedCalls (db : Database) : List (ℤ × EvidencePromotionPayload) :=
  (["raw/wra_iow/1", "raw/tainan", "raw/wra_iow/2"].flatMap fun rawRef =>
    fetchAcceptedStaging none none (some [rawRef]) db).map fun payload => (2000, payload)

/-- The conflicting correction deletes the local row and stores nothing. -/
theorem correction_drops_local_reading :
    ¬ ∀ env : Environment, ∀ db : Database, db.officialRealtimeLatest.rows = [] →
      db.evidence.rows = [] → ∀ calls : List (ℤ × EvidencePromotionPayload),
        Along (writeStep env) (localReadingReplaced env) db calls := by
  intro hall
  have replaced := hall sensorEnvironment correctedCentral rfl rfl (correctedCalls correctedCentral)
  have dropped : ¬ Along (writeStep sensorEnvironment) (localReadingReplaced sensorEnvironment)
      correctedCentral (correctedCalls correctedCentral) := by
    decide +kernel
  exact dropped replaced

end FloodRisk.Promotion
