import FloodRisk.Promotion.Write

/-!
# What one promotion transaction can do

`writeEvidence_cases` lists the ways in which a transaction ends; the frame
theorems of this file and every invariant of the later files are read off it.
-/

namespace FloodRisk.Promotion

variable {env : Environment} {now : ℤ} {payload : EvidencePromotionPayload} {db : Database}

/-! ### Tables that the statements leave alone -/

@[simp] theorem rejectStagingRows_latest (ids : List ℕ) (reason : RejectionReason)
    (db : Database) :
    (rejectStagingRows ids reason db).officialRealtimeLatest = db.officialRealtimeLatest := rfl

@[simp] theorem rejectStagingRows_evidence (ids : List ℕ) (reason : RejectionReason)
    (db : Database) : (rejectStagingRows ids reason db).evidence = db.evidence := rfl

@[simp] theorem rejectStagingRows_dataSources (ids : List ℕ) (reason : RejectionReason)
    (db : Database) : (rejectStagingRows ids reason db).dataSources = db.dataSources := rfl

@[simp] theorem rejectStagingRows_rawSnapshots (ids : List ℕ) (reason : RejectionReason)
    (db : Database) : (rejectStagingRows ids reason db).rawSnapshots = db.rawSnapshots := rfl

@[simp] theorem rejectStagingRows_jobs (ids : List ℕ) (reason : RejectionReason)
    (db : Database) : (rejectStagingRows ids reason db).ingestionJobs = db.ingestionJobs := rfl

theorem find_rejectStagingRows_of_not_mem {ids : List ℕ} {id : ℕ} (reason : RejectionReason)
    (db : Database) (h : id ∉ ids) :
    (rejectStagingRows ids reason db).stagingEvidence.find id = db.stagingEvidence.find id := by
  rw [rejectStagingRows, rejectRows, Table.find_update]
  cases hfind : db.stagingEvidence.find id with
  | none => rfl
  | some row =>
      have hid := (Table.find_eq_some_iff.mp hfind).2
      rw [Option.map_some, if_neg (by rw [hid]; exact h)]

theorem terminallyRejectStaging_eq (payload : EvidencePromotionPayload)
    (reason : RejectionReason) (authorized : Bool) (db : Database) :
    terminallyRejectStaging payload reason authorized db = db ∨
      ∃ id, validatedStagingId payload = some id ∧
        terminallyRejectStaging payload reason authorized db = rejectStagingRows [id] reason db := by
  unfold terminallyRejectStaging
  split
  · cases h : validatedStagingId payload with
    | none => exact Or.inl rfl
    | some id => exact Or.inr ⟨id, rfl, rfl⟩
  · exact Or.inl rfl

@[simp] theorem terminallyRejectStaging_latest (payload : EvidencePromotionPayload)
    (reason : RejectionReason) (authorized : Bool) (db : Database) :
    (terminallyRejectStaging payload reason authorized db).officialRealtimeLatest =
      db.officialRealtimeLatest := by
  rcases terminallyRejectStaging_eq payload reason authorized db with h | ⟨id, -, h⟩ <;> rw [h]
  rfl

@[simp] theorem terminallyRejectStaging_evidence (payload : EvidencePromotionPayload)
    (reason : RejectionReason) (authorized : Bool) (db : Database) :
    (terminallyRejectStaging payload reason authorized db).evidence = db.evidence := by
  rcases terminallyRejectStaging_eq payload reason authorized db with h | ⟨id, -, h⟩ <;> rw [h]
  rfl

/-! ### Tables outside the latest rows -/

/-- Two databases that differ in `official_realtime_latest` only. -/
structure SameOutsideLatest (db next : Database) : Prop where
  dataSources : next.dataSources = db.dataSources
  rawSnapshots : next.rawSnapshots = db.rawSnapshots
  stagingEvidence : next.stagingEvidence = db.stagingEvidence
  evidence : next.evidence = db.evidence
  ingestionJobs : next.ingestionJobs = db.ingestionJobs

namespace SameOutsideLatest

theorem refl (db : Database) : SameOutsideLatest db db := ⟨rfl, rfl, rfl, rfl, rfl⟩

theorem trans {first second third : Database} (h : SameOutsideLatest first second)
    (k : SameOutsideLatest second third) : SameOutsideLatest first third :=
  ⟨k.dataSources.trans h.dataSources, k.rawSnapshots.trans h.rawSnapshots,
    k.stagingEvidence.trans h.stagingEvidence, k.evidence.trans h.evidence,
    k.ingestionJobs.trans h.ingestionJobs⟩

theorem withLatest (db : Database) (latest : Table OfficialRealtimeLatest.key) :
    SameOutsideLatest db { db with officialRealtimeLatest := latest } :=
  ⟨rfl, rfl, rfl, rfl, rfl⟩

theorem upsert (payload : EvidencePromotionPayload) (evidenceId : ℕ) (db : Database) :
    SameOutsideLatest db (upsertOfficialRealtimeLatest payload evidenceId db) := by
  unfold upsertOfficialRealtimeLatest
  split
  · exact refl db
  · exact withLatest db _

theorem retireInactive (payload : EvidencePromotionPayload) (db : Database) :
    SameOutsideLatest db (retireInactiveStationLatest payload db) := by
  unfold retireInactiveStationLatest
  split
  · exact refl db
  · split
    · exact refl db
    · exact withLatest db _

theorem refreshMarker (payload : EvidencePromotionPayload) (db : Database) :
    SameOutsideLatest db (refreshNcdrLatestSnapshotMarker payload db) := by
  unfold refreshNcdrLatestSnapshotMarker
  split
  · split
    · exact withLatest db _
    · exact refl db
  · exact refl db

theorem retireReferences (payload : EvidencePromotionPayload) (db : Database) :
    SameOutsideLatest db (retireCapReferences payload db) := by
  unfold retireCapReferences
  split
  · exact refl db
  · exact withLatest db _

theorem duplicate (env : Environment) (payload : EvidencePromotionPayload) (db : Database) :
    SameOutsideLatest db (duplicateDecision env payload db).2 := by
  unfold duplicateDecision handleExactCentralLocalDuplicate
  split
  · split
    · split
      · exact refl db
      · exact withLatest db _
    · exact refl db
  · exact refl db

theorem settle {reason : RejectionReason} {settled : Database}
    (h : settleCapCandidate env now payload db = some (reason, settled)) :
    SameOutsideLatest db settled := by
  unfold settleCapCandidate at h
  split at h
  · exact absurd h (by simp)
  · split at h
    · cases h; exact refl db
    · split at h
      · exact absurd h (by simp)
      · split at h
        · simp only at h
          split at h
          · cases h; exact refl db
          · split at h
            · cases h; exact (upsert _ _ db).trans (refreshMarker _ _)
            · cases h; exact refl db
        · cases h; exact refl db

theorem publish (weighted : EvidencePromotionPayload) (cap blocked promote : Bool)
    (evidenceId : ℕ) (db : Database) :
    SameOutsideLatest db (publishEvidence weighted cap blocked promote evidenceId db) := by
  unfold publishEvidence
  simp only
  split <;> split
  · exact (retireReferences weighted db).trans (upsert _ _ _)
  · exact upsert _ _ _
  · exact retireReferences weighted db
  · exact refl db

end SameOutsideLatest

/-! ### The ways a transaction ends -/

/-- The premises under which a candidate reaches the promotion stage. -/
structure ReachesPromotion (env : Environment) (now : ℤ) (payload : EvidencePromotionPayload)
    (db : Database) : Prop where
  authorization : authorizeStagingCandidate db payload ≠ some false
  admissible : candidateRejectionReason env now payload = none
  unused : authorizeStagingCandidate db payload = some true →
    stagingEvidenceWasAlreadyUsed db payload = false
  unsettled : settleCapCandidate env now payload db = none

/-- The premises under which its evidence row is inserted: the row and the
flag `promote_latest` of the publication. -/
structure InsertsEvidence (env : Environment) (payload : EvidencePromotionPayload)
    (db : Database) (source : DataSource) (evidence : Table Evidence.sourceRawRef)
    (promoteLatest : Bool) : Prop where
  distinct : (duplicateDecision env payload db).1 ≠ some .duplicateCentral
  fresh : latestDecision env payload db ≠ .idempotent ∧
    latestDecision env payload db ≠ .conflict
  promote : promoteLatest =
    (promotesLatest payload db && latestDecision env payload db ≠ .historicalOnly)
  boundary : warningBoundaryRejectionReason (withAdminAreaEnrichment env payload) = none
  resolved : resolvedDataSource db (weightedPayload env payload db) = some source
  inserted : db.evidence.insertNew (evidenceRow (weightedPayload env payload db) source
    (freshId (db.evidence.rows.map Evidence.id))) = some evidence

/-- The database after the insert of an evidence row, with the row published. -/
def publishedDatabase (env : Environment) (payload : EvidencePromotionPayload) (db : Database)
    (evidence : Table Evidence.sourceRawRef) (promoteLatest : Bool) : Database :=
  publishEvidence (weightedPayload env payload db) (isCurrentCapLifecycleCandidate payload)
    (blockingNoActiveGeneration payload db).isSome promoteLatest
    (freshId (db.evidence.rows.map Evidence.id))
    { (duplicateDecision env payload db).2 with evidence := evidence }

theorem resolvedDataSource_congr {db next : Database} (h : next.dataSources = db.dataSources)
    (payload : EvidencePromotionPayload) :
    resolvedDataSource next payload = resolvedDataSource db payload := by
  simp only [resolvedDataSource, h]

/-! The insert consults tables that the duplicate handling leaves alone. -/

theorem insertEvidence_missing {weighted : EvidencePromotionPayload}
    (h : resolvedDataSource db weighted = none) :
    insertEvidence weighted (duplicateDecision env payload db).2 = .sourceCatalogMissing := by
  have same := SameOutsideLatest.duplicate env payload db
  simp only [insertEvidence, resolvedDataSource_congr same.dataSources, h]

theorem insertEvidence_stored {weighted : EvidencePromotionPayload} {source : DataSource}
    (h : resolvedDataSource db weighted = some source)
    (hrow : db.evidence.insertNew
      (evidenceRow weighted source (freshId (db.evidence.rows.map Evidence.id))) = none) :
    insertEvidence weighted (duplicateDecision env payload db).2 = .alreadyStored := by
  have same := SameOutsideLatest.duplicate env payload db
  simp only [insertEvidence, resolvedDataSource_congr same.dataSources, h, same.evidence, hrow]

theorem insertEvidence_inserted {weighted : EvidencePromotionPayload} {source : DataSource}
    {evidence : Table Evidence.sourceRawRef} (h : resolvedDataSource db weighted = some source)
    (hrow : db.evidence.insertNew
      (evidenceRow weighted source (freshId (db.evidence.rows.map Evidence.id))) = some evidence) :
    insertEvidence weighted (duplicateDecision env payload db).2 =
      .inserted (freshId (db.evidence.rows.map Evidence.id))
        { (duplicateDecision env payload db).2 with evidence := evidence } := by
  have same := SameOutsideLatest.duplicate env payload db
  simp only [insertEvidence, resolvedDataSource_congr same.dataSources, h, same.evidence, hrow]

theorem insertAndPublish_cases {authorized promoteLatest : Bool}
    {motive : Option ℕ × Database → Prop}
    (dropped : ∀ reason,
      motive (none, terminallyRejectStaging payload reason authorized
        (duplicateDecision env payload db).2))
    (inserted : ∀ source evidence,
      warningBoundaryRejectionReason (withAdminAreaEnrichment env payload) = none →
      resolvedDataSource db (weightedPayload env payload db) = some source →
      db.evidence.insertNew (evidenceRow (weightedPayload env payload db) source
        (freshId (db.evidence.rows.map Evidence.id))) = some evidence →
      motive (some (freshId (db.evidence.rows.map Evidence.id)),
        publishedDatabase env payload db evidence promoteLatest)) :
    motive (insertAndPublish env payload authorized promoteLatest db
      (duplicateDecision env payload db).2) := by
  unfold insertAndPublish
  cases hb : warningBoundaryRejectionReason (withAdminAreaEnrichment env payload) with
  | some reason => exact dropped reason
  | none =>
      simp only
      cases hs : resolvedDataSource db (weightedPayload env payload db) with
      | none =>
          rw [insertEvidence_missing hs]
          exact dropped _
      | some source =>
          cases he : db.evidence.insertNew (evidenceRow (weightedPayload env payload db) source
              (freshId (db.evidence.rows.map Evidence.id))) with
          | none =>
              rw [insertEvidence_stored hs he]
              exact dropped _
          | some evidence =>
              rw [insertEvidence_inserted hs he]
              exact inserted source evidence hb hs he

theorem promoteCandidate_cases {authorized : Bool} {motive : Option ℕ × Database → Prop}
    (dropped : ∀ reason,
      motive (none, terminallyRejectStaging payload reason authorized
        (duplicateDecision env payload db).2))
    (inserted : ∀ source evidence promoteLatest,
      InsertsEvidence env payload db source evidence promoteLatest →
      motive (some (freshId (db.evidence.rows.map Evidence.id)),
        publishedDatabase env payload db evidence promoteLatest)) :
    motive (promoteCandidate env payload authorized db) := by
  unfold promoteCandidate
  simp only
  split
  · exact dropped _
  · rename_i hdistinct
    cases hd : latestDecision env payload db with
    | idempotent => exact dropped _
    | conflict => exact dropped _
    | historicalOnly =>
        refine insertAndPublish_cases dropped ?_
        intro source evidence hb hs he
        exact inserted source evidence false
          ⟨hdistinct, by simp [hd], by simp [hd], hb, hs, he⟩
    | insert =>
        refine insertAndPublish_cases dropped ?_
        intro source evidence hb hs he
        exact inserted source evidence _ ⟨hdistinct, by simp [hd], by simp [hd], hb, hs, he⟩
    | update =>
        refine insertAndPublish_cases dropped ?_
        intro source evidence hb hs he
        exact inserted source evidence _ ⟨hdistinct, by simp [hd], by simp [hd], hb, hs, he⟩

/-- Every transaction is a rollback, a rejection of the candidate, a candidate
whose staging row was used before, a settled CAP message, a candidate dropped
after the duplicate handling, or an insert. -/
theorem writeEvidence_cases {motive : Option ℕ × Database → Prop}
    (rolledBack : authorizeStagingCandidate db payload = some false → motive (none, db))
    (rejected : ∀ reason, candidateRejectionReason env now payload = some reason →
      motive (none, terminallyRejectStaging payload reason
        (authorizeStagingCandidate db payload = some true)
        (if reason = .inactiveStation && authorizeStagingCandidate db payload = some true then
          retireInactiveStationLatest payload db else db)))
    (used : authorizeStagingCandidate db payload = some true →
      stagingEvidenceWasAlreadyUsed db payload = true → motive (none, db))
    (settled : ∀ reason next, authorizeStagingCandidate db payload ≠ some false →
      candidateRejectionReason env now payload = none →
      (authorizeStagingCandidate db payload = some true →
        stagingEvidenceWasAlreadyUsed db payload = false) →
      settleCapCandidate env now payload db = some (reason, next) →
      motive (none, terminallyRejectStaging payload reason
        (authorizeStagingCandidate db payload = some true) next))
    (dropped : ∀ reason, ReachesPromotion env now payload db →
      motive (none, terminallyRejectStaging payload reason
        (authorizeStagingCandidate db payload = some true) (duplicateDecision env payload db).2))
    (inserted : ∀ source evidence promoteLatest, ReachesPromotion env now payload db →
      InsertsEvidence env payload db source evidence promoteLatest →
      motive (some (freshId (db.evidence.rows.map Evidence.id)),
        publishedDatabase env payload db evidence promoteLatest)) :
    motive (writeEvidence env now payload db) := by
  unfold writeEvidence writeEvidenceTransaction
  simp only
  split
  · rename_i hauth
    exact rolledBack hauth
  · rename_i hauth
    cases hr : candidateRejectionReason env now payload with
    | some reason => exact rejected reason hr
    | none =>
        simp only [decideCandidate]
        split
        · rename_i hused
          simp only [Bool.and_eq_true, decide_eq_true_eq] at hused
          exact used hused.1 hused.2
        · rename_i hunused
          have hfresh : authorizeStagingCandidate db payload = some true →
              stagingEvidenceWasAlreadyUsed db payload = false := by
            intro htrue
            simpa [htrue] using hunused
          cases hs : settleCapCandidate env now payload db with
          | some outcome => exact settled outcome.1 outcome.2 hauth hr hfresh hs
          | none =>
              have reaches : ReachesPromotion env now payload db := ⟨hauth, hr, hfresh, hs⟩
              exact promoteCandidate_cases (fun reason => dropped reason reaches)
                (fun source evidence promote h => inserted source evidence promote reaches h)

theorem writeEvidence_of_reaches (reaches : ReachesPromotion env now payload db) :
    writeEvidence env now payload db =
      promoteCandidate env payload (authorizeStagingCandidate db payload = some true) db := by
  have hused : ¬ ((decide (authorizeStagingCandidate db payload = some true) &&
      stagingEvidenceWasAlreadyUsed db payload) = true) := by
    rw [Bool.and_eq_true, decide_eq_true_eq]
    rintro ⟨hauth, hused⟩
    rw [reaches.unused hauth] at hused
    exact Bool.noConfusion hused
  simp only [writeEvidence, writeEvidenceTransaction, if_neg reaches.authorization,
    reaches.admissible, decideCandidate, if_neg hused, reaches.unsettled]

/-- The premises of the insert determine the transaction. -/
theorem writeEvidence_eq_published {source : DataSource}
    {evidence : Table Evidence.sourceRawRef} {promoteLatest : Bool}
    (reaches : ReachesPromotion env now payload db)
    (inserts : InsertsEvidence env payload db source evidence promoteLatest) :
    writeEvidence env now payload db =
      (some (freshId (db.evidence.rows.map Evidence.id)),
        publishedDatabase env payload db evidence promoteLatest) := by
  have hinsert : ∀ flag authorized, insertAndPublish env payload authorized flag db
      (duplicateDecision env payload db).2 =
        (some (freshId (db.evidence.rows.map Evidence.id)),
          publishedDatabase env payload db evidence flag) := by
    intro flag authorized
    simp only [insertAndPublish, inserts.boundary,
      insertEvidence_inserted inserts.resolved inserts.inserted, publishedDatabase]
  rw [writeEvidence_of_reaches reaches]
  simp only [promoteCandidate, if_neg inserts.distinct]
  have hpromote := inserts.promote
  cases hd : latestDecision env payload db with
  | idempotent => exact absurd hd inserts.fresh.1
  | conflict => exact absurd hd inserts.fresh.2
  | historicalOnly =>
      simp only [hd, ne_eq, not_true_eq_false, decide_false, Bool.and_false] at hpromote
      rw [hpromote]
      exact hinsert false _
  | insert =>
      simp only [hd, ne_eq, reduceCtorEq, not_false_eq_true, decide_true, Bool.and_true] at hpromote
      rw [hpromote]
      exact hinsert _ _
  | update =>
      simp only [hd, ne_eq, reduceCtorEq, not_false_eq_true, decide_true, Bool.and_true] at hpromote
      rw [hpromote]
      exact hinsert _ _

/-! ### The weighted payload -/

/-- Members that neither the enrichment nor the historical marking changes. -/
structure SameCandidate (payload weighted : EvidencePromotionPayload) : Prop where
  dataSourceId : weighted.dataSourceId = payload.dataSourceId
  adapterKey : weighted.adapterKey = payload.adapterKey
  sourceId : weighted.sourceId = payload.sourceId
  sourceType : weighted.sourceType = payload.sourceType
  eventType : weighted.eventType = payload.eventType
  observedAt : weighted.observedAt = payload.observedAt
  rawRef : weighted.rawRef = payload.rawRef
  propertiesAdapterKey : weighted.properties.adapterKey = payload.properties.adapterKey
  stagingEvidenceId : weighted.properties.stagingEvidenceId = payload.properties.stagingEvidenceId
  generation : weighted.properties.ingestionGenerationStartedAt =
    payload.properties.ingestionGenerationStartedAt
  adminCode : weighted.properties.adminCode = payload.properties.adminCode
  capSender : weighted.properties.capSender = payload.properties.capSender
  capIdentifier : weighted.properties.capIdentifier = payload.properties.capIdentifier
  capSent : weighted.properties.capSent = payload.properties.capSent
  capStatus : weighted.properties.capStatus = payload.properties.capStatus
  capMessageType : weighted.properties.capMessageType = payload.properties.capMessageType
  capReferences : weighted.properties.capReferences = payload.properties.capReferences
  activeFrom : weighted.properties.activeFrom = payload.properties.activeFrom
  activeUntil : weighted.properties.activeUntil = payload.properties.activeUntil

theorem SameCandidate.refl (payload : EvidencePromotionPayload) : SameCandidate payload payload :=
  ⟨rfl, rfl, rfl, rfl, rfl, rfl, rfl, rfl, rfl, rfl, rfl, rfl, rfl, rfl, rfl, rfl, rfl, rfl, rfl⟩

theorem withReviewedNcdrWarningBoundary_same (env : Environment)
    (payload : EvidencePromotionPayload) :
    SameCandidate payload (withReviewedNcdrWarningBoundary env payload) ∧
      (withReviewedNcdrWarningBoundary env payload).properties.evidenceScope =
        payload.properties.evidenceScope := by
  unfold withReviewedNcdrWarningBoundary
  simp only
  split
  · split
    · split
      · exact ⟨SameCandidate.refl payload, rfl⟩
      · split
        · exact ⟨SameCandidate.refl payload, rfl⟩
        · refine ⟨?_, rfl⟩
          constructor <;> rfl
    · exact ⟨SameCandidate.refl payload, rfl⟩
  · exact ⟨SameCandidate.refl payload, rfl⟩

theorem withReviewedWarningBoundary_same (env : Environment)
    (payload : EvidencePromotionPayload) :
    SameCandidate payload (withReviewedWarningBoundary env payload) ∧
      (withReviewedWarningBoundary env payload).properties.evidenceScope =
        payload.properties.evidenceScope := by
  unfold withReviewedWarningBoundary
  split
  · exact ⟨SameCandidate.refl payload, rfl⟩
  · split
    · exact withReviewedNcdrWarningBoundary_same env payload
    · split
      · exact ⟨SameCandidate.refl payload, rfl⟩
      · split
        · split
          · exact ⟨SameCandidate.refl payload, rfl⟩
          · split
            · exact ⟨SameCandidate.refl payload, rfl⟩
            · refine ⟨?_, rfl⟩
              constructor <;> rfl
        · exact ⟨SameCandidate.refl payload, rfl⟩

theorem enrichment_same (env : Environment) (payload : EvidencePromotionPayload) :
    SameCandidate payload (withAdminAreaEnrichment env payload) ∧
      (withAdminAreaEnrichment env payload).properties.evidenceScope =
        payload.properties.evidenceScope := by
  unfold withAdminAreaEnrichment
  split
  · exact ⟨SameCandidate.refl payload, rfl⟩
  · split
    · exact withReviewedWarningBoundary_same env payload
    · split
      · exact ⟨SameCandidate.refl payload, rfl⟩
      · split
        · exact ⟨SameCandidate.refl payload, rfl⟩
        · split
          · exact ⟨SameCandidate.refl payload, rfl⟩
          · split
            · exact ⟨SameCandidate.refl payload, rfl⟩
            · refine ⟨?_, rfl⟩
              constructor <;> rfl

theorem weighted_same (env : Environment) (payload : EvidencePromotionPayload) (db : Database) :
    SameCandidate payload (weightedPayload env payload db) := by
  have same := (enrichment_same env payload).1
  unfold weightedPayload
  simp only
  split
  · exact ⟨same.dataSourceId, same.adapterKey, same.sourceId, same.sourceType, same.eventType,
      same.observedAt, same.rawRef, same.propertiesAdapterKey, same.stagingEvidenceId,
      same.generation, same.adminCode, same.capSender, same.capIdentifier, same.capSent,
      same.capStatus, same.capMessageType, same.capReferences, same.activeFrom,
      same.activeUntil⟩
  · exact same

theorem SameCandidate.resolvedDataSource_eq {weighted : EvidencePromotionPayload}
    (same : SameCandidate payload weighted) :
    resolvedDataSource db weighted = resolvedDataSource db payload := by
  simp only [resolvedDataSource, same.dataSourceId, same.adapterKey]

theorem SameCandidate.sourceRawRef_eq {weighted : EvidencePromotionPayload}
    (same : SameCandidate payload weighted) (source : DataSource) (id : ℕ) :
    (evidenceRow weighted source id).sourceRawRef = (payload.sourceId, payload.rawRef) := by
  simp only [evidenceRow, Evidence.sourceRawRef, same.sourceId, same.rawRef]

/-! ### Frames of the transaction -/

/-- What a transaction of the candidate leaves as it was. -/
structure WriteFrame (payload : EvidencePromotionPayload) (db next : Database) : Prop where
  dataSources : next.dataSources = db.dataSources
  rawSnapshots : next.rawSnapshots = db.rawSnapshots
  ingestionJobs : next.ingestionJobs = db.ingestionJobs
  stagingEvidence : ∀ id, validatedStagingId payload ≠ some id →
    next.stagingEvidence.find id = db.stagingEvidence.find id

theorem WriteFrame.of_sameOutsideLatest {next : Database} (h : SameOutsideLatest db next) :
    WriteFrame payload db next :=
  ⟨h.dataSources, h.rawSnapshots, h.ingestionJobs, fun id _ => by rw [h.stagingEvidence]⟩

theorem WriteFrame.reject {next : Database} (h : SameOutsideLatest db next)
    (reason : RejectionReason) (authorized : Bool) :
    WriteFrame payload db (terminallyRejectStaging payload reason authorized next) := by
  rcases terminallyRejectStaging_eq payload reason authorized next with heq | ⟨id, hid, heq⟩
  · rw [heq]
    exact of_sameOutsideLatest h
  · rw [heq]
    refine ⟨h.dataSources, h.rawSnapshots, h.ingestionJobs, ?_⟩
    intro other hother
    have hne : other ∉ [id] := by
      intro hmem
      exact hother (by rw [hid, List.mem_singleton.mp hmem])
    rw [find_rejectStagingRows_of_not_mem reason next hne, h.stagingEvidence]

theorem publishedDatabase_frame (env : Environment) (payload : EvidencePromotionPayload)
    (db : Database) (evidence : Table Evidence.sourceRawRef) (promoteLatest : Bool) :
    SameOutsideLatest { db with evidence := evidence }
      (publishedDatabase env payload db evidence promoteLatest) := by
  have same := SameOutsideLatest.duplicate env payload db
  have stored : SameOutsideLatest { db with evidence := evidence }
      { (duplicateDecision env payload db).2 with evidence := evidence } :=
    ⟨same.dataSources, same.rawSnapshots, same.stagingEvidence, rfl, same.ingestionJobs⟩
  exact stored.trans (SameOutsideLatest.publish _ _ _ _ _ _)

theorem writeEvidence_frame (env : Environment) (now : ℤ) (payload : EvidencePromotionPayload)
    (db : Database) : WriteFrame payload db (writeEvidence env now payload db).2 := by
  refine writeEvidence_cases (motive := fun result => WriteFrame payload db result.2)
    ?_ ?_ ?_ ?_ ?_ ?_
  · exact fun _ => WriteFrame.of_sameOutsideLatest (SameOutsideLatest.refl db)
  · intro reason _
    refine WriteFrame.reject ?_ reason _
    split
    · exact SameOutsideLatest.retireInactive payload db
    · exact SameOutsideLatest.refl db
  · exact fun _ _ => WriteFrame.of_sameOutsideLatest (SameOutsideLatest.refl db)
  · intro reason next _ _ _ hsettled
    exact WriteFrame.reject (SameOutsideLatest.settle hsettled) reason _
  · intro reason _
    exact WriteFrame.reject (SameOutsideLatest.duplicate env payload db) reason _
  · intro source evidence promote _ _
    have same := publishedDatabase_frame env payload db evidence promote
    exact ⟨same.dataSources, same.rawSnapshots, same.ingestionJobs,
      fun id _ => by rw [same.stagingEvidence]⟩

theorem writeEvidence_evidence (env : Environment) (now : ℤ)
    (payload : EvidencePromotionPayload) (db : Database) :
    (writeEvidence env now payload db).2.evidence = db.evidence ∨
      ∃ source evidence promoteLatest, ReachesPromotion env now payload db ∧
        InsertsEvidence env payload db source evidence promoteLatest ∧
        (writeEvidence env now payload db).2.evidence = evidence := by
  refine writeEvidence_cases (motive := fun result => result.2.evidence = db.evidence ∨
    ∃ source evidence promoteLatest, ReachesPromotion env now payload db ∧
      InsertsEvidence env payload db source evidence promoteLatest ∧
      result.2.evidence = evidence) ?_ ?_ ?_ ?_ ?_ ?_
  · exact fun _ => Or.inl rfl
  · intro reason _
    refine Or.inl ?_
    rw [terminallyRejectStaging_evidence]
    split
    · exact (SameOutsideLatest.retireInactive payload db).evidence
    · rfl
  · exact fun _ _ => Or.inl rfl
  · intro reason next _ _ _ hsettled
    refine Or.inl ?_
    rw [terminallyRejectStaging_evidence]
    exact (SameOutsideLatest.settle hsettled).evidence
  · intro reason _
    refine Or.inl ?_
    rw [terminallyRejectStaging_evidence]
    exact (SameOutsideLatest.duplicate env payload db).evidence
  · intro source evidence promote reaches inserts
    exact Or.inr ⟨source, evidence, promote, reaches, inserts,
      (publishedDatabase_frame env payload db evidence promote).evidence⟩

theorem mem_evidence_of_write {row : Evidence}
    (h : row ∈ (writeEvidence env now payload db).2.evidence) :
    row ∈ db.evidence ∨ (ReachesPromotion env now payload db ∧ ∃ source,
      resolvedDataSource db payload = some source ∧
      row = evidenceRow (weightedPayload env payload db) source
        (freshId (db.evidence.rows.map Evidence.id))) := by
  rcases writeEvidence_evidence env now payload db with heq |
    ⟨source, evidence, promote, reaches, inserts, heq⟩
  · exact Or.inl (heq ▸ h)
  · rw [heq] at h
    rcases (Table.mem_of_insertNew inserts.inserted).mp h with hold | hnew
    · exact Or.inl hold
    · have hsource := inserts.resolved
      rw [(weighted_same env payload db).resolvedDataSource_eq] at hsource
      exact Or.inr ⟨reaches, source, hsource, hnew⟩

theorem evidence_subset_write {row : Evidence} (h : row ∈ db.evidence) :
    row ∈ (writeEvidence env now payload db).2.evidence := by
  rcases writeEvidence_evidence env now payload db with heq |
    ⟨source, evidence, promote, -, inserts, heq⟩
  · rw [heq]
    exact h
  · rw [heq]
    exact (Table.mem_of_insertNew inserts.inserted).mpr (Or.inl h)

/-! ### The staging authorisation -/

theorem authorizeStagingCandidate_congr {next : Database}
    (hsources : next.dataSources = db.dataSources) (hraw : next.rawSnapshots = db.rawSnapshots)
    (hrow : ∀ id, validatedStagingId payload = some id →
      next.stagingEvidence.find id = db.stagingEvidence.find id) :
    authorizeStagingCandidate next payload = authorizeStagingCandidate db payload := by
  unfold authorizeStagingCandidate
  cases hid : payload.properties.stagingEvidenceId with
  | absent => rfl
  | invalid => rfl
  | uuid id canonical =>
      have hfind := hrow id (by simp [validatedStagingId, hid])
      simp only [hfind, hraw]
      cases db.stagingEvidence.find id with
      | none => rfl
      | some row =>
          simp only
          cases db.rawSnapshots.rows.find? (fun raw => some raw.id = row.rawSnapshotId) with
          | none => rfl
          | some raw => simp only [stagingRowAuthorizes, hsources]

theorem authorized_staging
    (h : authorizeStagingCandidate db payload = some true) :
    ∃ id canonical row raw, payload.properties.stagingEvidenceId = .uuid id canonical ∧
      db.stagingEvidence.find id = some row ∧
      db.rawSnapshots.rows.find? (fun raw => some raw.id = row.rawSnapshotId) = some raw ∧
      stagingRowAuthorizes db payload row raw = true := by
  unfold authorizeStagingCandidate at h
  cases hid : payload.properties.stagingEvidenceId with
  | absent => simp [hid] at h
  | invalid => simp [hid] at h
  | uuid id canonical =>
      simp only [hid] at h
      cases hrow : db.stagingEvidence.find id with
      | none => simp [hrow] at h
      | some row =>
          simp only [hrow] at h
          cases hraw : db.rawSnapshots.rows.find? (fun raw => some raw.id = row.rawSnapshotId) with
          | none => simp [hraw] at h
          | some raw =>
              simp only [hraw, Option.some.injEq] at h
              exact ⟨id, canonical, row, raw, rfl, hrow, hraw, h⟩

theorem authorized_unique {other : EvidencePromotionPayload}
    (h : authorizeStagingCandidate db payload = some true)
    (k : authorizeStagingCandidate db other = some true)
    (hid : validatedStagingId payload = validatedStagingId other) :
    (payload.sourceId, payload.rawRef) = (other.sourceId, other.rawRef) := by
  obtain ⟨id, canonical, row, raw, hpid, hrow, hraw, hmatch⟩ := authorized_staging h
  obtain ⟨id', canonical', row', raw', hoid, hrow', hraw', hmatch'⟩ := authorized_staging k
  simp only [validatedStagingId, hpid, hoid, Option.some.injEq] at hid
  subst hid
  have heqRow : row = row' := Option.some.inj (hrow.symm.trans hrow')
  subst heqRow
  have heqRaw : raw = raw' := Option.some.inj (hraw.symm.trans hraw')
  subst heqRaw
  simp only [stagingRowAuthorizes, Bool.and_eq_true, decide_eq_true_eq] at hmatch hmatch'
  have hsource : some payload.sourceId = some other.sourceId :=
    hmatch.1.1.1.1.1.1.1.1.1.1.1.1.2.symm.trans hmatch'.1.1.1.1.1.1.1.1.1.1.1.1.2
  have href : payload.rawRef = other.rawRef := hmatch.1.1.2.symm.trans hmatch'.1.1.2
  rw [Option.some.inj hsource, href]

end FloodRisk.Promotion
