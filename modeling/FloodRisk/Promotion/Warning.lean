import FloodRisk.Promotion.Station

/-!
# Promotion of a warning

A CAP candidate has no duplicate handling and no decision against the stored
row.  It changes the latest table in two branches only: the replay of a stored
NCDR message upserts its row and refreshes the snapshot marker, and a new
message retires its references before it is upserted.
-/

namespace FloodRisk.Promotion

variable {env : Environment} {now : ℤ} {payload : EvidencePromotionPayload} {db : Database}

/-! ### Candidates of the CAP lifecycle -/

theorem cap_eventType (hcap : isCurrentCapLifecycleCandidate payload = true) :
    payload.eventType = .floodWarning := by
  by_contra hne
  rw [isCurrentCapLifecycleCandidate_eq_false hne] at hcap
  exact Bool.noConfusion hcap

theorem cap_adapterKey (hcap : isCurrentCapLifecycleCandidate payload = true) :
    ∃ key ∈ reviewedWarningAdapterKeys, payload.adapterKey = some key := by
  simp only [isCurrentCapLifecycleCandidate, Bool.and_eq_true] at hcap
  obtain ⟨key, hkey, hmem⟩ := adapterEventIn_eventType hcap.2
  simp only [List.mem_cons, Prod.mk.injEq, List.not_mem_nil, or_false] at hmem
  rcases hmem with ⟨heq, -⟩ | ⟨heq, -⟩
  · exact ⟨key, by simp [reviewedWarningAdapterKeys, heq], hkey⟩
  · exact ⟨key, by simp [reviewedWarningAdapterKeys, heq], hkey⟩

theorem cap_isReviewed (hcap : isCurrentCapLifecycleCandidate payload = true) :
    isReviewedCurrentCandidate payload = true := by
  have hevent := cap_eventType hcap
  obtain ⟨key, hmem, hkey⟩ := cap_adapterKey hcap
  simp only [isCurrentCapLifecycleCandidate, Bool.and_eq_true] at hcap
  simp only [isReviewedCurrentCandidate, Bool.and_eq_true]
  refine ⟨hcap.1, ?_⟩
  simp only [reviewedWarningAdapterKeys, List.mem_cons, List.not_mem_nil, or_false] at hmem
  rcases hmem with heq | heq
  · simp [adapterEventIn, hkey, hevent, heq, reviewedOfficialRealtimeAdapterEvents]
  · simp [adapterEventIn, hkey, hevent, heq, reviewedOfficialRealtimeAdapterEvents]

theorem cap_shouldUpsert (hcap : isCurrentCapLifecycleCandidate payload = true)
    (h : candidateRejectionReason env now payload = none) :
    shouldUpsertOfficialRealtimeLatest payload = true := by
  have hreviewed := cap_isReviewed hcap
  have hreason : currentCandidateRejectionReason now payload = none := (Option.or_eq_none_iff.mp h).1
  have hobserved : payload.observedAt.isSome := by
    cases hobs : payload.observedAt with
    | some observedAt => rfl
    | none =>
        unfold currentCandidateRejectionReason at hreason
        simp only [hreviewed, Bool.not_true, Bool.false_eq_true, if_false, hobs, awareInstant_none]
          at hreason
        split at hreason <;> simp at hreason
  simp [shouldUpsertOfficialRealtimeLatest, hreviewed, hobserved]

theorem duplicateDecision_of_warning (hevent : payload.eventType = .floodWarning) :
    duplicateDecision env payload db = (none, db) := by
  have hprobe : duplicateProbe payload = none := by simp [duplicateProbe, hevent]
  simp [duplicateDecision, handleExactCentralLocalDuplicate, hprobe]

theorem latestDecision_of_warning (hevent : payload.eventType = .floodWarning) :
    latestDecision env payload db = .insert := by
  simp [latestDecision, hevent]

theorem enriched_shouldUpsert :
    shouldUpsertOfficialRealtimeLatest (withAdminAreaEnrichment env payload) =
      shouldUpsertOfficialRealtimeLatest payload := by
  obtain ⟨same, hscope⟩ := enrichment_same env payload
  simp only [shouldUpsertOfficialRealtimeLatest, isReviewedCurrentCandidate, adapterEventIn,
    same.sourceType, same.adapterKey, same.eventType, same.observedAt, hscope]

theorem enriched_isAlertOrUpdate :
    isAlertOrUpdate (withAdminAreaEnrichment env payload).properties =
      isAlertOrUpdate payload.properties := by
  simp only [isAlertOrUpdate, (enrichment_same env payload).1.capMessageType]

/-! ### Rows of a warning -/

/-- The premises that both branches into the latest table share. -/
structure AdmittedWarning (env : Environment) (now : ℤ) (payload : EvidencePromotionPayload)
    (db : Database) : Prop where
  lifecycle : isCurrentCapLifecycleCandidate payload = true
  authorization : authorizeStagingCandidate db payload ≠ some false
  admissible : candidateRejectionReason env now payload = none
  unused : authorizeStagingCandidate db payload = some true →
    stagingEvidenceWasAlreadyUsed db payload = false
  alive : capRejectionReason now db payload = none
  bounded : warningBoundaryRejectionReason (withAdminAreaEnrichment env payload) = none

/-- The stored NCDR message that the candidate repeats; its row is upserted. -/
structure ReplaysWarning (env : Environment) (now : ℤ) (payload : EvidencePromotionPayload)
    (db : Database) (evidenceId : ℕ) : Prop extends AdmittedWarning env now payload db where
  ncdr : payload.adapterKey = some ncdrCap
  stored : canonicalCapMessageEvidenceId db payload = some evidenceId
  shown : isAlertOrUpdate payload.properties = true

/-- A message that is not stored yet and whose evidence row can be inserted. -/
structure InsertsWarning (env : Environment) (now : ℤ) (payload : EvidencePromotionPayload)
    (db : Database) (evidence : Table Evidence.sourceRawRef) : Prop
    extends AdmittedWarning env now payload db where
  unstored : canonicalCapMessageEvidenceId db payload = none
  inserted : ∃ source, resolvedDataSource db payload = some source ∧
    db.evidence.insertNew (evidenceRow (weightedPayload env payload db) source
      (freshId (db.evidence.rows.map Evidence.id))) = some evidence

def replayedDatabase (env : Environment) (payload : EvidencePromotionPayload) (db : Database)
    (evidenceId : ℕ) : Database :=
  refreshNcdrLatestSnapshotMarker (withAdminAreaEnrichment env payload)
    (upsertOfficialRealtimeLatest (withAdminAreaEnrichment env payload) evidenceId db)

/-- The latest table after a new message, before its own row. -/
def retiredDatabase (env : Environment) (payload : EvidencePromotionPayload) (db : Database)
    (evidence : Table Evidence.sourceRawRef) : Database :=
  if (blockingNoActiveGeneration payload db).isNone && isUpdateOrCancel payload.properties then
    retireCapReferences (withAdminAreaEnrichment env payload) { db with evidence := evidence }
  else { db with evidence := evidence }

theorem retiredDatabase_subset {evidence : Table Evidence.sourceRawRef}
    {row : OfficialRealtimeLatest}
    (h : row ∈ (retiredDatabase env payload db evidence).officialRealtimeLatest) :
    row ∈ db.officialRealtimeLatest := by
  unfold retiredDatabase retireCapReferences at h
  split at h
  · split at h
    · exact h
    · exact (Table.mem_deleteWhere.mp h).1
  · exact h

theorem settleCapCandidate_of_replay {evidenceId : ℕ}
    (h : ReplaysWarning env now payload db evidenceId) :
    settleCapCandidate env now payload db =
      some (.idempotentExistingCapMessage, replayedDatabase env payload db evidenceId) := by
  have hupsert := cap_shouldUpsert h.lifecycle h.admissible
  simp only [settleCapCandidate, h.lifecycle, Bool.not_true, Bool.false_eq_true, if_false, h.alive,
    h.stored, h.ncdr, if_true, h.bounded, enriched_isAlertOrUpdate, h.shown, enriched_shouldUpsert,
    hupsert, Bool.and_self, replayedDatabase]

theorem settleCapCandidate_of_unstored (hcap : isCurrentCapLifecycleCandidate payload = true)
    (halive : capRejectionReason now db payload = none)
    (hstored : canonicalCapMessageEvidenceId db payload = none) :
    settleCapCandidate env now payload db = none := by
  simp only [settleCapCandidate, hcap, Bool.not_true, Bool.false_eq_true, if_false, halive, hstored]

theorem settleCapCandidate_cases {reason : RejectionReason} {next : Database}
    (h : settleCapCandidate env now payload db = some (reason, next)) :
    next = db ∨ ∃ evidenceId,
      isCurrentCapLifecycleCandidate payload = true ∧
      capRejectionReason now db payload = none ∧
      warningBoundaryRejectionReason (withAdminAreaEnrichment env payload) = none ∧
      payload.adapterKey = some ncdrCap ∧
      canonicalCapMessageEvidenceId db payload = some evidenceId ∧
      isAlertOrUpdate payload.properties = true ∧
      next = replayedDatabase env payload db evidenceId := by
  unfold settleCapCandidate at h
  split at h
  · exact absurd h (by simp)
  · rename_i hcap
    simp only [Bool.not_eq_true', Bool.not_eq_false] at hcap
    cases halive : capRejectionReason now db payload with
    | some _ =>
        simp only [halive, Option.some.injEq, Prod.mk.injEq] at h
        exact Or.inl h.2.symm
    | none =>
        cases hstored : canonicalCapMessageEvidenceId db payload with
        | none => simp [halive, hstored] at h
        | some evidenceId =>
            simp only [halive, hstored] at h
            split at h
            · rename_i hncdr
              cases hbounded : warningBoundaryRejectionReason (withAdminAreaEnrichment env payload) with
              | some _ =>
                  simp only [hbounded, Option.some.injEq, Prod.mk.injEq] at h
                  exact Or.inl h.2.symm
              | none =>
                  simp only [hbounded] at h
                  split at h
                  · rename_i hshown
                    rw [Bool.and_eq_true, enriched_isAlertOrUpdate] at hshown
                    cases h
                    exact Or.inr ⟨evidenceId, hcap, rfl, rfl, hncdr, rfl, hshown.1, rfl⟩
                  · cases h
                    exact Or.inl rfl
            · cases h
              exact Or.inl rfl

theorem ReplaysWarning.write_latest {evidenceId : ℕ}
    (h : ReplaysWarning env now payload db evidenceId) :
    (writeEvidence env now payload db).2.officialRealtimeLatest =
      (replayedDatabase env payload db evidenceId).officialRealtimeLatest := by
  have hused : ¬ ((decide (authorizeStagingCandidate db payload = some true) &&
      stagingEvidenceWasAlreadyUsed db payload) = true) := by
    rw [Bool.and_eq_true, decide_eq_true_eq]
    rintro ⟨hauth, hused⟩
    rw [h.unused hauth] at hused
    exact Bool.noConfusion hused
  simp only [writeEvidence, writeEvidenceTransaction, if_neg h.authorization, h.admissible,
    decideCandidate, if_neg hused, settleCapCandidate_of_replay h, terminallyRejectStaging_latest]

/-! ### Publication of a new message -/

/-- The row of a new message is proposed unless it is a Cancel or blocked. -/
def publishesWarning (payload : EvidencePromotionPayload) (db : Database) : Bool :=
  (blockingNoActiveGeneration payload db).isNone && isAlertOrUpdate payload.properties

theorem weightedPayload_of_unblocked (h : blockingNoActiveGeneration payload db = none) :
    weightedPayload env payload db = withAdminAreaEnrichment env payload := by
  simp only [weightedPayload, h]

theorem capMessageType_of_shape (h : capShapeRejectionReason now payload = none) :
    payload.properties.capMessageType.isSome := by
  unfold capShapeRejectionReason at h
  simp only at h
  split at h
  · exact absurd h (by simp)
  · split at h
    · exact absurd h (by simp)
    · rename_i hnot
      simp only [not_or] at hnot
      exact Option.isSome_iff_ne_none.mpr hnot.2

theorem candidateGeneration_of_shape (h : capShapeRejectionReason now payload = none) :
    ∃ own, candidateGeneration payload = some own := by
  cases hown : candidateGeneration payload with
  | some own => exact ⟨own, rfl⟩
  | none =>
      unfold capShapeRejectionReason at h
      simp only [hown, if_true] at h
      repeat' split at h
      all_goals exact absurd h (by simp)

theorem capShape_of_alive (h : capRejectionReason now db payload = none) :
    capShapeRejectionReason now payload = none := by
  unfold capRejectionReason at h
  cases hshape : capShapeRejectionReason now payload with
  | none => rfl
  | some reason => simp [hshape] at h

theorem isAlertOrUpdate_eq (h : capShapeRejectionReason now payload = none) :
    isAlertOrUpdate payload.properties = !decide (payload.properties.capMessageType = some .cancel) := by
  have hsome := capMessageType_of_shape h
  cases htype : payload.properties.capMessageType with
  | none => simp [htype] at hsome
  | some messageType => cases messageType <;> simp [isAlertOrUpdate, htype]

theorem promotesLatest_of_warning (hcap : isCurrentCapLifecycleCandidate payload = true)
    (h : candidateRejectionReason env now payload = none) :
    promotesLatest payload db = (blockingNoActiveGeneration payload db).isNone := by
  simp only [promotesLatest, cap_shouldUpsert hcap h, Bool.true_and]

namespace InsertsWarning

variable {evidence : Table Evidence.sourceRawRef}

theorem reaches (h : InsertsWarning env now payload db evidence) :
    ReachesPromotion env now payload db :=
  ⟨h.authorization, h.admissible, h.unused,
    settleCapCandidate_of_unstored h.lifecycle h.alive h.unstored⟩

theorem insertsEvidence (h : InsertsWarning env now payload db evidence) :
    ∃ source, InsertsEvidence env payload db source evidence
      (blockingNoActiveGeneration payload db).isNone := by
  obtain ⟨source, hsource, hinserted⟩ := h.inserted
  have hevent := cap_eventType h.lifecycle
  have hdecision : latestDecision env payload db = .insert := latestDecision_of_warning hevent
  refine ⟨source, ?_, ?_, ?_, h.bounded, ?_, hinserted⟩
  · rw [duplicateDecision_of_warning hevent]
    simp
  · simp [hdecision]
  · rw [promotesLatest_of_warning h.lifecycle h.admissible, hdecision]
    simp
  · rw [(weighted_same env payload db).resolvedDataSource_eq]
    exact hsource

end InsertsWarning

theorem publishedDatabase_of_warning (hcap : isCurrentCapLifecycleCandidate payload = true)
    (hadmissible : candidateRejectionReason env now payload = none)
    (halive : capRejectionReason now db payload = none)
    (evidence : Table Evidence.sourceRawRef) :
    publishedDatabase env payload db evidence (blockingNoActiveGeneration payload db).isNone =
      if publishesWarning payload db then
        upsertOfficialRealtimeLatest (withAdminAreaEnrichment env payload)
          (freshId (db.evidence.rows.map Evidence.id)) (retiredDatabase env payload db evidence)
      else retiredDatabase env payload db evidence := by
  have hshape := isAlertOrUpdate_eq (capShape_of_alive halive)
  have hupsert := cap_shouldUpsert hcap hadmissible
  have same := (enrichment_same env payload).1
  have hevent := cap_eventType hcap
  cases hblocked : blockingNoActiveGeneration payload db with
  | some noActive =>
      simp only [publishedDatabase, publishEvidence, hblocked, Option.isSome_some, Option.isNone_some,
        Bool.not_true, Bool.and_false, Bool.false_and, Bool.false_eq_true, if_false,
        publishesWarning, retiredDatabase, duplicateDecision_of_warning hevent]
  | none =>
      simp only [publishedDatabase, publishEvidence, hblocked, hcap, Option.isSome_none,
        Option.isNone_none, Bool.not_false, Bool.and_true, Bool.true_and, publishesWarning,
        retiredDatabase, duplicateDecision_of_warning hevent, weightedPayload_of_unblocked hblocked,
        enriched_shouldUpsert, hupsert, hshape, isUpdateOrCancel, same.capMessageType, ne_eq,
        decide_not]

theorem InsertsWarning.write_eq {evidence : Table Evidence.sourceRawRef}
    (h : InsertsWarning env now payload db evidence) :
    (writeEvidence env now payload db).2 =
      if publishesWarning payload db then
        upsertOfficialRealtimeLatest (withAdminAreaEnrichment env payload)
          (freshId (db.evidence.rows.map Evidence.id)) (retiredDatabase env payload db evidence)
      else retiredDatabase env payload db evidence := by
  obtain ⟨source, inserts⟩ := h.insertsEvidence
  rw [writeEvidence_eq_published h.reaches inserts,
    publishedDatabase_of_warning h.lifecycle h.admissible h.alive]

theorem unsettled_cases (hcap : isCurrentCapLifecycleCandidate payload = true)
    (h : settleCapCandidate env now payload db = none) :
    capRejectionReason now db payload = none ∧ canonicalCapMessageEvidenceId db payload = none := by
  unfold settleCapCandidate at h
  simp only [hcap, Bool.not_true, Bool.false_eq_true, if_false] at h
  cases halive : capRejectionReason now db payload with
  | some reason => simp [halive] at h
  | none =>
      refine ⟨rfl, ?_⟩
      cases hstored : canonicalCapMessageEvidenceId db payload with
      | none => rfl
      | some evidenceId =>
          simp only [halive, hstored] at h
          repeat' split at h
          all_goals exact absurd h (by simp)

/-- A warning leaves the latest table as it is, repeats a stored NCDR message,
or is inserted. -/
theorem writeEvidence_warning_latest (env : Environment) (now : ℤ) (db : Database)
    (hcap : isCurrentCapLifecycleCandidate payload = true) :
    (writeEvidence env now payload db).2.officialRealtimeLatest = db.officialRealtimeLatest ∨
    (∃ evidenceId, ReplaysWarning env now payload db evidenceId) ∨
    ∃ evidence, InsertsWarning env now payload db evidence := by
  have hevent := cap_eventType hcap
  refine writeEvidence_cases (motive := fun result =>
    result.2.officialRealtimeLatest = db.officialRealtimeLatest ∨
    (∃ evidenceId, ReplaysWarning env now payload db evidenceId) ∨
    ∃ evidence, InsertsWarning env now payload db evidence) ?_ ?_ ?_ ?_ ?_ ?_
  · exact fun _ => Or.inl rfl
  · intro reason hreason
    refine Or.inl ?_
    rw [terminallyRejectStaging_latest]
    split
    · rename_i hinactive
      simp only [Bool.and_eq_true, decide_eq_true_eq] at hinactive
      rw [hinactive.1] at hreason
      obtain ⟨key, hmem, hkey⟩ := cap_adapterKey hcap
      rw [inactive_adapter hreason, Option.some.injEq] at hkey
      rw [← hkey] at hmem
      exact absurd hmem (by decide)
    · rfl
  · exact fun _ _ => Or.inl rfl
  · intro reason next hauth hadmissible hunused hsettled
    rcases settleCapCandidate_cases hsettled with
      hsame | ⟨evidenceId, -, halive, hbounded, hncdr, hstored, hshown, -⟩
    · rw [terminallyRejectStaging_latest, hsame]
      exact Or.inl rfl
    · exact Or.inr (Or.inl ⟨evidenceId,
        ⟨⟨hcap, hauth, hadmissible, hunused, halive, hbounded⟩, hncdr, hstored, hshown⟩⟩)
  · intro reason _
    rw [terminallyRejectStaging_latest, duplicateDecision_of_warning hevent]
    exact Or.inl rfl
  · intro source evidence promote reaches inserts
    obtain ⟨halive, hunstored⟩ := unsettled_cases hcap reaches.unsettled
    have hsource := inserts.resolved
    rw [(weighted_same env payload db).resolvedDataSource_eq] at hsource
    exact Or.inr (Or.inr ⟨evidence,
      ⟨⟨hcap, reaches.authorization, reaches.admissible, reaches.unused, halive, inserts.boundary⟩,
        hunstored, source, hsource, inserts.inserted⟩⟩)

end FloodRisk.Promotion
