import FloodRisk.Promotion.Calls
import FloodRisk.Promotion.Frame

/-!
# The batched path of the promotion writer

The settling transaction retires the staging rows of unchanged observations.
A per-row transaction reads the staging table for its own authorisation only,
so two databases that differ in other staging rows go through it in lockstep.
-/

namespace FloodRisk.Promotion

variable {env : Environment} {now : ℤ} {payload : EvidencePromotionPayload} {db : Database}

/-! ### The settling transaction -/

theorem mem_keyedPayloads {payloads : List EvidencePromotionPayload} {seen : List ℕ}
    {keyed : ℕ × EvidencePromotionPayload} (h : keyed ∈ keyedPayloads now payloads seen) :
    keyed.2 ∈ payloads ∧ validatedStagingId keyed.2 = some keyed.1 := by
  induction payloads generalizing seen with
  | nil => simp [keyedPayloads] at h
  | cons first rest ih =>
      unfold keyedPayloads at h
      cases hid : validatedStagingId first with
      | none =>
          simp only [hid] at h
          have hrest := ih h
          exact ⟨List.mem_cons_of_mem first hrest.1, hrest.2⟩
      | some id =>
          simp only [hid] at h
          split at h
          · have hrest := ih h
            exact ⟨List.mem_cons_of_mem first hrest.1, hrest.2⟩
          · rcases List.mem_cons.mp h with heq | htail
            · rw [heq]
              exact ⟨List.mem_cons_self, hid⟩
            · have hrest := ih htail
              exact ⟨List.mem_cons_of_mem first hrest.1, hrest.2⟩

theorem exists_unchanged_of_mem_settled {payloads : List EvidencePromotionPayload} {id : ℕ}
    (h : id ∈ settledStagingIds env now db payloads) :
    ∃ payload ∈ payloads, validatedStagingId payload = some id ∧
      isUnchangedObservation env now db payload = true := by
  obtain ⟨keyed, hkeyed, hid⟩ := List.mem_map.mp h
  obtain ⟨hmem, hunchanged⟩ := List.mem_filter.mp hkeyed
  obtain ⟨hpayload, hown⟩ := mem_keyedPayloads hmem
  exact ⟨keyed.2, hpayload, hid ▸ hown, hunchanged⟩

theorem batchIdempotentStationKey_eq_some {key : LatestKey} {observedAt : ℤ}
    (h : batchIdempotentStationKey now payload = some (key, observedAt)) :
    payload.adapterKey = some key.1 ∧ payload.eventType = key.2.1 ∧
      officialRealtimeStationId payload = some key.2.2 ∧
      payload.observedAt.map Datetime.timestamptz = some observedAt := by
  unfold batchIdempotentStationKey at h
  split at h
  · exact absurd h (by simp)
  split at h
  · exact absurd h (by simp)
  split at h
  · exact absurd h (by simp)
  split at h
  · exact absurd h (by simp)
  split at h
  · rename_i stationId adapterKey observed hstation hadapter hobserved
    cases h
    exact ⟨hadapter, rfl, hstation, by rw [hobserved]; rfl⟩
  · exact absurd h (by simp)

theorem mem_keyedPayloads_of_mem {payloads : List EvidencePromotionPayload} {seen : List ℕ}
    {id : ℕ} (hnodup : (payloads.map validatedStagingId).Nodup) (hmem : payload ∈ payloads)
    (hid : validatedStagingId payload = some id) (hseen : id ∉ seen)
    (hkey : (batchIdempotentStationKey now payload).isSome) :
    (id, payload) ∈ keyedPayloads now payloads seen := by
  induction payloads generalizing seen with
  | nil => exact absurd hmem List.not_mem_nil
  | cons first rest ih =>
      obtain ⟨hnot, hrest⟩ := List.nodup_cons.mp hnodup
      unfold keyedPayloads
      rcases List.mem_cons.mp hmem with heq | htail
      · rw [← heq]
        have hopen : ¬ (id ∈ seen ∨ (batchIdempotentStationKey now payload).isNone = true) := by
          rintro (hin | hnone)
          · exact hseen hin
          · rw [Option.isNone_iff_eq_none.mp hnone] at hkey
            exact Bool.noConfusion hkey
        simp only [hid, if_neg hopen]
        exact List.mem_cons_self
      · cases hfirst : validatedStagingId first with
        | none => exact ih hrest htail hseen
        | some other =>
            have hne : id ≠ other := by
              intro heq
              exact hnot (List.mem_map.mpr ⟨payload, htail, by rw [hid, hfirst, heq]⟩)
            simp only
            split
            · exact ih hrest htail hseen
            · refine List.mem_cons_of_mem _ (ih hrest htail ?_)
              rintro (_ | ⟨_, hin⟩)
              · exact hne rfl
              · exact hseen hin

/-- With distinct staging ids the settled candidates are the unchanged ones. -/
theorem isSettled_iff {payloads : List EvidencePromotionPayload}
    (hids : ∀ payload ∈ payloads, (validatedStagingId payload).isSome)
    (hnodup : (payloads.map validatedStagingId).Nodup) (hmem : payload ∈ payloads) :
    isSettled (settledStagingIds env now db payloads) payload = true ↔
      isUnchangedObservation env now db payload = true := by
  obtain ⟨id, hid⟩ := Option.isSome_iff_exists.mp (hids payload hmem)
  simp only [isSettled, hid, Option.any_some, decide_eq_true_eq]
  constructor
  · intro hsettled
    obtain ⟨other, hother, hotherId, hunchanged⟩ := exists_unchanged_of_mem_settled hsettled
    have hsame : other = payload :=
      List.inj_on_of_nodup_map hnodup hother hmem (hotherId.trans hid.symm)
    exact hsame ▸ hunchanged
  · intro hunchanged
    have hkey : (batchIdempotentStationKey now payload).isSome := by
      unfold isUnchangedObservation at hunchanged
      cases hkeyed : batchIdempotentStationKey now payload with
      | none => simp [hkeyed] at hunchanged
      | some keyed => rfl
    have hlisted := mem_keyedPayloads_of_mem hnodup hmem hid List.not_mem_nil hkey
    exact List.mem_map.mpr ⟨(id, payload), List.mem_filter.mpr ⟨hlisted, hunchanged⟩, rfl⟩

/-! ### Transactions and the staging table -/

def Database.withStaging (db : Database) (staging : StagingTable) : Database :=
  { db with stagingEvidence := staging }

/-- What a transaction of the candidate does to the staging table. -/
def rejectOwn (payload : EvidencePromotionPayload) (reason : RejectionReason) (authorized : Bool)
    (staging : StagingTable) : StagingTable :=
  if authorized then
    match validatedStagingId payload with
    | none => staging
    | some id => rejectRows [id] reason staging
  else staging

/-- A transaction that leaves the staging table alone or rejects its own row. -/
def StagingEffect (payload : EvidencePromotionPayload) (effect : StagingTable → StagingTable) :
    Prop :=
  effect = id ∨ ∃ reason authorized, effect = rejectOwn payload reason authorized

section WithStaging

variable (payload) (staging : StagingTable)

theorem terminallyRejectStaging_withStaging (reason : RejectionReason) (authorized : Bool)
    (db : Database) :
    terminallyRejectStaging payload reason authorized (db.withStaging staging) =
      db.withStaging (rejectOwn payload reason authorized staging) := by
  unfold terminallyRejectStaging rejectOwn
  cases authorized with
  | false => rfl
  | true => cases validatedStagingId payload <;> rfl

theorem upsert_withStaging (evidenceId : ℕ) (db : Database) :
    upsertOfficialRealtimeLatest payload evidenceId (db.withStaging staging) =
      (upsertOfficialRealtimeLatest payload evidenceId db).withStaging staging := by
  unfold upsertOfficialRealtimeLatest
  split <;> rfl

theorem retireInactive_withStaging (db : Database) :
    retireInactiveStationLatest payload (db.withStaging staging) =
      (retireInactiveStationLatest payload db).withStaging staging := by
  unfold retireInactiveStationLatest
  split
  · rfl
  · split <;> rfl

theorem refreshMarker_withStaging (db : Database) :
    refreshNcdrLatestSnapshotMarker payload (db.withStaging staging) =
      (refreshNcdrLatestSnapshotMarker payload db).withStaging staging := by
  unfold refreshNcdrLatestSnapshotMarker
  split
  · split <;> rfl
  · rfl

theorem retireReferences_withStaging (db : Database) :
    retireCapReferences payload (db.withStaging staging) =
      (retireCapReferences payload db).withStaging staging := by
  unfold retireCapReferences
  split <;> rfl

theorem duplicate_withStaging (env : Environment) (db : Database) :
    duplicateDecision env payload (db.withStaging staging) =
      ((duplicateDecision env payload db).1,
        (duplicateDecision env payload db).2.withStaging staging) := by
  have hpromotes : promotesLatest payload (db.withStaging staging) = promotesLatest payload db := rfl
  have hmatches : exactDuplicates env payload (db.withStaging staging) =
      exactDuplicates env payload db := rfl
  unfold duplicateDecision handleExactCentralLocalDuplicate
  rw [hpromotes, hmatches]
  split
  · split
    · split <;> rfl
    · rfl
  · rfl

theorem settle_withStaging (env : Environment) (now : ℤ) (db : Database) :
    settleCapCandidate env now payload (db.withStaging staging) =
      (settleCapCandidate env now payload db).map
        (fun outcome => (outcome.1, outcome.2.withStaging staging)) := by
  have halive : capRejectionReason now (db.withStaging staging) payload =
      capRejectionReason now db payload := rfl
  have hstored : canonicalCapMessageEvidenceId (db.withStaging staging) payload =
      canonicalCapMessageEvidenceId db payload := rfl
  unfold settleCapCandidate
  rw [halive, hstored]
  split
  · rfl
  · split
    · rfl
    · split
      · rfl
      · split
        · simp only
          split
          · rfl
          · split
            · rw [upsert_withStaging, refreshMarker_withStaging]
              rfl
            · rfl
        · rfl

theorem publish_withStaging (cap blocked promote : Bool) (evidenceId : ℕ) (db : Database) :
    publishEvidence payload cap blocked promote evidenceId (db.withStaging staging) =
      (publishEvidence payload cap blocked promote evidenceId db).withStaging staging := by
  unfold publishEvidence
  simp only
  split <;> split <;> simp only [retireReferences_withStaging, upsert_withStaging]

end WithStaging

/-- A per-row transaction with a given authorisation: its result, the tables it
leaves and its effect on the staging table do not depend on that table. -/
structure Uniform (payload : EvidencePromotionPayload)
    (transaction : StagingTable → Option ℕ × Database) : Prop where
  exists_effect : ∃ result next effect, StagingEffect payload effect ∧
    ∀ staging, transaction staging = (result, Database.withStaging next (effect staging))

theorem uniform_reject (payload : EvidencePromotionPayload) (reason : RejectionReason)
    (authorized : Bool) (next : Database) :
    Uniform payload (fun staging =>
      (none, terminallyRejectStaging payload reason authorized (next.withStaging staging))) := by
  refine ⟨none, next, rejectOwn payload reason authorized, Or.inr ⟨reason, authorized, rfl⟩, ?_⟩
  intro staging
  rw [terminallyRejectStaging_withStaging]

theorem uniform_keep (payload : EvidencePromotionPayload) (result : Option ℕ) (next : Database) :
    Uniform payload (fun staging => (result, next.withStaging staging)) :=
  ⟨result, next, id, Or.inl rfl, fun _ => rfl⟩

theorem uniform_insertAndPublish (env : Environment) (payload : EvidencePromotionPayload)
    (authorized promoteLatest : Bool) (db working : Database) :
    Uniform payload (fun staging =>
      insertAndPublish env payload authorized promoteLatest (db.withStaging staging)
        (working.withStaging staging)) := by
  unfold insertAndPublish
  cases warningBoundaryRejectionReason (withAdminAreaEnrichment env payload) with
  | some reason => exact uniform_reject payload reason authorized working
  | none =>
      have hweighted : ∀ staging, weightedPayload env payload (db.withStaging staging) =
          weightedPayload env payload db := fun _ => rfl
      have hblocked : ∀ staging, blockingNoActiveGeneration payload (db.withStaging staging) =
          blockingNoActiveGeneration payload db := fun _ => rfl
      have hsource : ∀ staging, resolvedDataSource (working.withStaging staging)
          (weightedPayload env payload db) =
            resolvedDataSource working (weightedPayload env payload db) := fun _ => rfl
      simp only [hweighted, hblocked, insertEvidence, hsource]
      cases resolvedDataSource working (weightedPayload env payload db) with
      | none => exact uniform_reject payload _ authorized working
      | some source =>
          have hinsert : ∀ staging, (working.withStaging staging).evidence = working.evidence :=
            fun _ => rfl
          simp only [hinsert]
          cases working.evidence.insertNew (evidenceRow (weightedPayload env payload db) source
              (freshId (working.evidence.rows.map Evidence.id))) with
          | none => exact uniform_reject payload _ authorized working
          | some evidence =>
              have hpublish : ∀ staging, publishEvidence (weightedPayload env payload db)
                  (isCurrentCapLifecycleCandidate payload)
                  (blockingNoActiveGeneration payload db).isSome promoteLatest
                  (freshId (working.evidence.rows.map Evidence.id))
                  { working.withStaging staging with evidence := evidence } =
                    (publishEvidence (weightedPayload env payload db)
                      (isCurrentCapLifecycleCandidate payload)
                      (blockingNoActiveGeneration payload db).isSome promoteLatest
                      (freshId (working.evidence.rows.map Evidence.id))
                      { working with evidence := evidence }).withStaging staging :=
                fun staging => publish_withStaging _ staging _ _ _ _
                  { working with evidence := evidence }
              simp only [hpublish]
              exact uniform_keep payload _ _

theorem uniform_promoteCandidate (env : Environment) (payload : EvidencePromotionPayload)
    (authorized : Bool) (db : Database) :
    Uniform payload (fun staging => promoteCandidate env payload authorized (db.withStaging staging)) := by
  have hdecision : ∀ staging, latestDecision env payload (db.withStaging staging) =
      latestDecision env payload db := by
    intro staging
    unfold latestDecision
    rw [duplicate_withStaging]
    rfl
  have hpromotes : ∀ staging, promotesLatest payload (db.withStaging staging) =
      promotesLatest payload db := fun _ => rfl
  simp only [promoteCandidate, duplicate_withStaging, hdecision, hpromotes]
  by_cases hdistinct : (duplicateDecision env payload db).1 = some .duplicateCentral
  · simp only [if_pos hdistinct]
    exact uniform_reject payload _ authorized _
  · simp only [if_neg hdistinct]
    cases latestDecision env payload db with
    | idempotent => exact uniform_reject payload _ authorized _
    | conflict => exact uniform_reject payload _ authorized _
    | historicalOnly => exact uniform_insertAndPublish env payload authorized false db _
    | insert => exact uniform_insertAndPublish env payload authorized _ db _
    | update => exact uniform_insertAndPublish env payload authorized _ db _

theorem uniform_decideCandidate (env : Environment) (now : ℤ) (payload : EvidencePromotionPayload)
    (authorized : Bool) (db : Database) :
    Uniform payload
      (fun staging => decideCandidate env now payload authorized (db.withStaging staging)) := by
  have hused : ∀ staging, stagingEvidenceWasAlreadyUsed (db.withStaging staging) payload =
      stagingEvidenceWasAlreadyUsed db payload := fun _ => rfl
  simp only [decideCandidate, hused, settle_withStaging]
  by_cases hdone : (authorized && stagingEvidenceWasAlreadyUsed db payload) = true
  · simp only [if_pos hdone]
    exact uniform_keep payload none db
  · simp only [if_neg hdone]
    cases settleCapCandidate env now payload db with
    | some outcome => exact uniform_reject payload outcome.1 authorized outcome.2
    | none => exact uniform_promoteCandidate env payload authorized db

/-- The transaction after the authorisation was read. -/
def writeAuthorized (env : Environment) (now : ℤ) (payload : EvidencePromotionPayload)
    (authorization : Option Bool) (db : Database) : Option ℕ × Database :=
  if authorization = some false then (none, db)
  else
    match candidateRejectionReason env now payload with
    | some reason =>
        (none, terminallyRejectStaging payload reason (authorization = some true)
          (if reason = .inactiveStation && authorization = some true then
            retireInactiveStationLatest payload db
          else db))
    | none => decideCandidate env now payload (authorization = some true) db

theorem writeEvidence_eq (env : Environment) (now : ℤ) (payload : EvidencePromotionPayload)
    (db : Database) :
    writeEvidence env now payload db =
      writeAuthorized env now payload (authorizeStagingCandidate db payload) db := rfl

theorem uniform_writeAuthorized (env : Environment) (now : ℤ)
    (payload : EvidencePromotionPayload) (authorization : Option Bool) (db : Database) :
    Uniform payload
      (fun staging => writeAuthorized env now payload authorization (db.withStaging staging)) := by
  unfold writeAuthorized
  by_cases hfalse : authorization = some false
  · simp only [if_pos hfalse]
    exact uniform_keep payload none db
  · simp only [if_neg hfalse]
    cases candidateRejectionReason env now payload with
    | none => exact uniform_decideCandidate env now payload _ db
    | some reason =>
        simp only [retireInactive_withStaging]
        by_cases hinactive :
            (decide (reason = .inactiveStation) && decide (authorization = some true)) = true
        · simp only [if_pos hinactive]
          exact uniform_reject payload reason _ _
        · simp only [if_neg hinactive]
          exact uniform_reject payload reason _ _

/-- A transaction reads the staging table for its authorisation only. -/
theorem writeEvidence_uniform (env : Environment) (now : ℤ) (payload : EvidencePromotionPayload)
    (db : Database) (authorization : Option Bool) :
    ∃ result next effect, StagingEffect payload effect ∧ ∀ staging,
      authorizeStagingCandidate (db.withStaging staging) payload = authorization →
      writeEvidence env now payload (db.withStaging staging) =
        (result, Database.withStaging next (effect staging)) := by
  obtain ⟨result, next, effect, heffect, heq⟩ :=
    (uniform_writeAuthorized env now payload authorization db).exists_effect
  refine ⟨result, next, effect, heffect, ?_⟩
  intro staging hauth
  rw [writeEvidence_eq, hauth, heq staging]

end FloodRisk.Promotion
