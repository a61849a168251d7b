import FloodRisk.Promotion.Frame

/-!
# Candidates that wait for their promotion

Transactions of other candidates and rejections of other staging rows do not
touch what the writer asks the tables about a candidate.
-/

namespace FloodRisk.Promotion

variable {env : Environment} {now : ℤ} {payload other : EvidencePromotionPayload} {db : Database}

/-- The staging row of the candidate, when it names one, authorises it, and its
evidence is new. -/
structure Pending (db : Database) (payload : EvidencePromotionPayload) : Prop where
  authorized : authorizeStagingCandidate db payload ≠ some false
  unused : stagingEvidenceWasAlreadyUsed db payload = false
  resolved : (resolvedDataSource db payload).isSome
  fresh : ∀ row ∈ db.evidence, row.sourceRawRef ≠ (payload.sourceId, payload.rawRef)

theorem validatedStagingId_eq_some {id : ℕ} :
    validatedStagingId payload = some id ↔
      ∃ canonical, payload.properties.stagingEvidenceId = .uuid id canonical := by
  unfold validatedStagingId
  cases payload.properties.stagingEvidenceId with
  | absent => simp
  | invalid => simp
  | uuid other canonical => simp

theorem authorized_of_stagingId {id : ℕ} (h : authorizeStagingCandidate db payload ≠ some false)
    (hid : validatedStagingId payload = some id) :
    authorizeStagingCandidate db payload = some true := by
  obtain ⟨canonical, hstaging⟩ := validatedStagingId_eq_some.mp hid
  cases hauth : authorizeStagingCandidate db payload with
  | some authorized =>
      cases authorized with
      | true => rfl
      | false => exact absurd hauth h
  | none =>
      simp only [authorizeStagingCandidate, hstaging] at hauth
      cases hrow : db.stagingEvidence.find id with
      | none => simp [hrow] at hauth
      | some row =>
          simp only [hrow] at hauth
          cases hraw : db.rawSnapshots.rows.find? (fun raw => some raw.id = row.rawSnapshotId) with
          | none => simp [hraw] at hauth
          | some raw => simp [hraw] at hauth

namespace Pending

theorem stagingId_ne (h : Pending db payload) (k : Pending db other)
    (href : (other.sourceId, other.rawRef) ≠ (payload.sourceId, payload.rawRef)) {id : ℕ}
    (hother : validatedStagingId other = some id) : validatedStagingId payload ≠ some id := by
  intro hown
  exact href (authorized_unique (authorized_of_stagingId k.authorized hother)
    (authorized_of_stagingId h.authorized hown) (hother.trans hown.symm))

theorem rejectStagingRows (h : Pending db payload) {ids : List ℕ} (reason : RejectionReason)
    (hids : ∀ id ∈ ids, validatedStagingId payload ≠ some id) :
    Pending (Promotion.rejectStagingRows ids reason db) payload := by
  refine ⟨?_, h.unused, h.resolved, h.fresh⟩
  have hsame : authorizeStagingCandidate (Promotion.rejectStagingRows ids reason db) payload =
      authorizeStagingCandidate db payload := by
    refine authorizeStagingCandidate_congr rfl rfl ?_
    intro id hid
    exact find_rejectStagingRows_of_not_mem reason db (fun hmem => hids id hmem hid)
  rw [hsame]
  exact h.authorized

theorem write (h : Pending db payload) (k : Pending db other) (env : Environment) (now : ℤ)
    (href : (other.sourceId, other.rawRef) ≠ (payload.sourceId, payload.rawRef)) :
    Pending (writeEvidence env now other db).2 payload := by
  have frame := writeEvidence_frame env now other db
  have hids : ∀ id, validatedStagingId payload = some id → validatedStagingId other ≠ some id :=
    fun id hown hother => h.stagingId_ne k href hother hown
  have hrows : ∀ row ∈ (writeEvidence env now other db).2.evidence, row ∈ db.evidence ∨
      (row.sourceRawRef = (other.sourceId, other.rawRef) ∧
        row.properties.stagingEvidenceId = other.properties.stagingEvidenceId) := by
    intro row hrow
    rcases mem_evidence_of_write hrow with hold | ⟨-, source, -, heq⟩
    · exact Or.inl hold
    · have same := weighted_same env other db
      rw [heq]
      exact Or.inr ⟨same.sourceRawRef_eq source _, same.stagingEvidenceId⟩
  refine ⟨?_, ?_, ?_, ?_⟩
  · have hsame : authorizeStagingCandidate (writeEvidence env now other db).2 payload =
        authorizeStagingCandidate db payload :=
      authorizeStagingCandidate_congr frame.dataSources frame.rawSnapshots
        (fun id hown => frame.stagingEvidence id (hids id hown))
    rw [hsame]
    exact h.authorized
  · have hunused := h.unused
    cases hown : validatedStagingId payload with
    | none => simp only [stagingEvidenceWasAlreadyUsed, hown]
    | some id =>
        simp only [stagingEvidenceWasAlreadyUsed, hown, List.any_eq_false, decide_eq_true_eq]
          at hunused ⊢
        intro row hrow hmatch
        rcases hrows row hrow with hold | ⟨-, hstaging⟩
        · exact hunused row hold hmatch
        · refine hids id hown (validatedStagingId_eq_some.mpr ⟨true, ?_⟩)
          rw [← hstaging]
          exact hmatch
  · rw [resolvedDataSource_congr frame.dataSources]
    exact h.resolved
  · intro row hrow hkey
    rcases hrows row hrow with hold | ⟨hother, -⟩
    · exact h.fresh row hold hkey
    · exact href (hother.symm.trans hkey)

end Pending

end FloodRisk.Promotion
