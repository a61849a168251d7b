import FloodRisk.Ingestion.SnapshotCycles
import FloodRisk.Promotion.BatchAgreement

/-!
# Staged rows of a snapshot

A historical record is no current candidate: its transaction skips every
lifecycle and latest check, so an authorised one ends with evidence under its
source id and raw reference.
-/

namespace FloodRisk.Ingestion
open Promotion

variable {env : Environment} {now : ℤ} {payload : EvidencePromotionPayload}
  {db next : Database}

def HasEvidence (db : Database) (sourceId rawRef : String) : Prop :=
  ∃ stored ∈ db.evidence, stored.sourceRawRef = (sourceId, some rawRef)

theorem HasEvidence.mono {sourceId rawRef : String} (h : HasEvidence db sourceId rawRef)
    (kept : ∀ stored ∈ db.evidence, stored ∈ next.evidence) : HasEvidence next sourceId rawRef := by
  obtain ⟨stored, hstored, hkey⟩ := h
  exact ⟨stored, kept stored hstored, hkey⟩

/-! ### Candidates that are not current -/

section Historical

variable (hscope : payload.properties.evidenceScope ≠ some .current)
include hscope

theorem notCap_of_historical : isCurrentCapLifecycleCandidate payload = false := by
  simp [isCurrentCapLifecycleCandidate, hscope]

theorem shouldUpsert_of_historical : shouldUpsertOfficialRealtimeLatest payload = false := by
  simp [shouldUpsertOfficialRealtimeLatest, isReviewedCurrentCandidate, hscope]

theorem admissible_of_historical : candidateRejectionReason env now payload = none := by
  rw [candidateRejectionReason_of_not_cap (notCap_of_historical hscope)]
  simp [currentCandidateRejectionReason, isReviewedCurrentCandidate, hscope]

theorem promotesLatest_of_historical : promotesLatest payload db = false := by
  rw [promotesLatest_of_not_cap (notCap_of_historical hscope)]
  exact shouldUpsert_of_historical hscope

theorem exists_evidence_of_write (traced : Traced db)
    (hauth : authorizeStagingCandidate db payload = some true)
    (hresolved : (resolvedDataSource db payload).isSome) :
    ∃ stored ∈ (writeEvidence env now payload db).2.evidence,
      stored.sourceRawRef = (payload.sourceId, payload.rawRef) := by
  have hcap := notCap_of_historical hscope
  by_cases hstored : ∃ stored ∈ db.evidence,
      stored.sourceRawRef = (payload.sourceId, payload.rawRef)
  · obtain ⟨stored, hmem, hkey⟩ := hstored
    exact ⟨stored, evidence_subset_write hmem, hkey⟩
  have hunused : stagingEvidenceWasAlreadyUsed db payload = false := by
    by_contra hused
    obtain ⟨id, canonical, row, raw, hstaging, -, -, -⟩ := authorized_staging hauth
    have hid : validatedStagingId payload = some id := by
      simp only [validatedStagingId, hstaging]
    obtain ⟨row, hrow, hown, hsource, -, href⟩ := authorized_row hauth hid
    simp only [stagingEvidenceWasAlreadyUsed, hid, Bool.not_eq_false, List.any_eq_true,
      decide_eq_true_eq] at hused
    obtain ⟨stored, hmem, hnamed⟩ := hused
    obtain ⟨other, hother, hotherId, hplace⟩ := traced stored hmem id hnamed
    have hsame : other = row := Table.eq_of_key_eq hother hrow (hotherId.trans hown.symm)
    rw [hsame] at hplace
    have hsourceId : stored.sourceId = payload.sourceId :=
      Option.some.inj (hplace.1.trans hsource)
    refine hstored ⟨stored, hmem, ?_⟩
    rw [Evidence.sourceRawRef, hsourceId, hplace.2.2, href]
  have reaches : ReachesPromotion env now payload db :=
    ⟨by rw [hauth]; simp, admissible_of_historical hscope, fun _ => hunused,
      settleCapCandidate_of_not_cap hcap⟩
  have same := weighted_same env payload db
  obtain ⟨source, hsource⟩ := Option.isSome_iff_exists.mp hresolved
  have hkey := same.sourceRawRef_eq source (freshId (db.evidence.rows.map Evidence.id))
  have hfree : ∀ stored ∈ db.evidence, stored.sourceRawRef ≠
      (evidenceRow (weightedPayload env payload db) source
        (freshId (db.evidence.rows.map Evidence.id))).sourceRawRef := by
    intro stored hmem heq
    exact hstored ⟨stored, hmem, heq.trans hkey⟩
  obtain ⟨evidence, hevidence⟩ := Table.insertNew_isSome hfree
  have hpromotes : promotesLatest payload db = false := promotesLatest_of_historical hscope
  have hinserts : InsertsEvidence env payload db source evidence false := by
    refine ⟨?_, ?_, ?_, enrichment_warningBoundary env hcap, ?_, hevidence⟩
    · simp [duplicateDecision, hpromotes]
    · simp [latestDecision, hpromotes]
    · simp [hpromotes]
    · rw [same.resolvedDataSource_eq]
      exact hsource
  rw [writeEvidence_eq_published reaches hinserts]
  have hframe := publishedDatabase_frame env payload db evidence false
  refine ⟨_, ?_, hkey⟩
  rw [hframe.evidence]
  exact (Table.mem_of_insertNew hevidence).mpr (Or.inr rfl)

end Historical

/-! ### Rows of a snapshot -/

/-- The columns of a staged record with the digest; `id` is the catalogue id of
the source. -/
structure SnapshotRow (source : SnapshotSource) (id : ℕ) (digest : String)
    (row : StagingEvidence) : Prop where
  dataSourceId : row.dataSourceId = some id
  adapterKey : row.payload.adapterKey = some source.adapterKey
  sourceId : ∃ sourceId ∈ source.sourceIds digest, row.sourceId = some sourceId
  confidence : row.confidence.isSome
  historical : row.payload.evidenceScope = some .historical
  stagingEvidenceId : row.payload.stagingEvidenceId = .absent
  rawSnapshotId : row.payload.rawSnapshotId = none

def snapshotPayload (id : ℕ) (rawRef : String) (row : StagingEvidence) :
    EvidencePromotionPayload where
  dataSourceId := some id
  adapterKey := row.payload.adapterKey
  sourceId := row.sourceId.getD "None"
  sourceType := row.sourceType
  eventType := row.eventType
  title := row.title
  summary := row.summary
  url := row.url
  occurredAt := row.occurredAt.map .aware
  observedAt := row.observedAt.map .aware
  confidence := row.confidence.getD 0
  rawRef := some rawRef
  properties :=
    { row.payload with
      stagingEvidenceId := .uuid row.id true
      rawSnapshotId := row.rawSnapshotId }

def IsCatalogued (adapterKey : String) (id : ℕ) (db : Database) : Prop :=
  ∃ entry, db.dataSources.find adapterKey = some entry ∧ entry.id = id

section Row

variable {source : SnapshotSource} {id : ℕ} {digest : String} {row : StagingEvidence}
  (h : SnapshotRow source id digest row)
include h

theorem SnapshotRow.candidatePayload_eq {rawRef : String}
    (href : rawRefOf db row = some rawRef) :
    candidatePayload db row = snapshotPayload id rawRef row := by
  have hkey : row.payload.adapterKey.filter (· ≠ "") = row.payload.adapterKey := by
    rw [h.adapterKey]
    simp [source.keyed]
  have hraw : (rawSnapshotOf db row).map RawSnapshot.rawRef = some rawRef := href
  simp only [candidatePayload, snapshotPayload, h.dataSourceId, Option.some_or, hkey, hraw]

theorem SnapshotRow.authorized {rawRef : String} (hrow : row ∈ db.stagingEvidence)
    (haccepted : row.validationStatus = .accepted) (href : rawRefOf db row = some rawRef) :
    authorizeStagingCandidate db (snapshotPayload id rawRef row) = some true := by
  obtain ⟨sourceId, -, hsource⟩ := h.sourceId
  obtain ⟨confidence, hconfidence⟩ := Option.isSome_iff_exists.mp h.confidence
  obtain ⟨raw, hraw, hrawRef⟩ := Option.map_eq_some_iff.mp href
  rw [rawSnapshotOf] at hraw
  have hfind : db.stagingEvidence.find row.id = some row :=
    Table.find_eq_some_iff.mpr ⟨hrow, rfl⟩
  have hoccurred : (row.occurredAt.map Datetime.aware).map Datetime.timestamptz =
      row.occurredAt := by
    cases row.occurredAt <;> rfl
  have hobserved : (row.observedAt.map Datetime.aware).map Datetime.timestamptz =
      row.observedAt := by
    cases row.observedAt <;> rfl
  have hpayload : row.payload = stagingPayload (snapshotPayload id rawRef row).properties := by
    simp only [stagingPayload, snapshotPayload, ← h.stagingEvidenceId, ← h.rawSnapshotId]
  have hmatch : stagingRowAuthorizes db (snapshotPayload id rawRef row) row raw = true := by
    simp only [stagingRowAuthorizes, ← hpayload]
    simp only [snapshotPayload, haccepted, h.dataSourceId, Option.some_or, hsource,
      Option.getD_some, hoccurred, hobserved, hconfidence, h.adapterKey, hrawRef, decide_true,
      Bool.and_self]
  simp only [authorizeStagingCandidate, snapshotPayload] at hmatch ⊢
  simp only [hfind, hraw, hmatch]

theorem SnapshotRow.of_authorized (hrow : row ∈ db.stagingEvidence)
    (hauth : authorizeStagingCandidate db payload = some true)
    (hid : validatedStagingId payload = some row.id) :
    row.sourceId = some payload.sourceId ∧ payload.rawRef = rawRefOf db row ∧
      payload.dataSourceId = some id ∧ payload.properties.evidenceScope = some .historical := by
  obtain ⟨other, canonical, found, raw, hstaging, hfind, hraw, hmatch⟩ := authorized_staging hauth
  obtain ⟨hfound, hfoundId⟩ := Table.find_eq_some_iff.mp hfind
  have hother : other = row.id := by
    simpa only [validatedStagingId, hstaging, Option.some.injEq] using hid
  have hsame : found = row := Table.eq_of_key_eq hfound hrow (hfoundId.trans hother)
  rw [hsame] at hraw hmatch
  simp only [stagingRowAuthorizes, Bool.and_eq_true, decide_eq_true_eq] at hmatch
  have hsource : row.sourceId = some payload.sourceId := hmatch.1.1.1.1.1.1.1.1.1.1.1.1.2
  have hdata := hmatch.1.1.1.1.1.1.1.1.1.1.1.1.1.2
  have href : some raw.rawRef = payload.rawRef := hmatch.1.1.2
  have hpayload : row.payload = stagingPayload payload.properties := hmatch.2
  refine ⟨hsource, ?_, ?_, ?_⟩
  · rw [rawRefOf, rawSnapshotOf, hraw]
    exact href.symm
  · rw [h.dataSourceId, Option.some_or, Option.some_or] at hdata
    exact hdata.symm
  · have hscope := congrArg Properties.evidenceScope hpayload
    rw [h.historical] at hscope
    exact hscope.symm

theorem SnapshotRow.hasEvidence_of_write {rawRef : String} (traced : Traced db)
    (hcatalogued : IsCatalogued source.adapterKey id db) (hrow : row ∈ db.stagingEvidence)
    (href : rawRefOf db row = some rawRef)
    (hauth : authorizeStagingCandidate db payload = some true)
    (hid : validatedStagingId payload = some row.id) :
    HasEvidence (writeEvidence env now payload db).2 payload.sourceId rawRef := by
  obtain ⟨-, hrawRef, hdata, hscope⟩ := h.of_authorized hrow hauth hid
  have hcurrent : payload.properties.evidenceScope ≠ some .current := by
    rw [hscope]
    simp
  obtain ⟨entry, hentry, hentryId⟩ := hcatalogued
  have hresolved : (resolvedDataSource db payload).isSome := by
    simp only [resolvedDataSource, hdata, List.find?_isSome]
    exact ⟨entry, (Table.find_eq_some_iff.mp hentry).1, by simp [hentryId]⟩
  have hwritten : ∃ stored ∈ (writeEvidence env now payload db).2.evidence,
      stored.sourceRawRef = (payload.sourceId, payload.rawRef) :=
    exists_evidence_of_write hcurrent traced hauth hresolved
  obtain ⟨stored, hstored, hkey⟩ := hwritten
  exact ⟨stored, hstored, by rw [hkey, hrawRef, href]⟩

theorem SnapshotRow.not_settled {payloads : List EvidencePromotionPayload}
    (hrow : row ∈ db.stagingEvidence) : row.id ∉ settledStagingIds env now db payloads := by
  intro hsettled
  obtain ⟨unchanged, -, hid, hunchanged⟩ := exists_unchanged_of_mem_settled hsettled
  obtain ⟨-, -, hcurrent, -, hauth, -⟩ := unchanged_spec hunchanged
  obtain ⟨-, -, -, hscope⟩ := h.of_authorized hrow hauth hid
  have hfalse : shouldUpsertOfficialRealtimeLatest unchanged = false := by
    apply shouldUpsert_of_historical
    rw [hscope]
    simp
  rw [hcurrent] at hfalse
  exact Bool.noConfusion hfalse

end Row

/-! ### The staging row of another candidate -/

theorem writeEvidence_of_unauthorized (h : authorizeStagingCandidate db payload = some false) :
    writeEvidence env now payload db = (none, db) := by
  simp only [writeEvidence, writeEvidenceTransaction, h, if_true]

theorem staging_kept_or_authorized {row : StagingEvidence} (hrow : row ∈ db.stagingEvidence) :
    row ∈ (writeEvidence env now payload db).2.stagingEvidence ∨
      (authorizeStagingCandidate db payload = some true ∧
        validatedStagingId payload = some row.id) := by
  by_cases hid : validatedStagingId payload = some row.id
  · cases hauth : authorizeStagingCandidate db payload with
    | none =>
        have hnone : authorizeStagingCandidate db payload ≠ some false := by
          rw [hauth]
          simp
        have htrue := authorized_of_stagingId hnone hid
        rw [hauth] at htrue
        exact absurd htrue (by simp)
    | some authorized =>
        cases authorized with
        | true => exact Or.inr ⟨rfl, hid⟩
        | false =>
            rw [writeEvidence_of_unauthorized hauth]
            exact Or.inl hrow
  · have hsame := (writeEvidence_frame env now payload db).stagingEvidence row.id hid
    rw [Table.find_eq_some_iff.mpr ⟨hrow, rfl⟩] at hsame
    exact Or.inl (Table.find_eq_some_iff.mp hsame).1

end FloodRisk.Ingestion
