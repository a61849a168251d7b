import FloodRisk.Ingestion.SnapshotRows
import FloodRisk.Promotion.StagedRows
import FloodRisk.Promotion.Withdrawal

/-!
# The stored rows of a complete-replace source

Under a raw reference of the source stand only rows of the snapshot with its
digest, staged or promoted, and a staged row stands until its evidence does.
-/

namespace FloodRisk.Ingestion
open Promotion

variable {env : Environment} {now : ℤ} {payload : EvidencePromotionPayload}
  {source : SnapshotSource} {id : ℕ} {db next : Database}

theorem snapshotRawRef_injective {adapterKey first second : String}
    (h : snapshotRawRef adapterKey first = snapshotRawRef adapterKey second) : first = second := by
  unfold snapshotRawRef at h
  have hprefix := (String.append_left_inj ".json").mp h
  exact (String.append_right_inj _).mp hprefix

/-- The record waits for its promotion under the raw reference. -/
structure Standing (db : Database) (rawRef : String) (row : StagingEvidence) : Prop where
  stored : row ∈ db.stagingEvidence
  accepted : row.validationStatus = .accepted
  rawRef : rawRefOf db row = some rawRef

/-- Every stored row under a raw reference of the source belongs to its snapshot. -/
structure Stocked (source : SnapshotSource) (id : ℕ) (db : Database) : Prop where
  catalogued : IsCatalogued source.adapterKey id db
  rawIds : DistinctRawIds db
  traced : Traced db
  named : ∀ row ∈ db.stagingEvidence, (rawRefOf db row).isSome
  staged : ∀ digest row, Standing db (source.rawRef digest) row →
    SnapshotRow source id digest row
  owned : ∀ stored ∈ db.evidence, ∀ digest, stored.rawRef = some (source.rawRef digest) →
    stored.dataSourceId = id ∧ stored.sourceId ∈ source.sourceIds digest

/-- Evidence stays, and a record of the source stands until its evidence does. -/
structure Advances (source : SnapshotSource) (db next : Database) : Prop where
  evidence : ∀ stored ∈ db.evidence, stored ∈ next.evidence
  standing : ∀ digest row sourceId, Standing db (source.rawRef digest) row →
    row.sourceId = some sourceId →
    Standing next (source.rawRef digest) row ∨ HasEvidence next sourceId (source.rawRef digest)

theorem Advances.refl (source : SnapshotSource) (db : Database) : Advances source db db :=
  ⟨fun _ h => h, fun _ _ _ h _ => Or.inl h⟩

/-! ### Writes outside staging and evidence -/

structure SameRows (db next : Database) : Prop where
  rawSnapshots : next.rawSnapshots = db.rawSnapshots
  stagingEvidence : next.stagingEvidence = db.stagingEvidence
  evidence : next.evidence = db.evidence

theorem SameRows.rawRefOf_eq (same : SameRows db next) (row : StagingEvidence) :
    rawRefOf next row = rawRefOf db row := by
  simp only [rawRefOf, rawSnapshotOf, same.rawSnapshots]

theorem SameRows.standing_iff (same : SameRows db next) {rawRef : String} {row : StagingEvidence} :
    Standing next rawRef row ↔ Standing db rawRef row := by
  constructor
  · intro h
    exact ⟨same.stagingEvidence ▸ h.stored, h.accepted, same.rawRefOf_eq row ▸ h.rawRef⟩
  · intro h
    exact ⟨same.stagingEvidence ▸ h.stored, h.accepted, (same.rawRefOf_eq row).trans h.rawRef⟩

theorem Stocked.of_same (h : Stocked source id db) (same : SameRows db next)
    (hcatalogued : IsCatalogued source.adapterKey id next) : Stocked source id next := by
  refine ⟨hcatalogued, ?_, ?_, ?_, ?_, ?_⟩
  · unfold DistinctRawIds
    rw [same.rawSnapshots]
    exact h.rawIds
  · apply h.traced.grows
    · refine ⟨fun row rawRef href => (same.rawRefOf_eq row).trans href, ?_, ?_⟩
      · exact fun row hrow => ⟨row, same.stagingEvidence ▸ hrow, Or.inl rfl⟩
      · exact fun row hrow => same.evidence ▸ hrow
    · exact fun stored hstored => same.evidence ▸ hstored
  · intro row hrow
    rw [same.stagingEvidence] at hrow
    rw [same.rawRefOf_eq]
    exact h.named row hrow
  · exact fun digest row hrow => h.staged digest row (same.standing_iff.mp hrow)
  · intro stored hstored
    rw [same.evidence] at hstored
    exact h.owned stored hstored

theorem Advances.of_same (same : SameRows db next) : Advances source db next := by
  refine ⟨fun stored hstored => same.evidence ▸ hstored, ?_⟩
  exact fun _ _ _ hrow _ => Or.inl (same.standing_iff.mpr hrow)

/-! ### Staging a poll -/

theorem snapshotRow_of_item (hcatalogued : IsCatalogued source.adapterKey id db)
    {poll : SnapshotPoll} {item : StagingEvidenceUpsert}
    (hitem : item ∈ (source.batch poll).accepted) (rawSnapshotId rowId : ℕ) :
    SnapshotRow source id poll.digest
      (stagedRow rawSnapshotId (dataSourceIdOf db item.adapterKey) item rowId) := by
  obtain ⟨record, hrecord, heq⟩ := List.mem_map.mp hitem
  have hsnapshot := source.acceptedItems poll.digest record hrecord
  obtain ⟨entry, hentry, hid⟩ := hcatalogued
  rw [← heq]
  refine ⟨?_, ?_, ⟨record.sourceId, List.mem_map.mpr ⟨record, hrecord, rfl⟩, rfl⟩, rfl, ?_, ?_, ?_⟩
  · simp only [stagedRow, dataSourceIdOf, hsnapshot.adapterKey, hentry, Option.map_some, hid]
  · simp only [stagedRow, hsnapshot.adapterKey]
  · exact hsnapshot.historical
  · exact hsnapshot.stagingEvidenceId
  · exact hsnapshot.rawSnapshotId

theorem snapshotRow_of_staged (h : Stocked source id db) (poll : CyclePoll source)
    {digest : String} {item : StagingEvidenceUpsert}
    (hitem : item ∈ poll.batch.accepted ++ poll.batch.rejected)
    (haccepted : item.validationStatus = .accepted)
    (href : poll.batch.rawRef = source.rawRef digest) (rawSnapshotId rowId : ℕ) :
    SnapshotRow source id digest
      (stagedRow rawSnapshotId (dataSourceIdOf db item.adapterKey) item rowId) := by
  cases poll with
  | other poll => exact absurd href (poll.elsewhere digest)
  | snapshot poll =>
      have hdigest : poll.digest = digest := snapshotRawRef_injective href
      rcases List.mem_append.mp hitem with hmem | hrejected
      · rw [← hdigest]
        exact snapshotRow_of_item h.catalogued hmem rawSnapshotId rowId
      · have hstatus := source.rejectedItems poll.digest item hrejected
        rw [haccepted] at hstatus
        exact absurd hstatus (by simp)

theorem Stocked.stage (h : Stocked source id db) (poll : CyclePoll source) :
    Stocked source id (writeBatch poll.batch db) := by
  have grows := writeBatch_grows poll.batch db
  refine ⟨?_, h.rawIds.writeBatch poll.batch, ?_, ?_, ?_, ?_⟩
  · obtain ⟨entry, hentry, hid⟩ := h.catalogued
    exact ⟨entry, (writeBatch_dataSources poll.batch db) ▸ hentry, hid⟩
  · apply h.traced.grows grows
    intro stored hstored
    rw [writeBatch_evidence] at hstored
    exact hstored
  · intro row hrow
    rcases staged_cases poll.batch h.rawIds hrow with hold | ⟨item, -, href, -⟩
    · obtain ⟨rawRef, hrawRef⟩ := Option.isSome_iff_exists.mp (h.named row hold)
      rw [grows.rawRefs row rawRef hrawRef]
      rfl
    · rw [href]
      rfl
  · intro digest row hrow
    rcases staged_cases poll.batch h.rawIds hrow.stored with hold | ⟨item, hitem, href, rowId, heq⟩
    · obtain ⟨rawRef, hrawRef⟩ := Option.isSome_iff_exists.mp (h.named row hold)
      have hlater := grows.rawRefs row rawRef hrawRef
      have hsame : rawRef = source.rawRef digest :=
        Option.some.inj (hlater.symm.trans hrow.rawRef)
      exact h.staged digest row ⟨hold, hrow.accepted, hsame ▸ hrawRef⟩
    · have hdigest : poll.batch.rawRef = source.rawRef digest :=
        Option.some.inj (href.symm.trans hrow.rawRef)
      have haccepted : item.validationStatus = .accepted := by
        have hstatus := hrow.accepted
        rw [heq] at hstatus
        exact hstatus
      rw [heq]
      exact snapshotRow_of_staged h poll hitem haccepted hdigest _ rowId
  · intro stored hstored
    rw [writeBatch_evidence] at hstored
    exact h.owned stored hstored

theorem Advances.stage (batch : AdapterStagingBatch) (db : Database) :
    Advances source db (writeBatch batch db) := by
  have grows := writeBatch_grows batch db
  refine ⟨grows.evidence, ?_⟩
  intro digest row sourceId hrow _
  left
  exact ⟨writeBatch_kept batch hrow.stored, hrow.accepted, grows.rawRefs row _ hrow.rawRef⟩

/-! ### Transactions of a promotion -/

theorem Stocked.of_commits (h : Stocked source id db) (commits : Commits db next)
    (before : ∀ row ∈ next.stagingEvidence, ∃ earlier ∈ db.stagingEvidence, StatusMoved earlier row)
    (traced : Traced next)
    (owned : ∀ stored ∈ next.evidence, stored ∉ db.evidence → ∀ digest,
      stored.rawRef = some (source.rawRef digest) →
      stored.dataSourceId = id ∧ stored.sourceId ∈ source.sourceIds digest) :
    Stocked source id next := by
  have hrefs : ∀ row, rawRefOf next row = rawRefOf db row := by
    intro row
    simp only [rawRefOf, rawSnapshotOf, commits.rawSnapshots]
  refine ⟨?_, ?_, traced, ?_, ?_, ?_⟩
  · obtain ⟨entry, hentry, hid⟩ := h.catalogued
    exact ⟨entry, commits.dataSources ▸ hentry, hid⟩
  · unfold DistinctRawIds
    rw [commits.rawSnapshots]
    exact h.rawIds
  · intro row hrow
    obtain ⟨earlier, hearlier, hmoved⟩ := before row hrow
    rw [hrefs, rawRefOf_congr hmoved.columns.2.2]
    exact h.named earlier hearlier
  · intro digest row hrow
    obtain ⟨earlier, hearlier, hmoved⟩ := before row hrow.stored
    rcases hmoved with heq | ⟨-, reason, heq⟩
    · rw [heq] at hrow ⊢
      exact h.staged digest earlier ⟨hearlier, hrow.accepted, hrefs earlier ▸ hrow.rawRef⟩
    · have hstatus := hrow.accepted
      rw [heq] at hstatus
      exact absurd hstatus (by simp)
  · intro stored hstored
    by_cases hold : stored ∈ db.evidence
    · exact h.owned stored hold
    · exact owned stored hstored hold

theorem Stocked.settle (h : Stocked source id db) (env : Environment) (now : ℤ)
    (payloads : List EvidencePromotionPayload) :
    Stocked source id (settleUnchangedObservations env now payloads db).2 := by
  have commits : Commits db (settleUnchangedObservations env now payloads db).2 :=
    Commits.reject (settledStagingIds env now db payloads) .idempotentExistingObservation db
  apply h.of_commits commits
  · exact fun row hrow => exists_before_reject hrow
  · exact h.traced.grows commits.toGrows fun _ hstored => hstored
  · exact fun stored hstored hnew => absurd hstored hnew

theorem Advances.settle (h : Stocked source id db) (env : Environment) (now : ℤ)
    (payloads : List EvidencePromotionPayload) :
    Advances source db (settleUnchangedObservations env now payloads db).2 := by
  refine ⟨fun _ hstored => hstored, ?_⟩
  intro digest row sourceId hrow _
  have hunsettled : row.id ∉ settledStagingIds env now db payloads :=
    (h.staged digest row hrow).not_settled hrow.stored
  have hmem : (if row.id ∈ settledStagingIds env now db payloads then
      rejectStagingRow .idempotentExistingObservation row else row) ∈
      (settleUnchangedObservations env now payloads db).2.stagingEvidence :=
    mem_rejectStagingRows hrow.stored
  rw [if_neg hunsettled] at hmem
  exact Or.inl ⟨hmem, hrow.accepted, hrow.rawRef⟩

theorem authorized_accepted {row : StagingEvidence}
    (hauth : authorizeStagingCandidate db payload = some true) (hrow : row ∈ db.stagingEvidence)
    (hid : validatedStagingId payload = some row.id) : row.validationStatus = .accepted := by
  obtain ⟨other, canonical, found, raw, hstaging, hfind, -, hmatch⟩ := authorized_staging hauth
  obtain ⟨hfound, hfoundId⟩ := Table.find_eq_some_iff.mp hfind
  have hother : other = row.id := by
    simpa only [validatedStagingId, hstaging, Option.some.injEq] using hid
  have hsame : found = row := Table.eq_of_key_eq hfound hrow (hfoundId.trans hother)
  by_contra hclosed
  rw [hsame, authorizes_accepted hclosed] at hmatch
  exact Bool.noConfusion hmatch

theorem owned_of_write (h : Stocked source id db) (hid : (validatedStagingId payload).isSome)
    {stored : Evidence} (hstored : stored ∈ (writeEvidence env now payload db).2.evidence)
    (hnew : stored ∉ db.evidence) {digest : String}
    (href : stored.rawRef = some (source.rawRef digest)) :
    stored.dataSourceId = id ∧ stored.sourceId ∈ source.sourceIds digest := by
  rcases mem_evidence_of_write hstored with hold | ⟨reaches, entry, hresolved, heq⟩
  · exact absurd hold hnew
  obtain ⟨rowId, hrowId⟩ := Option.isSome_iff_exists.mp hid
  have hauth := authorized_of_stagingId reaches.authorization hrowId
  have same := weighted_same env payload db
  have hkey := same.sourceRawRef_eq entry (freshId (db.evidence.rows.map Evidence.id))
  rw [← heq] at hkey
  obtain ⟨hsourceId, hrawRef⟩ := Prod.mk.inj hkey
  obtain ⟨row, hrow, hown, hsource, -, hplace⟩ := authorized_row hauth hrowId
  have hstanding : Standing db (source.rawRef digest) row := by
    refine ⟨hrow, authorized_accepted hauth hrow (hrowId.trans (congrArg some hown.symm)), ?_⟩
    rw [← hplace, ← hrawRef, href]
  have hsnapshot := h.staged digest row hstanding
  obtain ⟨-, -, hdata, -⟩ := hsnapshot.of_authorized hrow hauth (hrowId.trans (congrArg some hown.symm))
  constructor
  · simp only [resolvedDataSource, hdata] at hresolved
    have hentry := List.find?_some hresolved
    rw [heq]
    exact of_decide_eq_true hentry
  · obtain ⟨sourceId, hmem, hsame⟩ := hsnapshot.sourceId
    rw [hsource] at hsame
    rw [hsourceId, Option.some.inj hsame]
    exact hmem

theorem Stocked.write (h : Stocked source id db) (hid : (validatedStagingId payload).isSome)
    (env : Environment) (now : ℤ) : Stocked source id (writeEvidence env now payload db).2 := by
  apply h.of_commits (Commits.write env now payload db)
  · exact fun row hrow => exists_before_write hrow
  · exact h.traced.write env now payload
  · exact fun stored hstored hnew digest href => owned_of_write h hid hstored hnew href

theorem Advances.write (h : Stocked source id db) (env : Environment) (now : ℤ)
    (payload : EvidencePromotionPayload) :
    Advances source db (writeEvidence env now payload db).2 := by
  refine ⟨fun _ hstored => evidence_subset_write hstored, ?_⟩
  intro digest row sourceId hrow hsource
  have hsnapshot := h.staged digest row hrow
  have hcases : row ∈ (writeEvidence env now payload db).2.stagingEvidence ∨
      (authorizeStagingCandidate db payload = some true ∧
        validatedStagingId payload = some row.id) := staging_kept_or_authorized hrow.stored
  rcases hcases with hkept | ⟨hauth, hid⟩
  · left
    exact ⟨hkept, hrow.accepted, (Commits.write env now payload db).rawRefs row _ hrow.rawRef⟩
  · right
    obtain ⟨hown, -⟩ := hsnapshot.of_authorized hrow.stored hauth hid
    have hsame : payload.sourceId = sourceId := Option.some.inj (hown.symm.trans hsource)
    rw [← hsame]
    exact hsnapshot.hasEvidence_of_write h.traced h.catalogued hrow.stored hrow.rawRef hauth hid

end FloodRisk.Ingestion
