import FloodRisk.Promotion.Settlement

/-!
# The rows of a staged poll and of a fetch

`write_batch` stores one staging row for each item, under the raw snapshot of
the poll; a fetch without limit leaves out no row that is ready.
-/

namespace FloodRisk.Promotion

variable {env : Environment} {now : ℤ} {payload : EvidencePromotionPayload}
  {db next : Database}

/-! ### Raw snapshots -/

/-- `raw_snapshots.id` is the primary key of the table. -/
def DistinctRawIds (db : Database) : Prop := (db.rawSnapshots.rows.map RawSnapshot.id).Nodup

theorem DistinctRawIds.rawRefOf_eq (h : DistinctRawIds db) {raw : RawSnapshot}
    (hraw : raw ∈ db.rawSnapshots) {row : StagingEvidence} (hrow : row.rawSnapshotId = some raw.id) :
    rawRefOf db row = some raw.rawRef := by
  have hfind : (⟨db.rawSnapshots.rows, h⟩ : Table RawSnapshot.id).find raw.id = some raw :=
    Table.find_eq_some_iff.mpr ⟨hraw, rfl⟩
  have hpred : (fun other : RawSnapshot => decide (some other.id = row.rawSnapshotId)) =
      fun other => decide (other.id = raw.id) := by
    funext other
    simp only [hrow, Option.some.injEq]
  rw [rawRefOf, rawSnapshotOf, hpred]
  exact congrArg (Option.map RawSnapshot.rawRef) hfind

theorem upsertRawSnapshot_stored (batch : AdapterStagingBatch) (h : DistinctRawIds db) :
    DistinctRawIds (upsertRawSnapshot batch db).2 ∧
      ∃ raw ∈ (upsertRawSnapshot batch db).2.rawSnapshots,
        raw.id = (upsertRawSnapshot batch db).1 ∧ raw.rawRef = batch.rawRef := by
  unfold upsertRawSnapshot DistinctRawIds
  cases hfind : db.rawSnapshots.find batch.rawRef with
  | some stored =>
      obtain ⟨hstored, hkey⟩ := Table.find_eq_some_iff.mp hfind
      constructor
      · have hid : RawSnapshot.id ∘ (fun row : RawSnapshot =>
            if row.rawRef = batch.rawRef then
              { row with
                dataSourceId := (dataSourceIdOf db batch.adapterKey).or row.dataSourceId }
            else row) = RawSnapshot.id := by
          funext row
          simp only [Function.comp_apply]
          split <;> rfl
        simp only [Table.update, List.map_map, hid]
        exact h
      · refine ⟨_, List.mem_map.mpr ⟨stored, hstored, rfl⟩, ?_, ?_⟩
        · simp only [hkey, if_true]
        · simp only [hkey, if_true]
  | none =>
      have hfree := Table.find_eq_none_iff.mp hfind
      have hnew : batch.rawRef ∉ db.rawSnapshots.rows.map RawSnapshot.rawRef := by
        intro hmem
        obtain ⟨stored, hstored, hkey⟩ := List.mem_map.mp hmem
        exact hfree stored hstored hkey
      have hfresh := freshId_not_mem (db.rawSnapshots.rows.map RawSnapshot.id)
      simp only [Table.upsertWhen, Table.insertNew, hnew, dif_neg, not_false_eq_true]
      constructor
      · rw [List.map_append, List.map_singleton, List.nodup_append]
        refine ⟨h, List.nodup_singleton _, ?_⟩
        intro id hid other hother heq
        have hsame : id = freshId (db.rawSnapshots.rows.map RawSnapshot.id) :=
          heq.trans (List.mem_singleton.mp hother)
        exact hfresh (hsame ▸ hid)
      · exact ⟨_, List.mem_append_right _ List.mem_cons_self, rfl, rfl⟩

/-! ### Staged rows -/

/-- The row that `_insert_staging_evidence` stores for an item. -/
def stagedRow (rawSnapshotId : ℕ) (dataSourceId : Option ℕ) (item : StagingEvidenceUpsert)
    (id : ℕ) : StagingEvidence where
  id := id
  rawSnapshotId := some rawSnapshotId
  dataSourceId := dataSourceId
  sourceId := some item.sourceId
  sourceType := item.sourceType
  eventType := item.eventType
  title := item.title
  summary := item.summary
  url := item.url
  occurredAt := some item.occurredAt
  observedAt := some item.observedAt
  confidence := some item.confidence
  validationStatus := item.validationStatus
  rejectionReason := item.rejectionReason
  payload := { item.payload with adapterKey := some item.adapterKey }

theorem mem_insertStagingEvidence {rawSnapshotId : ℕ} {item : StagingEvidenceUpsert}
    {row : StagingEvidence} :
    row ∈ (insertStagingEvidence rawSnapshotId db item).stagingEvidence ↔
      row = stagedRow rawSnapshotId (dataSourceIdOf db item.adapterKey) item
        (freshId (db.stagingEvidence.rows.map StagingEvidence.id)) ∨
      row ∈ db.stagingEvidence := by
  have hfresh := freshId_not_mem (db.stagingEvidence.rows.map StagingEvidence.id)
  constructor
  · intro h
    rcases Table.mem_upsertWhen.mp h with ⟨heq, -⟩ | ⟨hold, -⟩
    · exact Or.inl heq
    · exact Or.inr hold
  · intro h
    apply Table.mem_upsertWhen.mpr
    rcases h with heq | hold
    · left
      refine ⟨heq, ?_⟩
      intro other hother hid
      exact absurd (List.mem_map.mpr ⟨other, hother, hid⟩) hfresh
    · exact Or.inr ⟨hold, by simp⟩

/-- What staging items under one raw snapshot does. -/
structure StagesItems (rawSnapshotId : ℕ) (items : List StagingEvidenceUpsert)
    (db next : Database) : Prop where
  dataSources : next.dataSources = db.dataSources
  rawSnapshots : next.rawSnapshots = db.rawSnapshots
  kept : ∀ row ∈ db.stagingEvidence, row ∈ next.stagingEvidence
  made : ∀ item ∈ items, ∃ id,
    stagedRow rawSnapshotId (dataSourceIdOf db item.adapterKey) item id ∈ next.stagingEvidence
  only : ∀ row ∈ next.stagingEvidence, row ∈ db.stagingEvidence ∨ ∃ item ∈ items, ∃ id,
    row = stagedRow rawSnapshotId (dataSourceIdOf db item.adapterKey) item id

theorem foldl_stages (rawSnapshotId : ℕ) (items : List StagingEvidenceUpsert) (db : Database) :
    StagesItems rawSnapshotId items db
      (items.foldl (insertStagingEvidence rawSnapshotId) db) := by
  induction items generalizing db with
  | nil => exact ⟨rfl, rfl, fun _ h => h, by simp, fun _ h => Or.inl h⟩
  | cons item rest ih =>
      have hrest := ih (insertStagingEvidence rawSnapshotId db item)
      -- the catalogue is the same for every item of the poll
      have hsources : ∀ key, dataSourceIdOf (insertStagingEvidence rawSnapshotId db item) key =
          dataSourceIdOf db key := fun _ => rfl
      refine ⟨hrest.dataSources, hrest.rawSnapshots, ?_, ?_, ?_⟩
      · intro row hrow
        exact hrest.kept row (mem_insertStagingEvidence.mpr (Or.inr hrow))
      · intro other hother
        rcases List.mem_cons.mp hother with heq | hlater
        · rw [heq]
          exact ⟨_, hrest.kept _ (mem_insertStagingEvidence.mpr (Or.inl rfl))⟩
        · exact hrest.made other hlater
      · intro row hrow
        rcases hrest.only row hrow with hstored | ⟨other, hother, id, heq⟩
        · rcases mem_insertStagingEvidence.mp hstored with heq | hold
          · exact Or.inr ⟨item, List.mem_cons_self, _, heq⟩
          · exact Or.inl hold
        · exact Or.inr ⟨other, List.mem_cons_of_mem item hother, id, heq⟩

theorem upsertRawSnapshot_dataSources (batch : AdapterStagingBatch) (db : Database) :
    (upsertRawSnapshot batch db).2.dataSources = db.dataSources := by
  unfold upsertRawSnapshot
  cases db.rawSnapshots.find batch.rawRef <;> rfl

theorem upsertRawSnapshot_stagingEvidence (batch : AdapterStagingBatch) (db : Database) :
    (upsertRawSnapshot batch db).2.stagingEvidence = db.stagingEvidence := by
  unfold upsertRawSnapshot
  cases db.rawSnapshots.find batch.rawRef <;> rfl

theorem writeBatch_stages (batch : AdapterStagingBatch) (db : Database) :
    StagesItems (upsertRawSnapshot batch db).1 (batch.accepted ++ batch.rejected)
      (upsertRawSnapshot batch db).2 (writeBatch batch db) :=
  foldl_stages _ _ _

theorem writeBatch_dataSources (batch : AdapterStagingBatch) (db : Database) :
    (writeBatch batch db).dataSources = db.dataSources :=
  (writeBatch_stages batch db).dataSources.trans (upsertRawSnapshot_dataSources batch db)

theorem DistinctRawIds.writeBatch (h : DistinctRawIds db) (batch : AdapterStagingBatch) :
    DistinctRawIds (writeBatch batch db) := by
  unfold DistinctRawIds
  rw [(writeBatch_stages batch db).rawSnapshots]
  exact (upsertRawSnapshot_stored batch h).1

section Poll

variable (batch : AdapterStagingBatch) (h : DistinctRawIds db)
include h

theorem rawRefOf_stagedRow (dataSourceId : Option ℕ) (item : StagingEvidenceUpsert) (id : ℕ) :
    rawRefOf (writeBatch batch db)
      (stagedRow (upsertRawSnapshot batch db).1 dataSourceId item id) = some batch.rawRef := by
  obtain ⟨-, raw, hraw, hid, href⟩ := upsertRawSnapshot_stored batch h
  rw [← (writeBatch_stages batch db).rawSnapshots] at hraw
  rw [← href]
  apply (h.writeBatch batch).rawRefOf_eq hraw
  rw [hid]
  rfl

theorem exists_staged {item : StagingEvidenceUpsert}
    (hitem : item ∈ batch.accepted ++ batch.rejected) :
    ∃ row ∈ (writeBatch batch db).stagingEvidence,
      rawRefOf (writeBatch batch db) row = some batch.rawRef ∧
        row.sourceId = some item.sourceId ∧ row.validationStatus = item.validationStatus := by
  obtain ⟨id, hrow⟩ := (writeBatch_stages batch db).made item hitem
  exact ⟨_, hrow, rawRefOf_stagedRow batch h _ item id, rfl, rfl⟩

theorem staged_cases {row : StagingEvidence} (hrow : row ∈ (writeBatch batch db).stagingEvidence) :
    row ∈ db.stagingEvidence ∨ ∃ item ∈ batch.accepted ++ batch.rejected,
      rawRefOf (writeBatch batch db) row = some batch.rawRef ∧
        ∃ id, row = stagedRow (upsertRawSnapshot batch db).1
          (dataSourceIdOf db item.adapterKey) item id := by
  rcases (writeBatch_stages batch db).only row hrow with hstored | ⟨item, hitem, id, heq⟩
  · rw [upsertRawSnapshot_stagingEvidence] at hstored
    exact Or.inl hstored
  · right
    rw [dataSourceIdOf, upsertRawSnapshot_dataSources] at heq
    exact ⟨item, hitem, heq ▸ rawRefOf_stagedRow batch h _ item id, id, heq⟩

end Poll

theorem writeBatch_kept (batch : AdapterStagingBatch) {row : StagingEvidence}
    (hrow : row ∈ db.stagingEvidence) : row ∈ (writeBatch batch db).stagingEvidence := by
  apply (writeBatch_stages batch db).kept
  rw [upsertRawSnapshot_stagingEvidence]
  exact hrow

/-! ### Rows before a transaction -/

theorem exists_before_reject {ids : List ℕ} {reason : RejectionReason} {row : StagingEvidence}
    (h : row ∈ (rejectStagingRows ids reason db).stagingEvidence) :
    ∃ before ∈ db.stagingEvidence, StatusMoved before row := by
  obtain ⟨before, hbefore, heq⟩ := List.mem_map.mp h
  refine ⟨before, hbefore, ?_⟩
  rw [← heq]
  split
  · exact StatusMoved.reject reason before
  · exact Or.inl rfl

theorem exists_before_terminallyReject {reason : RejectionReason} {authorized : Bool}
    {row : StagingEvidence} (same : SameOutsideLatest db next)
    (h : row ∈ (terminallyRejectStaging payload reason authorized next).stagingEvidence) :
    ∃ before ∈ db.stagingEvidence, StatusMoved before row := by
  rw [← same.stagingEvidence]
  rcases terminallyRejectStaging_eq payload reason authorized next with heq | ⟨id, -, heq⟩
  · rw [heq] at h
    exact ⟨row, h, Or.inl rfl⟩
  · rw [heq] at h
    exact exists_before_reject h

theorem exists_before_write {row : StagingEvidence}
    (h : row ∈ (writeEvidence env now payload db).2.stagingEvidence) :
    ∃ before ∈ db.stagingEvidence, StatusMoved before row := by
  revert h
  refine writeEvidence_cases (motive := fun result =>
    row ∈ result.2.stagingEvidence → ∃ before ∈ db.stagingEvidence, StatusMoved before row)
    ?_ ?_ ?_ ?_ ?_ ?_
  · exact fun _ h => ⟨row, h, Or.inl rfl⟩
  · intro reason _ h
    refine exists_before_terminallyReject ?_ h
    split
    · exact SameOutsideLatest.retireInactive payload db
    · exact SameOutsideLatest.refl db
  · exact fun _ _ h => ⟨row, h, Or.inl rfl⟩
  · intro reason settled _ _ _ hsettled h
    exact exists_before_terminallyReject (SameOutsideLatest.settle hsettled) h
  · intro reason _ h
    exact exists_before_terminallyReject (SameOutsideLatest.duplicate env payload db) h
  · intro source evidence promote _ _ h
    rw [(publishedDatabase_frame env payload db evidence promote).stagingEvidence] at h
    exact ⟨row, h, Or.inl rfl⟩

/-! ### A fetch without limit -/

theorem exists_distinctOn {payloads : List EvidencePromotionPayload}
    {seen : List (String × Option String)} (h : payload ∈ payloads)
    (hunseen : (payload.sourceId, payload.rawRef) ∉ seen) :
    ∃ kept ∈ distinctOn seen payloads,
      (kept.sourceId, kept.rawRef) = (payload.sourceId, payload.rawRef) := by
  induction payloads generalizing seen with
  | nil => exact absurd h List.not_mem_nil
  | cons first rest ih =>
      by_cases hseen : (first.sourceId, first.rawRef) ∈ seen
      · have hrest : payload ∈ rest := by
          rcases List.mem_cons.mp h with heq | hrest
          · rw [← heq] at hseen
            exact absurd hseen hunseen
          · exact hrest
        simp only [distinctOn, hseen, if_true]
        exact ih hrest hunseen
      · simp only [distinctOn, hseen, if_false]
        by_cases hsame : (first.sourceId, first.rawRef) = (payload.sourceId, payload.rawRef)
        · exact ⟨first, List.mem_cons_self, hsame⟩
        · have hrest : payload ∈ rest := by
            rcases List.mem_cons.mp h with heq | hrest
            · exact absurd (by rw [heq]) hsame
            · exact hrest
          have hlater : (payload.sourceId, payload.rawRef) ∉
              (first.sourceId, first.rawRef) :: seen := by
            intro hmem
            rcases List.mem_cons.mp hmem with heq | hold
            · exact hsame heq.symm
            · exact hunseen hold
          obtain ⟨kept, hkept, hkey⟩ := ih hrest hlater
          exact ⟨kept, List.mem_cons_of_mem first hkept, hkey⟩

/-- A ready row is fetched, or another one with its source id and raw reference. -/
theorem exists_fetched {adapterKeys rawRefs : Option (List String)} {row : StagingEvidence}
    (hrow : row ∈ db.stagingEvidence)
    (hready : isReadyForPromotion db adapterKeys rawRefs row = true) :
    ∃ fetched ∈ fetchAcceptedStaging none adapterKeys rawRefs db,
      fetched.sourceId = row.sourceId.getD "None" ∧ fetched.rawRef = rawRefOf db row := by
  have hmade : candidatePayload db row ∈ (db.stagingEvidence.rows.filter
      (isReadyForPromotion db adapterKeys rawRefs)).map (candidatePayload db) :=
    List.mem_map.mpr ⟨row, List.mem_filter.mpr ⟨hrow, hready⟩, rfl⟩
  have hunseen : ((candidatePayload db row).sourceId, (candidatePayload db row).rawRef) ∉
      ([] : List (String × Option String)) := List.not_mem_nil
  obtain ⟨kept, hkept, hkey⟩ := exists_distinctOn hmade hunseen
  obtain ⟨hsource, href⟩ := Prod.mk.inj hkey
  exact ⟨kept, (List.perm_insertionSort _ _).mem_iff.mpr hkept, hsource, href⟩

theorem flatten_chunksOf {size fuel : ℕ} (hsize : 0 < size)
    {payloads : List EvidencePromotionPayload} (hfuel : payloads.length ≤ fuel) :
    (chunksOf size fuel payloads).flatten = payloads := by
  induction fuel generalizing payloads with
  | zero =>
      have hnil : payloads = [] := List.length_eq_zero_iff.mp (by omega)
      rw [hnil]
      rfl
  | succ fuel ih =>
      cases payloads with
      | nil => rfl
      | cons first rest =>
          have hshort : ((first :: rest).drop size).length ≤ fuel := by
            rw [List.length_drop]
            simp only [List.length_cons] at hfuel ⊢
            omega
          have hrest := ih hshort
          simp only [chunksOf, List.flatten_cons, hrest, List.take_append_drop]

end FloodRisk.Promotion
