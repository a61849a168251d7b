import FloodRisk.Promotion.Pending
import FloodRisk.Promotion.Staging

/-!
# Staging rows that are done with

A transaction of an authorised candidate leaves its staging row rejected, or
leaves an evidence row under the source id and the raw reference that the fetch
looks for.  Neither is undone by a later write or by the staging of a poll.
-/

namespace FloodRisk.Promotion

variable {env : Environment} {now : ℤ} {payload : EvidencePromotionPayload}
  {db next : Database}

/-! ### What the tables keep -/

def rawRefOf (db : Database) (row : StagingEvidence) : Option String :=
  (rawSnapshotOf db row).map RawSnapshot.rawRef

/-- A staging row is as it was, or it was accepted and is now rejected. -/
def StatusMoved (before after : StagingEvidence) : Prop :=
  after = before ∨ (before.validationStatus = .accepted ∧ ∃ reason,
    after = { before with validationStatus := .rejected, rejectionReason := some reason })

/-- Rows stay, raw references stay, and staging rows change by a rejection only. -/
structure Grows (db next : Database) : Prop where
  rawRefs : ∀ row rawRef, rawRefOf db row = some rawRef → rawRefOf next row = some rawRef
  staging : ∀ row ∈ db.stagingEvidence, ∃ later ∈ next.stagingEvidence, StatusMoved row later
  evidence : ∀ row ∈ db.evidence, row ∈ next.evidence

theorem StatusMoved.trans {first second third : StagingEvidence} (h : StatusMoved first second)
    (k : StatusMoved second third) : StatusMoved first third := by
  rcases h with heq | ⟨haccepted, reason, heq⟩
  · rw [heq] at k
    exact k
  · rcases k with hsame | ⟨hsecond, -⟩
    · exact Or.inr ⟨haccepted, reason, hsame.trans heq⟩
    · rw [heq] at hsecond
      exact absurd hsecond (by simp)

theorem StatusMoved.columns {before after : StagingEvidence} (h : StatusMoved before after) :
    after.id = before.id ∧ after.sourceId = before.sourceId ∧
      after.rawSnapshotId = before.rawSnapshotId := by
  rcases h with heq | ⟨-, reason, heq⟩ <;> rw [heq] <;> exact ⟨rfl, rfl, rfl⟩

theorem StatusMoved.not_accepted {before after : StagingEvidence} (h : StatusMoved before after)
    (hclosed : before.validationStatus ≠ .accepted) : after.validationStatus ≠ .accepted := by
  rcases h with heq | ⟨haccepted, -⟩
  · rw [heq]
    exact hclosed
  · exact absurd haccepted hclosed

theorem StatusMoved.reject (reason : RejectionReason) (row : StagingEvidence) :
    StatusMoved row (rejectStagingRow reason row) := by
  unfold rejectStagingRow
  split
  · rename_i haccepted
    exact Or.inr ⟨haccepted, _, rfl⟩
  · exact Or.inl rfl

theorem rawRefOf_congr {row later : StagingEvidence}
    (h : later.rawSnapshotId = row.rawSnapshotId) : rawRefOf db later = rawRefOf db row := by
  simp only [rawRefOf, rawSnapshotOf, h]

namespace Grows

theorem refl (db : Database) : Grows db db :=
  ⟨fun _ _ h => h, fun row hrow => ⟨row, hrow, Or.inl rfl⟩, fun _ h => h⟩

theorem trans {first second third : Database} (h : Grows first second) (k : Grows second third) :
    Grows first third := by
  refine ⟨fun row rawRef href => k.rawRefs row rawRef (h.rawRefs row rawRef href), ?_,
    fun row hrow => k.evidence row (h.evidence row hrow)⟩
  intro row hrow
  obtain ⟨middle, hmiddle, hfirst⟩ := h.staging row hrow
  obtain ⟨later, hlater, hsecond⟩ := k.staging middle hmiddle
  exact ⟨later, hlater, hfirst.trans hsecond⟩

end Grows

/-! ### Staging a poll -/

theorem upsertRawSnapshot_grows (batch : AdapterStagingBatch) (db : Database) :
    Grows db (upsertRawSnapshot batch db).2 := by
  unfold upsertRawSnapshot
  cases hfind : db.rawSnapshots.find batch.rawRef with
  | some stored =>
      refine ⟨?_, fun row hrow => ⟨row, hrow, Or.inl rfl⟩, fun _ h => h⟩
      intro row rawRef href
      have hid : ∀ raw : RawSnapshot, (if raw.rawRef = batch.rawRef then
          { raw with dataSourceId := (dataSourceIdOf db batch.adapterKey).or raw.dataSourceId }
          else raw).id = raw.id := by
        intro raw
        split <;> rfl
      have hraw : ∀ raw : RawSnapshot, (if raw.rawRef = batch.rawRef then
          { raw with dataSourceId := (dataSourceIdOf db batch.adapterKey).or raw.dataSourceId }
          else raw).rawRef = raw.rawRef := by
        intro raw
        split <;> rfl
      simp only [rawRefOf, rawSnapshotOf, Table.update, List.find?_map, Function.comp_def, hid,
        Option.map_map, hraw]
      exact href
  | none =>
      refine ⟨?_, fun row hrow => ⟨row, hrow, Or.inl rfl⟩, fun _ h => h⟩
      intro row rawRef href
      obtain ⟨raw, hraw, heq⟩ := Option.map_eq_some_iff.mp href
      have hfree := Table.find_eq_none_iff.mp hfind
      have hnew : batch.rawRef ∉ db.rawSnapshots.rows.map RawSnapshot.rawRef := by
        intro hmem
        obtain ⟨stored, hstored, hkey⟩ := List.mem_map.mp hmem
        exact hfree stored hstored hkey
      simp only [rawRefOf, rawSnapshotOf, Table.upsertWhen, Table.insertNew, hnew, dif_neg,
        not_false_eq_true, List.find?_append]
      rw [rawSnapshotOf] at hraw
      rw [hraw, Option.some_or, Option.map_some, heq]

theorem insertStagingEvidence_grows (rawSnapshotId : ℕ) (db : Database)
    (item : StagingEvidenceUpsert) : Grows db (insertStagingEvidence rawSnapshotId db item) := by
  refine ⟨fun _ _ h => h, ?_, fun _ h => h⟩
  intro row hrow
  refine ⟨row, Table.mem_upsertWhen.mpr (Or.inr ⟨hrow, ?_⟩), Or.inl rfl⟩
  intro hsuperseded
  exact absurd hsuperseded.2 (by simp)

theorem writeBatch_grows (batch : AdapterStagingBatch) (db : Database) :
    Grows db (writeBatch batch db) := by
  have hfold : ∀ items : List StagingEvidenceUpsert, ∀ stored : Database,
      Grows stored (items.foldl (insertStagingEvidence (upsertRawSnapshot batch db).1) stored) := by
    intro items
    induction items with
    | nil => exact fun stored => Grows.refl stored
    | cons item rest ih =>
        intro stored
        have hfirst := insertStagingEvidence_grows (upsertRawSnapshot batch db).1 stored item
        exact hfirst.trans (ih _)
  exact (upsertRawSnapshot_grows batch db).trans (hfold _ _)

theorem writeBatch_evidence (batch : AdapterStagingBatch) (db : Database) :
    (writeBatch batch db).evidence = db.evidence := by
  have hfold : ∀ items : List StagingEvidenceUpsert, ∀ stored : Database,
      (items.foldl (insertStagingEvidence (upsertRawSnapshot batch db).1) stored).evidence =
        stored.evidence := by
    intro items
    induction items with
    | nil => exact fun _ => rfl
    | cons item rest ih => exact fun stored => ih _
  have hupsert : (upsertRawSnapshot batch db).2.evidence = db.evidence := by
    unfold upsertRawSnapshot
    split <;> rfl
  exact (hfold _ _).trans hupsert

/-! ### Transactions of the writer -/

theorem mem_rejectStagingRows {ids : List ℕ} {reason : RejectionReason} {row : StagingEvidence}
    (h : row ∈ db.stagingEvidence) :
    (if row.id ∈ ids then rejectStagingRow reason row else row) ∈
      (rejectStagingRows ids reason db).stagingEvidence :=
  List.mem_map.mpr ⟨row, h, rfl⟩

/-- What every transaction of the promotion writer has in common. -/
structure Commits (db next : Database) : Prop extends Grows db next where
  dataSources : next.dataSources = db.dataSources
  rawSnapshots : next.rawSnapshots = db.rawSnapshots

namespace Commits

theorem of_tables (hsources : next.dataSources = db.dataSources)
    (hraw : next.rawSnapshots = db.rawSnapshots)
    (hstaging : ∀ row ∈ db.stagingEvidence, ∃ later ∈ next.stagingEvidence, StatusMoved row later)
    (hevidence : ∀ row ∈ db.evidence, row ∈ next.evidence) : Commits db next := by
  refine ⟨⟨?_, hstaging, hevidence⟩, hsources, hraw⟩
  intro row rawRef href
  simpa only [rawRefOf, rawSnapshotOf, hraw] using href

theorem of_sameOutsideLatest (h : SameOutsideLatest db next) : Commits db next := by
  apply of_tables h.dataSources h.rawSnapshots
  · intro row hrow
    exact ⟨row, h.stagingEvidence ▸ hrow, Or.inl rfl⟩
  · intro row hrow
    exact h.evidence ▸ hrow

theorem trans {first second third : Database} (h : Commits first second)
    (k : Commits second third) : Commits first third :=
  ⟨h.toGrows.trans k.toGrows, k.dataSources.trans h.dataSources,
    k.rawSnapshots.trans h.rawSnapshots⟩

theorem reject (ids : List ℕ) (reason : RejectionReason) (db : Database) :
    Commits db (rejectStagingRows ids reason db) := by
  refine of_tables rfl rfl ?_ ?_
  · intro row hrow
    refine ⟨_, mem_rejectStagingRows hrow, ?_⟩
    split
    · exact StatusMoved.reject reason row
    · exact Or.inl rfl
  · exact fun _ h => h

theorem terminallyReject (payload : EvidencePromotionPayload) (reason : RejectionReason)
    (authorized : Bool) (db : Database) :
    Commits db (terminallyRejectStaging payload reason authorized db) := by
  rcases terminallyRejectStaging_eq payload reason authorized db with heq | ⟨id, -, heq⟩
  · rw [heq]
    exact of_sameOutsideLatest (SameOutsideLatest.refl db)
  · rw [heq]
    exact reject [id] reason db

theorem write (env : Environment) (now : ℤ) (payload : EvidencePromotionPayload)
    (db : Database) : Commits db (writeEvidence env now payload db).2 := by
  refine writeEvidence_cases (motive := fun result => Commits db result.2) ?_ ?_ ?_ ?_ ?_ ?_
  · exact fun _ => of_sameOutsideLatest (SameOutsideLatest.refl db)
  · intro reason _
    refine trans ?_ (terminallyReject payload reason _ _)
    split
    · exact of_sameOutsideLatest (SameOutsideLatest.retireInactive payload db)
    · exact of_sameOutsideLatest (SameOutsideLatest.refl db)
  · exact fun _ _ => of_sameOutsideLatest (SameOutsideLatest.refl db)
  · intro reason settled _ _ _ hsettled
    exact trans (of_sameOutsideLatest (SameOutsideLatest.settle hsettled))
      (terminallyReject payload reason _ _)
  · intro reason _
    exact trans (of_sameOutsideLatest (SameOutsideLatest.duplicate env payload db))
      (terminallyReject payload reason _ _)
  · intro source evidence promote _ inserts
    have stored : Commits db { db with evidence := evidence } := by
      refine of_tables rfl rfl ?_ ?_
      · exact fun row hrow => ⟨row, hrow, Or.inl rfl⟩
      · exact fun row hrow => (Table.mem_of_insertNew inserts.inserted).mpr (Or.inl hrow)
    exact trans stored
      (of_sameOutsideLatest (publishedDatabase_frame env payload db evidence promote))

end Commits

/-! ### Staging rows that no fetch returns -/

/-- The evidence row has the source id of the staging row and the raw reference
of its snapshot. -/
def isEvidenceOf (db : Database) (row : StagingEvidence) (stored : Evidence) : Prop :=
  some stored.sourceId = row.sourceId ∧ stored.rawRef.isSome ∧ stored.rawRef = rawRefOf db row

def Spent (db : Database) (id : ℕ) : Prop :=
  ∃ row ∈ db.stagingEvidence, row.id = id ∧
    (row.validationStatus ≠ .accepted ∨ ∃ stored ∈ db.evidence, isEvidenceOf db row stored)

theorem isEvidenceOf.grows {row later : StagingEvidence} {stored : Evidence}
    (h : isEvidenceOf db row stored) (grows : Grows db next) (moved : StatusMoved row later) :
    isEvidenceOf next later stored := by
  obtain ⟨hsource, hsome, href⟩ := h
  obtain ⟨-, hsourceId, hrawSnapshot⟩ := moved.columns
  obtain ⟨rawRef, hrawRef⟩ := Option.isSome_iff_exists.mp hsome
  have hkept := grows.rawRefs row rawRef (href.symm.trans hrawRef)
  refine ⟨hsource.trans hsourceId.symm, hsome, ?_⟩
  rw [rawRefOf_congr hrawSnapshot, hkept, hrawRef]

theorem Spent.grows {id : ℕ} (h : Spent db id) (grows : Grows db next) : Spent next id := by
  obtain ⟨row, hrow, hid, hdone⟩ := h
  obtain ⟨later, hlater, hmoved⟩ := grows.staging row hrow
  refine ⟨later, hlater, hmoved.columns.1.trans hid, ?_⟩
  rcases hdone with hclosed | ⟨stored, hstored, hevidence⟩
  · exact Or.inl (hmoved.not_accepted hclosed)
  · exact Or.inr ⟨stored, grows.evidence stored hstored, hevidence.grows grows hmoved⟩

theorem mem_distinctOn {payloads : List EvidencePromotionPayload}
    {seen : List (String × Option String)} (h : payload ∈ distinctOn seen payloads) :
    payload ∈ payloads := by
  induction payloads generalizing seen with
  | nil => simp [distinctOn] at h
  | cons first rest ih =>
      simp only [distinctOn] at h
      split at h
      · exact List.mem_cons_of_mem first (ih h)
      · rcases List.mem_cons.mp h with heq | hrest
        · rw [heq]
          exact List.mem_cons_self
        · exact List.mem_cons_of_mem first (ih hrest)

theorem exists_ready_of_fetched {limit : Option ℕ} {adapterKeys rawRefs : Option (List String)}
    (h : payload ∈ fetchAcceptedStaging limit adapterKeys rawRefs db) :
    ∃ row ∈ db.stagingEvidence, isReadyForPromotion db adapterKeys rawRefs row = true ∧
      payload = candidatePayload db row := by
  have hordered : payload ∈ (distinctOn [] ((db.stagingEvidence.rows.filter
      (isReadyForPromotion db adapterKeys rawRefs)).map (candidatePayload db))).insertionSort
      precedes := by
    cases limit with
    | none => exact h
    | some count => exact List.mem_of_mem_take h
  have hdistinct := mem_distinctOn ((List.perm_insertionSort _ _).mem_iff.mp hordered)
  obtain ⟨row, hrow, heq⟩ := List.mem_map.mp hdistinct
  obtain ⟨hstored, hready⟩ := List.mem_filter.mp hrow
  exact ⟨row, hstored, hready, heq.symm⟩

theorem not_fetched_of_spent {id : ℕ} (h : Spent db id) {limit : Option ℕ}
    {adapterKeys rawRefs : Option (List String)} :
    ∀ payload ∈ fetchAcceptedStaging limit adapterKeys rawRefs db,
      validatedStagingId payload ≠ some id := by
  intro payload hfetched hpayload
  obtain ⟨row, hrow, hready, heq⟩ := exists_ready_of_fetched hfetched
  have hid : row.id = id := by
    rw [heq] at hpayload
    exact Option.some.inj hpayload
  obtain ⟨spent, hspent, hspentId, hdone⟩ := h
  have hsame : spent = row := Table.eq_of_key_eq hspent hrow (hspentId.trans hid.symm)
  rw [hsame] at hdone
  simp only [isReadyForPromotion, Bool.and_eq_true, decide_eq_true_eq, Bool.not_eq_true',
    List.any_eq_false] at hready
  rcases hdone with hclosed | ⟨stored, hstored, hsource, -, href⟩
  · exact hclosed hready.1.1.1
  · exact hready.2 stored hstored ⟨hsource, href⟩

/-! ### The transaction of an authorised candidate -/

/-- Evidence that names a staging row stands under the source id and the raw
reference of that row. -/
def Traced (db : Database) : Prop :=
  ∀ stored ∈ db.evidence, ∀ id, stored.properties.stagingEvidenceId = .uuid id true →
    ∃ row ∈ db.stagingEvidence, row.id = id ∧ isEvidenceOf db row stored

theorem authorized_row {id : ℕ} (h : authorizeStagingCandidate db payload = some true)
    (hid : validatedStagingId payload = some id) :
    ∃ row ∈ db.stagingEvidence, row.id = id ∧ row.sourceId = some payload.sourceId ∧
      payload.rawRef.isSome ∧ payload.rawRef = rawRefOf db row := by
  obtain ⟨other, canonical, row, raw, hstaging, hfind, hraw, hmatch⟩ := authorized_staging h
  obtain ⟨hrow, hown⟩ := Table.find_eq_some_iff.mp hfind
  have hsame : other = id := by
    simpa only [validatedStagingId, hstaging, Option.some.injEq] using hid
  simp only [stagingRowAuthorizes, Bool.and_eq_true, decide_eq_true_eq] at hmatch
  have hsource : row.sourceId = some payload.sourceId := hmatch.1.1.1.1.1.1.1.1.1.1.1.1.2
  have href : some raw.rawRef = payload.rawRef := hmatch.1.1.2
  refine ⟨row, hrow, hown.trans hsame, hsource, by rw [← href]; rfl, ?_⟩
  rw [rawRefOf, rawSnapshotOf, hraw]
  exact href.symm

theorem spent_of_rejected {id : ℕ} {reason : RejectionReason} {ids : List ℕ}
    (hmem : id ∈ ids) {row : StagingEvidence} (hrow : row ∈ db.stagingEvidence)
    (hid : row.id = id) : Spent (rejectStagingRows ids reason db) id := by
  have hdoomed : row.id ∈ ids := hid ▸ hmem
  have hlater : (if row.id ∈ ids then rejectStagingRow reason row else row) ∈
      (rejectStagingRows ids reason db).stagingEvidence := mem_rejectStagingRows hrow
  rw [if_pos hdoomed] at hlater
  refine ⟨_, hlater, (rejectStagingRow_id reason row).trans hid, Or.inl ?_⟩
  unfold rejectStagingRow
  split
  · simp
  · assumption

theorem spent_of_terminallyRejected {id : ℕ} {reason : RejectionReason}
    (hauth : authorizeStagingCandidate db payload = some true)
    (hid : validatedStagingId payload = some id) (h : SameOutsideLatest db next) :
    Spent (terminallyRejectStaging payload reason
      (authorizeStagingCandidate db payload = some true) next) id := by
  obtain ⟨row, hrow, hown, -⟩ := authorized_row hauth hid
  have hstored : row ∈ next.stagingEvidence := h.stagingEvidence ▸ hrow
  simp only [terminallyRejectStaging, hauth, decide_true, if_true, hid]
  exact spent_of_rejected List.mem_cons_self hstored hown

/-- Every exit of the transaction of an authorised candidate spends its staging
row. -/
theorem spent_of_write {id : ℕ} (traced : Traced db)
    (hauth : authorizeStagingCandidate db payload = some true)
    (hid : validatedStagingId payload = some id) :
    Spent (writeEvidence env now payload db).2 id := by
  refine writeEvidence_cases (motive := fun result => Spent result.2 id) ?_ ?_ ?_ ?_ ?_ ?_
  · intro hfalse
    rw [hauth] at hfalse
    exact absurd hfalse (by simp)
  · intro reason _
    refine spent_of_terminallyRejected hauth hid ?_
    split
    · exact SameOutsideLatest.retireInactive payload db
    · exact SameOutsideLatest.refl db
  · -- the evidence of this staging row stands where the fetch looks for it
    intro _ hused
    simp only [stagingEvidenceWasAlreadyUsed, hid, List.any_eq_true, decide_eq_true_eq] at hused
    obtain ⟨stored, hstored, hstaging⟩ := hused
    obtain ⟨row, hrow, hown, hevidence⟩ := traced stored hstored id hstaging
    exact ⟨row, hrow, hown, Or.inr ⟨stored, hstored, hevidence⟩⟩
  · intro reason settled _ _ _ hsettled
    exact spent_of_terminallyRejected hauth hid (SameOutsideLatest.settle hsettled)
  · intro reason _
    exact spent_of_terminallyRejected hauth hid (SameOutsideLatest.duplicate env payload db)
  · intro source evidence promote _ inserts
    obtain ⟨row, hrow, hown, hsource, hsome, href⟩ := authorized_row hauth hid
    have same := weighted_same env payload db
    have published : Spent { db with evidence := evidence } id := by
      refine ⟨row, hrow, hown, Or.inr
        ⟨_, (Table.mem_of_insertNew inserts.inserted).mpr (Or.inr rfl), ?_⟩⟩
      have hkey := same.sourceRawRef_eq source (freshId (db.evidence.rows.map Evidence.id))
      obtain ⟨hsourceId, hrawRef⟩ := Prod.mk.inj hkey
      have hplace : isEvidenceOf db row (evidenceRow (weightedPayload env payload db) source
          (freshId (db.evidence.rows.map Evidence.id))) :=
        ⟨by rw [hsourceId]; exact hsource.symm, by rw [hrawRef]; exact hsome,
          hrawRef.trans href⟩
      exact hplace
    have same := publishedDatabase_frame env payload db evidence promote
    exact published.grows (Commits.of_sameOutsideLatest same).toGrows

/-! ### Invariants of a transaction -/

theorem Traced.grows (h : Traced db) (grows : Grows db next)
    (hevidence : ∀ stored ∈ next.evidence, stored ∈ db.evidence) : Traced next := by
  intro stored hstored id hid
  obtain ⟨row, hrow, hown, hplace⟩ := h stored (hevidence stored hstored) id hid
  obtain ⟨later, hlater, hmoved⟩ := grows.staging row hrow
  exact ⟨later, hlater, hmoved.columns.1.trans hown, hplace.grows grows hmoved⟩

theorem Traced.write (h : Traced db) (env : Environment) (now : ℤ)
    (payload : EvidencePromotionPayload) : Traced (writeEvidence env now payload db).2 := by
  have commits := Commits.write env now payload db
  intro stored hstored id hid
  rcases mem_evidence_of_write hstored with hold | ⟨reaches, source, -, hnew⟩
  · obtain ⟨row, hrow, hown, hplace⟩ := h stored hold id hid
    obtain ⟨later, hlater, hmoved⟩ := commits.staging row hrow
    exact ⟨later, hlater, hmoved.columns.1.trans hown, hplace.grows commits.toGrows hmoved⟩
  · have same := weighted_same env payload db
    have hown : validatedStagingId payload = some id := by
      rw [hnew] at hid
      have hstaging : payload.properties.stagingEvidenceId = .uuid id true :=
        same.stagingEvidenceId.symm.trans hid
      simp only [validatedStagingId, hstaging]
    have hauth := authorized_of_stagingId reaches.authorization hown
    obtain ⟨row, hrow, hrowId, hsource, hsome, href⟩ := authorized_row hauth hown
    obtain ⟨later, hlater, hmoved⟩ := commits.staging row hrow
    have hkey := same.sourceRawRef_eq source (freshId (db.evidence.rows.map Evidence.id))
    rw [← hnew] at hkey
    obtain ⟨hsourceId, hrawRef⟩ := Prod.mk.inj hkey
    have hplace : isEvidenceOf db row stored :=
      ⟨by rw [hsourceId]; exact hsource.symm, by rw [hrawRef]; exact hsome, hrawRef.trans href⟩
    exact ⟨later, hlater, hmoved.columns.1.trans hrowId, hplace.grows commits.toGrows hmoved⟩

theorem authorized_or_spent {id : ℕ} (commits : Commits db next)
    (hauth : authorizeStagingCandidate db payload = some true)
    (hid : validatedStagingId payload = some id) :
    authorizeStagingCandidate next payload = some true ∨ Spent next id := by
  obtain ⟨row, hrow, hown, -⟩ := authorized_row hauth hid
  obtain ⟨later, hlater, hmoved⟩ := commits.staging row hrow
  have hlaterId : later.id = id := hmoved.columns.1.trans hown
  rcases hmoved with hsame | ⟨-, reason, hrejected⟩
  · left
    rw [← hauth]
    apply authorizeStagingCandidate_congr commits.dataSources commits.rawSnapshots
    intro other hother
    have hotherId : other = id := Option.some.inj (hother.symm.trans hid)
    rw [hotherId, Table.find_eq_some_iff.mpr ⟨hrow, hown⟩,
      Table.find_eq_some_iff.mpr ⟨hsame ▸ hlater, hown⟩]
  · right
    refine ⟨later, hlater, hlaterId, Or.inl ?_⟩
    rw [hrejected]
    simp

end FloodRisk.Promotion
