import FloodRisk.Ingestion.SnapshotStore

/-!
# Atomic replacement of a snapshot

A promotion works through everything its cycle has staged before the cycle may
store a reference, and evidence is never taken back: the stored reference names
a snapshot that is promoted as a whole, whatever the other cycles do.
-/

namespace FloodRisk.Ingestion
open Promotion Transition

variable {env : Environment} {now : ℤ} {payload : EvidencePromotionPayload}
  {source : SnapshotSource} {id : ℕ} {db next : Database} {s : CycleSystem}

/-! ### What a cycle has staged and what is left of its promotion -/

def IsWhole (source : SnapshotSource) (db : Database) (digest : String) : Prop :=
  ∀ sourceId ∈ source.sourceIds digest, HasEvidence db sourceId (source.rawRef digest)

def IsStaged (source : SnapshotSource) (db : Database) (digest : String) : Prop :=
  ∀ sourceId ∈ source.sourceIds digest, HasEvidence db sourceId (source.rawRef digest) ∨
    ∃ row, Standing db (source.rawRef digest) row ∧ row.sourceId = some sourceId

/-- A candidate of a fetch; one of the source has its evidence, or its staging
row stands. -/
structure IsFetched (source : SnapshotSource) (id : ℕ) (db : Database)
    (payload : EvidencePromotionPayload) : Prop where
  staged : (validatedStagingId payload).isSome
  standing : ∀ digest, payload.rawRef = some (source.rawRef digest) →
    HasEvidence db payload.sourceId (source.rawRef digest) ∨
      ∃ row, Standing db (source.rawRef digest) row ∧
        payload = snapshotPayload id (source.rawRef digest) row

def CyclePhase.pending : CyclePhase → List EvidencePromotionPayload
  | .collecting => []
  | .promoting _ chunks current => current ++ chunks.flatten

def CyclePhase.targets : CyclePhase → List String
  | .collecting => []
  | .promoting targets _ _ => targets

structure CycleSound (source : SnapshotSource) (id : ℕ) (db : Database) (state : CycleState) :
    Prop where
  staged : ∀ summary ∈ state.summaries, summary.adapterKey = source.adapterKey →
    ∃ digest, summary.rawRef = some (source.rawRef digest) ∧
      (summary.status = .succeeded ∨ summary.status = .partialBatch) ∧ IsStaged source db digest
  fetched : ∀ payload ∈ state.phase.pending, IsFetched source id db payload
  covers : source.adapterKey ∈ state.phase.targets → ∀ summary ∈ state.summaries,
    summary.adapterKey = source.adapterKey → ∀ digest,
    summary.rawRef = some (source.rawRef digest) → ∀ sourceId ∈ source.sourceIds digest,
    HasEvidence db sourceId (source.rawRef digest) ∨ ∃ payload ∈ state.phase.pending,
      (payload.sourceId, payload.rawRef) = (sourceId, some (source.rawRef digest))

structure SystemSound (source : SnapshotSource) (id : ℕ) (s : CycleSystem) : Prop where
  stocked : Stocked source id s.db
  active : ∀ rawRef, activeReference source.adapterKey s.db = some rawRef →
    ∃ digest, rawRef = source.rawRef digest ∧ IsWhole source s.db digest
  cycles : ∀ cycle state, s.cycles cycle = some state → CycleSound source id s.db state

/-! ### Every commit advances every cycle -/

theorem IsWhole.advance {digest : String} (h : IsWhole source db digest)
    (advances : Advances source db next) : IsWhole source next digest :=
  fun sourceId hmem => (h sourceId hmem).mono advances.evidence

theorem IsStaged.advance {digest : String} (h : IsStaged source db digest)
    (advances : Advances source db next) : IsStaged source next digest := by
  intro sourceId hmem
  rcases h sourceId hmem with hevidence | ⟨row, hrow, hsource⟩
  · exact Or.inl (hevidence.mono advances.evidence)
  · rcases advances.standing digest row sourceId hrow hsource with hkept | hevidence
    · exact Or.inr ⟨row, hkept, hsource⟩
    · exact Or.inl hevidence

theorem IsFetched.advance (h : IsFetched source id db payload) (stocked : Stocked source id db)
    (advances : Advances source db next) : IsFetched source id next payload := by
  refine ⟨h.staged, ?_⟩
  intro digest href
  rcases h.standing digest href with hevidence | ⟨row, hrow, heq⟩
  · exact Or.inl (hevidence.mono advances.evidence)
  · obtain ⟨sourceId, -, hsource⟩ := (stocked.staged digest row hrow).sourceId
    have hown : payload.sourceId = sourceId := by
      rw [heq]
      simp only [snapshotPayload, hsource, Option.getD_some]
    rcases advances.standing digest row sourceId hrow hsource with hkept | hevidence
    · exact Or.inr ⟨row, hkept, heq⟩
    · exact Or.inl (hown ▸ hevidence)

theorem CycleSound.advance {state : CycleState} (h : CycleSound source id db state)
    (stocked : Stocked source id db) (advances : Advances source db next) :
    CycleSound source id next state := by
  refine ⟨?_, fun payload hmem => (h.fetched payload hmem).advance stocked advances, ?_⟩
  · intro summary hsummary hkey
    obtain ⟨digest, href, hstatus, hstaged⟩ := h.staged summary hsummary hkey
    exact ⟨digest, href, hstatus, hstaged.advance advances⟩
  · intro htargets summary hsummary hkey digest href sourceId hmem
    rcases h.covers htargets summary hsummary hkey digest href sourceId hmem with
      hevidence | hpending
    · exact Or.inl (hevidence.mono advances.evidence)
    · exact Or.inr hpending

/-- A commit that leaves the stored reference: the other cycles advance, and the
cycle that commits is sound again. -/
theorem SystemSound.commit (h : SystemSound source id s) (stocked : Stocked source id next)
    (advances : Advances source s.db next)
    (hactive : activeReference source.adapterKey next = activeReference source.adapterKey s.db)
    (cycle : ℕ) {state : Option CycleState}
    (hstate : ∀ changed, state = some changed → CycleSound source id next changed) :
    SystemSound source id (s.set cycle state next) := by
  refine ⟨stocked, ?_, ?_⟩
  · intro rawRef href
    have hbefore : activeReference source.adapterKey s.db = some rawRef := hactive.symm.trans href
    obtain ⟨digest, heq, hwhole⟩ := h.active rawRef hbefore
    exact ⟨digest, heq, hwhole.advance advances⟩
  · intro other found hfound
    by_cases hother : other = cycle
    · have hsame : state = some found := by
        simpa only [CycleSystem.set, hother, Function.update_self] using hfound
      exact hstate found hsame
    · have hold : s.cycles other = some found := by
        simpa only [CycleSystem.set, Function.update_of_ne hother] using hfound
      exact (h.cycles other found hold).advance h.stocked advances

theorem activeReference_congr {adapterKey : String} (h : next.dataSources = db.dataSources) :
    activeReference adapterKey next = activeReference adapterKey db := by
  simp only [activeReference, h]

/-! ### Staging and fetching -/

theorem isStaged_of_poll (stocked : Stocked source id db) (poll : SnapshotPoll) :
    IsStaged source (writeBatch (source.batch poll) db) poll.digest := by
  intro sourceId hmem
  obtain ⟨record, hrecord, hsource⟩ := List.mem_map.mp hmem
  have hitem : { record with
      payload := { record.payload with
        ingestionGenerationStartedAt := some (.aware poll.startedAt) } } ∈
      (source.batch poll).accepted ++ (source.batch poll).rejected :=
    List.mem_append_left _ (List.mem_map.mpr ⟨record, hrecord, rfl⟩)
  obtain ⟨row, hrow, href, hrowSource, hstatus⟩ :=
    exists_staged (source.batch poll) stocked.rawIds hitem
  have haccepted := (source.acceptedItems poll.digest record hrecord).status
  right
  exact ⟨row, ⟨hrow, hstatus.trans haccepted, href⟩, hrowSource.trans (congrArg some hsource)⟩

theorem SystemSound.stage (h : SystemSound source id s) (cycle : ℕ) (poll : CyclePoll source) :
    SystemSound source id (s.stage cycle poll) := by
  unfold CycleSystem.stage
  split
  · rename_i summaries hstate
    have advances : Advances source s.db (writeBatch poll.batch s.db) :=
      Advances.stage poll.batch s.db
    have hsound := (h.cycles cycle _ hstate).advance h.stocked advances
    apply h.commit (h.stocked.stage poll) advances
      (activeReference_congr (writeBatch_dataSources poll.batch s.db))
    intro changed hchanged
    cases hchanged
    refine ⟨?_, by simp [CyclePhase.pending], by simp [CyclePhase.targets]⟩
    intro summary hsummary hkey
    rcases List.mem_append.mp hsummary with hold | hnew
    · exact hsound.staged summary hold hkey
    · have heq : summary = poll.summary := List.mem_singleton.mp hnew
      cases poll with
      | other poll =>
          rw [heq] at hkey
          exact absurd hkey poll.otherKey
      | snapshot poll =>
          refine ⟨poll.digest, by rw [heq]; rfl, ?_, isStaged_of_poll h.stocked poll⟩
          rw [heq]
          simp only [CyclePoll.summary, SnapshotSource.summary]
          split <;> simp
  · exact h

theorem isFetched_of_fetch (stocked : Stocked source id db)
    {adapterKeys rawRefs : Option (List String)}
    (h : payload ∈ fetchAcceptedStaging none adapterKeys rawRefs db) :
    IsFetched source id db payload := by
  obtain ⟨row, hrow, hready, heq⟩ := exists_ready_of_fetched h
  refine ⟨by rw [heq]; rfl, ?_⟩
  intro digest href
  right
  have hplace : rawRefOf db row = some (source.rawRef digest) := by
    rw [heq] at href
    exact href
  have haccepted : row.validationStatus = .accepted := by
    simp only [isReadyForPromotion, Bool.and_eq_true, decide_eq_true_eq] at hready
    exact hready.1.1.1
  have hstanding : Standing db (source.rawRef digest) row := ⟨hrow, haccepted, hplace⟩
  exact ⟨row, hstanding, heq.trans ((stocked.staged digest row hstanding).candidatePayload_eq hplace)⟩

theorem fetch_covers (stocked : Stocked source id db) {digest : String}
    (staged : IsStaged source db digest) {targets rawRefs : List String}
    (htargets : source.adapterKey ∈ targets) (hrefs : source.rawRef digest ∈ rawRefs)
    {sourceId : String} (hmem : sourceId ∈ source.sourceIds digest) :
    HasEvidence db sourceId (source.rawRef digest) ∨
      ∃ payload ∈ fetchAcceptedStaging none (some targets) (some rawRefs) db,
        (payload.sourceId, payload.rawRef) = (sourceId, some (source.rawRef digest)) := by
  by_cases hevidence : HasEvidence db sourceId (source.rawRef digest)
  · exact Or.inl hevidence
  · right
    rcases staged sourceId hmem with hstored | ⟨row, hrow, hsource⟩
    · exact absurd hstored hevidence
    · have hsnapshot := stocked.staged digest row hrow
      have hraw : (rawSnapshotOf db row).map RawSnapshot.rawRef = some (source.rawRef digest) :=
        hrow.rawRef
      have hunpromoted : (db.evidence.rows.any fun stored =>
          some stored.sourceId = row.sourceId &&
            stored.rawRef = some (source.rawRef digest)) = false := by
        rw [List.any_eq_false]
        intro stored hstored hmatch
        simp only [Bool.and_eq_true, decide_eq_true_eq, hsource, Option.some.injEq] at hmatch
        exact hevidence ⟨stored, hstored, Prod.ext hmatch.1 hmatch.2⟩
      have hready : isReadyForPromotion db (some targets) (some rawRefs) row = true := by
        simp only [isReadyForPromotion, hunpromoted, hrow.accepted, hsnapshot.adapterKey, hraw,
          Option.some_or, Option.all_some, Option.any_some, htargets, hrefs, decide_true,
          Bool.not_false, Bool.and_self]
      obtain ⟨fetched, hfetched, hown, href⟩ := exists_fetched hrow.stored hready
      refine ⟨fetched, hfetched, Prod.ext ?_ (href.trans hrow.rawRef)⟩
      rw [hown, hsource]
      rfl

theorem SystemSound.fetch (h : SystemSound source id s) (cycle : ℕ) (targets : List String) :
    SystemSound source id (s.fetch cycle targets) := by
  unfold CycleSystem.fetch
  cases hstate : s.cycles cycle with
  | none => exact h
  | some state =>
      simp only
      split
      · exact h
      · have hsound := h.cycles cycle state hstate
        have hsize : 0 < defaultPromotionBatchSize := by decide
        apply h.commit h.stocked (Advances.refl source s.db) rfl
        intro changed hchanged
        cases hchanged
        refine ⟨hsound.staged, ?_, ?_⟩
        · intro payload hpending
          simp only [CyclePhase.pending, List.nil_append, flatten_chunksOf hsize le_rfl] at hpending
          exact isFetched_of_fetch h.stocked hpending
        · intro htargets summary hsummary hkey digest href sourceId hmem
          simp only [CyclePhase.targets] at htargets
          simp only [CyclePhase.pending, List.nil_append, flatten_chunksOf hsize le_rfl]
          obtain ⟨polled, hpolled, hstatus, hstaged⟩ := hsound.staged summary hsummary hkey
          have hdigest : polled = digest :=
            snapshotRawRef_injective (Option.some.inj (hpolled.symm.trans href))
          have hcurrent : source.rawRef digest ∈ currentRawRefs state.summaries targets := by
            refine List.mem_filterMap.mpr ⟨summary, List.mem_filter.mpr ⟨hsummary, ?_⟩, href⟩
            rw [hkey]
            rcases hstatus with hsucceeded | hpartial
            · simp [htargets, hsucceeded]
            · simp [htargets, hpartial]
          exact fetch_covers h.stocked (hdigest ▸ hstaged) htargets hcurrent hmem

/-! ### Transactions -/

theorem SystemSound.settle (h : SystemSound source id s) (env : Environment) (cycle : ℕ)
    (now : ℤ) : SystemSound source id (s.settle env cycle now) := by
  unfold CycleSystem.settle
  split
  · rename_i summaries targets chunk chunks hstate
    have stocked := h.stocked.settle env now chunk
    have advances := Advances.settle h.stocked env now chunk
    have hbefore := h.cycles cycle _ hstate
    have hsound := hbefore.advance h.stocked advances
    apply h.commit stocked advances rfl
    intro changed hchanged
    cases hchanged
    refine ⟨hsound.staged, ?_, ?_⟩
    · intro payload hpending
      apply hsound.fetched
      simp only [CyclePhase.pending, List.nil_append, List.flatten_cons]
      rcases List.mem_append.mp hpending with hcurrent | hlater
      · exact List.mem_append_left _ (List.mem_of_mem_filter hcurrent)
      · exact List.mem_append_right _ hlater
    · intro htargets summary hsummary hkey digest href sourceId hmem
      rcases hsound.covers htargets summary hsummary hkey digest href sourceId hmem with
        hevidence | ⟨payload, hpending, hown⟩
      · exact Or.inl hevidence
      simp only [CyclePhase.pending, List.nil_append, List.flatten_cons] at hpending ⊢
      rcases List.mem_append.mp hpending with hchunk | hlater
      · cases hsettled : isSettled (settledStagingIds env now s.db chunk) payload with
        | false =>
            right
            refine ⟨payload, List.mem_append_left _ (List.mem_filter.mpr ⟨hchunk, ?_⟩), hown⟩
            simp only [settleUnchangedObservations, hsettled, Bool.not_false]
        | true =>
            -- only a candidate whose evidence is stored can have been settled
            left
            obtain ⟨hsourceId, hrawRef⟩ := Prod.mk.inj hown
            have hfetched := hbefore.fetched payload (by
              simpa only [CyclePhase.pending, List.nil_append, List.flatten_cons] using hpending)
            rcases hfetched.standing digest hrawRef with hevidence | ⟨row, hrow, heq⟩
            · rw [← hsourceId]
              exact hevidence.mono advances.evidence
            · have hid : validatedStagingId payload = some row.id := by
                rw [heq]
                rfl
              simp only [isSettled, hid, Option.any_some, decide_eq_true_eq] at hsettled
              have hsnapshot := h.stocked.staged digest row hrow
              exact absurd hsettled (hsnapshot.not_settled hrow.stored)
      · exact Or.inr ⟨payload, List.mem_append_right _ hlater, hown⟩
  · exact h

theorem IsFetched.hasEvidence_of_write (h : IsFetched source id db payload)
    (stocked : Stocked source id db) {digest : String}
    (href : payload.rawRef = some (source.rawRef digest)) :
    HasEvidence (writeEvidence env now payload db).2 payload.sourceId (source.rawRef digest) := by
  rcases h.standing digest href with hevidence | ⟨row, hrow, heq⟩
  · exact hevidence.mono fun stored hstored => evidence_subset_write hstored
  · have hsnapshot := stocked.staged digest row hrow
    have hid : validatedStagingId payload = some row.id := by
      rw [heq]
      rfl
    have hauth : authorizeStagingCandidate db payload = some true := by
      rw [heq]
      exact hsnapshot.authorized hrow.stored hrow.accepted hrow.rawRef
    exact hsnapshot.hasEvidence_of_write stocked.traced stocked.catalogued hrow.stored hrow.rawRef
      hauth hid

theorem SystemSound.write (h : SystemSound source id s) (env : Environment) (cycle : ℕ)
    (now : ℤ) : SystemSound source id (s.write env cycle now) := by
  unfold CycleSystem.write
  split
  · rename_i summaries targets chunks payload current hstate
    have hbefore := h.cycles cycle _ hstate
    have hfetched : IsFetched source id s.db payload :=
      hbefore.fetched payload List.mem_cons_self
    have advances := Advances.write h.stocked env now payload
    have hsound := hbefore.advance h.stocked advances
    apply h.commit (h.stocked.write hfetched.staged env now) advances
      (activeReference_congr (Commits.write env now payload s.db).dataSources)
    intro changed hchanged
    cases hchanged
    refine ⟨hsound.staged, ?_, ?_⟩
    · exact fun other hpending => hsound.fetched other (List.mem_cons_of_mem payload hpending)
    · intro htargets summary hsummary hkey digest href sourceId hmem
      rcases hsound.covers htargets summary hsummary hkey digest href sourceId hmem with
        hevidence | ⟨other, hpending, hown⟩
      · exact Or.inl hevidence
      · obtain ⟨hsourceId, hrawRef⟩ := Prod.mk.inj hown
        rcases List.mem_cons.mp hpending with heq | hlater
        · left
          rw [heq] at hsourceId hrawRef
          rw [← hsourceId]
          exact hfetched.hasEvidence_of_write h.stocked hrawRef
        · exact Or.inr ⟨other, hlater, hown⟩
  · exact h

/-! ### Status writes -/

theorem sameRows_status (write : StatusWrite) (db : Database) :
    SameRows db (statusStep db write) := by
  cases write with
  | summary summary createdAt => exact ⟨rfl, rfl, rfl⟩
  | outcome outcome =>
      simp only [statusStep]
      cases hwrite : writePipelineStatus outcome db with
      | error _ => exact ⟨rfl, rfl, rfl⟩
      | ok next =>
          unfold writePipelineStatus at hwrite
          split at hwrite
          · cases hwrite
            exact ⟨rfl, rfl, rfl⟩
          · split at hwrite
            · exact absurd hwrite (by simp)
            · cases hwrite
              exact ⟨rfl, rfl, rfl⟩

def StoresReference (adapterKey rawRef : String) : StatusWrite → Prop
  | .summary _ _ => False
  | .outcome outcome =>
      adapterKey ∈ outcome.adapterKeys ∧ outcome.activeSnapshotRawRef = some rawRef

theorem find_statusStep (adapterKey : String) (write : StatusWrite) (db : Database) :
    ∃ change : DataSource → DataSource,
      (statusStep db write).dataSources.find adapterKey =
        (db.dataSources.find adapterKey).map change ∧
      ∀ entry, db.dataSources.find adapterKey = some entry → (change entry).id = entry.id ∧
        ((change entry).activeSnapshotRawRef = entry.activeSnapshotRawRef ∨
          ∃ rawRef, StoresReference adapterKey rawRef write ∧
            (change entry).activeSnapshotRawRef = some rawRef) := by
  cases write with
  | summary summary createdAt =>
      refine ⟨_, find_writeSummary summary createdAt db adapterKey, ?_⟩
      intro entry _
      constructor
      · split <;> rfl
      · left
        split <;> rfl
  | outcome outcome =>
      simp only [statusStep]
      cases hwrite : writePipelineStatus outcome db with
      | error _ =>
          refine ⟨fun entry => entry, Option.map_id'.symm ▸ rfl, ?_⟩
          exact fun entry _ => ⟨rfl, Or.inl rfl⟩
      | ok next =>
          refine ⟨_, find_writePipelineStatus hwrite adapterKey, ?_⟩
          intro entry hentry
          have hkey : entry.adapterKey = adapterKey := (Table.find_eq_some_iff.mp hentry).2
          by_cases haccepts : acceptsOutcome db outcome entry = true
          · rw [if_pos haccepts]
            refine ⟨rfl, ?_⟩
            cases hnamed : outcome.activeSnapshotRawRef with
            | none =>
                left
                simp only [pipelineColumns, hnamed, Option.none_or]
            | some rawRef =>
                right
                simp only [acceptsOutcome, Bool.and_eq_true, decide_eq_true_eq] at haccepts
                refine ⟨rawRef, ⟨hkey ▸ haccepts.1.1, hnamed⟩, ?_⟩
                simp only [pipelineColumns, hnamed, Option.some_or]
          · rw [if_neg haccepts]
            exact ⟨rfl, Or.inl rfl⟩

theorem IsCatalogued.status {adapterKey : String} (h : IsCatalogued adapterKey id db)
    (write : StatusWrite) : IsCatalogued adapterKey id (statusStep db write) := by
  obtain ⟨entry, hentry, hid⟩ := h
  obtain ⟨change, hfind, hchange⟩ := find_statusStep adapterKey write db
  refine ⟨change entry, ?_, (hchange entry hentry).1.trans hid⟩
  rw [hfind, hentry, Option.map_some]

theorem activeReference_status {adapterKey : String} (write : StatusWrite) (db : Database) :
    activeReference adapterKey (statusStep db write) = activeReference adapterKey db ∨
      ∃ rawRef, StoresReference adapterKey rawRef write ∧
        activeReference adapterKey (statusStep db write) = (some rawRef).filter (· ≠ "") := by
  obtain ⟨change, hfind, hchange⟩ := find_statusStep adapterKey write db
  unfold activeReference
  rw [hfind]
  cases hentry : db.dataSources.find adapterKey with
  | none => exact Or.inl rfl
  | some entry =>
      simp only [Option.map_some, Option.bind_some]
      rcases (hchange entry hentry).2 with hsame | ⟨rawRef, hstores, hnew⟩
      · left
        rw [hsame]
      · right
        exact ⟨rawRef, hstores, by rw [hnew]⟩

theorem activeReference_report {adapterKey : String} {write : StatusWrite}
    (leaves : LeavesReference adapterKey write) (db : Database) :
    activeReference adapterKey (statusStep db write) = activeReference adapterKey db := by
  rcases activeReference_status write db with hsame | ⟨rawRef, hstores, -⟩
  · exact hsame
  · cases write with
    | summary summary createdAt => exact False.elim hstores
    | outcome outcome =>
        rcases leaves with hnone | hforeign
        · have hnamed := hstores.2
          rw [hnone] at hnamed
          exact absurd hnamed (by simp)
        · exact absurd hstores.1 hforeign

theorem SystemSound.commit_db (h : SystemSound source id s) (stocked : Stocked source id next)
    (advances : Advances source s.db next)
    (hactive : activeReference source.adapterKey next = activeReference source.adapterKey s.db) :
    SystemSound source id { s with db := next } := by
  refine ⟨stocked, ?_, ?_⟩
  · intro rawRef href
    obtain ⟨digest, heq, hwhole⟩ := h.active rawRef (hactive.symm.trans href)
    exact ⟨digest, heq, hwhole.advance advances⟩
  · exact fun cycle state hstate => (h.cycles cycle state hstate).advance h.stocked advances

theorem SystemSound.report (h : SystemSound source id s) {write : StatusWrite}
    (leaves : LeavesReference source.adapterKey write) :
    SystemSound source id { s with db := statusStep s.db write } := by
  have same := sameRows_status write s.db
  have stocked := h.stocked.of_same same (h.stocked.catalogued.status write)
  exact h.commit_db stocked (Advances.of_same same) (activeReference_report leaves s.db)

theorem CycleSound.isWhole {summaries : List AdapterBatchRunSummary} {targets : List String}
    (h : CycleSound source id db ⟨summaries, .promoting targets [] []⟩)
    (htargets : source.adapterKey ∈ targets) {summary : AdapterBatchRunSummary}
    (hsummary : summary ∈ summaries) (hkey : summary.adapterKey = source.adapterKey)
    {digest : String} (href : summary.rawRef = some (source.rawRef digest)) :
    IsWhole source db digest := by
  intro sourceId hmem
  rcases h.covers htargets summary hsummary hkey digest href sourceId hmem with
    hevidence | ⟨payload, hpending, -⟩
  · exact hevidence
  · exact absurd hpending List.not_mem_nil

theorem SystemSound.activate (h : SystemSound source id s) (cycle : ℕ)
    (summary : AdapterBatchRunSummary) (checkedAt : ℤ) :
    SystemSound source id (s.activate cycle summary checkedAt) := by
  unfold CycleSystem.activate
  split
  · rename_i summaries targets hstate
    split
    · rename_i hsummary
      have same := sameRows_status (.outcome (successOutcome summary checkedAt)) s.db
      have advances : Advances source s.db
          (statusStep s.db (.outcome (successOutcome summary checkedAt))) :=
        Advances.of_same same
      refine ⟨h.stocked.of_same same (h.stocked.catalogued.status _), ?_, ?_⟩
      · intro rawRef href
        rcases activeReference_status (.outcome (successOutcome summary checkedAt)) s.db with
          hsame | ⟨named, ⟨hadapter, hnamed⟩, hnew⟩
        · obtain ⟨digest, heq, hwhole⟩ := h.active rawRef (hsame.symm.trans href)
          exact ⟨digest, heq, hwhole.advance advances⟩
        · -- the reference of a poll of the source whose promotion is complete
          have hkey : summary.adapterKey = source.adapterKey :=
            (List.mem_singleton.mp hadapter).symm
          have hsound := h.cycles cycle _ hstate
          obtain ⟨digest, hpolled, -, -⟩ := hsound.staged summary hsummary.1 hkey
          have hwhole := hsound.isWhole (hkey ▸ hsummary.2.1) hsummary.1 hkey hpolled
          have hrawRef : summary.rawRef = some named := by
            simp only [successOutcome, activeSnapshotRawRef] at hnamed
            split at hnamed
            · exact hnamed
            · exact absurd hnamed (by simp)
          have hsame : rawRef = named := by
            rw [hnew] at href
            exact (Option.some.inj (Option.eq_some_of_filter_eq_some href)).symm
          refine ⟨digest, ?_, hwhole.advance advances⟩
          exact hsame.trans (Option.some.inj (hrawRef.symm.trans hpolled))
      · exact fun other state hother => (h.cycles other state hother).advance h.stocked advances
    · exact h
  · exact h

theorem sameOutsideLatest_retire {adapterKey : String} {generationStartedAt completedAt : Datetime}
    (h : retireWarningLatestForNoActiveEvent adapterKey generationStartedAt completedAt db =
      .ok next) : SameOutsideLatest db next := by
  obtain ⟨generation, -, heq⟩ := retireWarningLatest_eq h
  rw [heq]
  exact SameOutsideLatest.withLatest db _

theorem SystemSound.retire (h : SystemSound source id s) (adapterKey : String)
    (generationStartedAt completedAt : Datetime) :
    SystemSound source id (s.retire adapterKey generationStartedAt completedAt) := by
  unfold CycleSystem.retire
  split
  · rename_i next hnext
    have outside := sameOutsideLatest_retire hnext
    have same : SameRows s.db next :=
      ⟨outside.rawSnapshots, outside.stagingEvidence, outside.evidence⟩
    obtain ⟨entry, hentry, hid⟩ := h.stocked.catalogued
    have hcatalogued : IsCatalogued source.adapterKey id next :=
      ⟨entry, outside.dataSources ▸ hentry, hid⟩
    exact h.commit_db (h.stocked.of_same same hcatalogued) (Advances.of_same same)
      (activeReference_congr outside.dataSources)
  · exact h

/-! ### Runs -/

theorem SystemSound.step (h : SystemSound source id s) (env : Environment)
    (action : CycleAction source) : SystemSound source id (cycleStep env s action) := by
  cases action with
  | begin cycle =>
      apply h.commit h.stocked (Advances.refl source s.db) rfl
      intro changed hchanged
      cases hchanged
      exact ⟨by simp, by simp [CyclePhase.pending], by simp⟩
  | stage cycle poll => exact h.stage cycle poll
  | report write leaves => exact h.report leaves
  | retire adapterKey generationStartedAt completedAt =>
      exact h.retire adapterKey generationStartedAt completedAt
  | fetch cycle targets => exact h.fetch cycle targets
  | settle cycle now => exact h.settle env cycle now
  | write cycle now => exact h.write env cycle now
  | activate cycle summary checkedAt => exact h.activate cycle summary checkedAt
  | stop cycle =>
      apply h.commit h.stocked (Advances.refl source s.db) rfl
      intro changed hchanged
      exact absurd hchanged (by simp)

def CycleAction.activates : CycleAction source → Bool
  | .activate _ _ _ => true
  | _ => false

/-- What every action does to the evidence and to the catalogue row. -/
structure StepFrame (adapterKey : String) (db next : Database) : Prop where
  evidence : ∀ stored ∈ db.evidence, stored ∈ next.evidence
  uncatalogued : db.dataSources.find adapterKey = none →
    next.dataSources.find adapterKey = none

theorem StepFrame.refl (adapterKey : String) (db : Database) : StepFrame adapterKey db db :=
  ⟨fun _ h => h, fun h => h⟩

theorem StepFrame.trans {adapterKey : String} {first second third : Database}
    (h : StepFrame adapterKey first second) (k : StepFrame adapterKey second third) :
    StepFrame adapterKey first third :=
  ⟨fun stored hstored => k.evidence stored (h.evidence stored hstored),
    fun hnone => k.uncatalogued (h.uncatalogued hnone)⟩

theorem StepFrame.of_dataSources {adapterKey : String}
    (hsources : next.dataSources = db.dataSources)
    (hevidence : ∀ stored ∈ db.evidence, stored ∈ next.evidence) :
    StepFrame adapterKey db next :=
  ⟨hevidence, fun hnone => hsources ▸ hnone⟩

theorem StepFrame.status (adapterKey : String) (write : StatusWrite) (db : Database) :
    StepFrame adapterKey db (statusStep db write) := by
  refine ⟨fun stored hstored => (sameRows_status write db).evidence ▸ hstored, ?_⟩
  intro hnone
  obtain ⟨change, hfind, -⟩ := find_statusStep adapterKey write db
  rw [hfind, hnone, Option.map_none]

theorem cycleStep_frame (env : Environment) (s : CycleSystem) (action : CycleAction source) :
    StepFrame source.adapterKey s.db (cycleStep env s action).db ∧
      (action.activates = false → activeReference source.adapterKey (cycleStep env s action).db =
        activeReference source.adapterKey s.db) := by
  have same : StepFrame source.adapterKey s.db s.db := StepFrame.refl source.adapterKey s.db
  cases action with
  | begin cycle => exact ⟨same, fun _ => rfl⟩
  | stop cycle => exact ⟨same, fun _ => rfl⟩
  | stage cycle poll =>
      simp only [cycleStep, CycleSystem.stage]
      split
      · have hsources := writeBatch_dataSources poll.batch s.db
        exact ⟨StepFrame.of_dataSources hsources (writeBatch_grows poll.batch s.db).evidence,
          fun _ => activeReference_congr hsources⟩
      · exact ⟨same, fun _ => rfl⟩
  | report write leaves =>
      exact ⟨StepFrame.status source.adapterKey write s.db,
        fun _ => activeReference_report leaves s.db⟩
  | retire adapterKey generationStartedAt completedAt =>
      simp only [cycleStep, CycleSystem.retire]
      split
      · rename_i next hnext
        have outside := sameOutsideLatest_retire hnext
        exact ⟨StepFrame.of_dataSources outside.dataSources fun stored hstored =>
          outside.evidence ▸ hstored, fun _ => activeReference_congr outside.dataSources⟩
      · exact ⟨same, fun _ => rfl⟩
  | fetch cycle targets =>
      have hdb : (s.fetch cycle targets).db = s.db := by
        unfold CycleSystem.fetch
        cases s.cycles cycle with
        | none => rfl
        | some state =>
            simp only
            split <;> rfl
      simp only [cycleStep, hdb]
      exact ⟨same, fun _ => trivial⟩
  | settle cycle now =>
      simp only [cycleStep, CycleSystem.settle]
      split
      · exact ⟨StepFrame.of_dataSources rfl fun _ hstored => hstored, fun _ => rfl⟩
      · exact ⟨same, fun _ => rfl⟩
  | write cycle now =>
      simp only [cycleStep, CycleSystem.write]
      split
      · rename_i payload current hstate
        have commits := Commits.write env now payload s.db
        exact ⟨StepFrame.of_dataSources commits.dataSources commits.evidence,
          fun _ => activeReference_congr commits.dataSources⟩
      · exact ⟨same, fun _ => rfl⟩
  | activate cycle summary checkedAt =>
      refine ⟨?_, fun h => absurd h (by simp [CycleAction.activates])⟩
      simp only [cycleStep, CycleSystem.activate]
      split
      · split
        · exact StepFrame.status source.adapterKey (.outcome (successOutcome summary checkedAt)) s.db
        · exact same
      · exact same

theorem run_frame (env : Environment) (s : CycleSystem) (actions : List (CycleAction source)) :
    StepFrame source.adapterKey s.db (run (cycleStep env) s actions).db := by
  induction actions generalizing s with
  | nil => exact StepFrame.refl source.adapterKey s.db
  | cons action rest ih => exact (cycleStep_frame env s action).1.trans (ih _)

theorem run_activeReference (env : Environment) (s : CycleSystem)
    {actions : List (CycleAction source)} (h : ∀ action ∈ actions, action.activates = false) :
    activeReference source.adapterKey (run (cycleStep env) s actions).db =
      activeReference source.adapterKey s.db := by
  induction actions generalizing s with
  | nil => rfl
  | cons action rest ih =>
      have hrest := ih (cycleStep env s action) fun other hother =>
        h other (List.mem_cons_of_mem action hother)
      exact hrest.trans ((cycleStep_frame env s action).2 (h action List.mem_cons_self))

theorem IsFresh.sound (fresh : IsFresh source.adapterKey s)
    (hcatalogued : IsCatalogued source.adapterKey id s.db) : SystemSound source id s := by
  have hstaging : ∀ row : StagingEvidence, row ∉ s.db.stagingEvidence := by
    intro row hrow
    rw [Table.mem_def, fresh.stagingEvidence] at hrow
    exact absurd hrow List.not_mem_nil
  have hevidence : ∀ stored : Evidence, stored ∉ s.db.evidence := by
    intro stored hstored
    rw [Table.mem_def, fresh.evidence] at hstored
    exact absurd hstored List.not_mem_nil
  refine ⟨⟨hcatalogued, ?_, ?_, ?_, ?_, ?_⟩, ?_, ?_⟩
  · simp [DistinctRawIds, fresh.rawSnapshots]
  · exact fun stored hstored => absurd hstored (hevidence stored)
  · exact fun row hrow => absurd hrow (hstaging row)
  · exact fun _ row hrow => absurd hrow.stored (hstaging row)
  · exact fun stored hstored => absurd hstored (hevidence stored)
  · intro rawRef href
    rw [fresh.inactive] at href
    exact absurd href (by simp)
  · intro cycle state hstate
    rw [fresh.idle cycle] at hstate
    exact absurd hstate (by simp)

/-! ### What a reader sees -/

theorem visibleSnapshot_of_inactive {adapterKey : String}
    (h : activeReference adapterKey db = none) : visibleSnapshot adapterKey db = [] := by
  unfold visibleSnapshot
  cases db.dataSources.find adapterKey with
  | none => rfl
  | some entry =>
      simp only [h]
      rw [List.filter_eq_nil_iff]
      intro stored _ hmatch
      simp only [Bool.and_eq_true, decide_eq_true_eq] at hmatch
      have hsome := hmatch.1.2
      rw [hmatch.2] at hsome
      exact absurd hsome (by simp)

theorem Stocked.mem_visibleSnapshot (h : Stocked source id db) {digest : String}
    (hactive : activeReference source.adapterKey db = some (source.rawRef digest))
    {stored : Evidence} :
    stored ∈ visibleSnapshot source.adapterKey db ↔
      stored ∈ db.evidence ∧ stored.rawRef = some (source.rawRef digest) := by
  obtain ⟨entry, hentry, hid⟩ := h.catalogued
  simp only [visibleSnapshot, hentry, List.mem_filter, Bool.and_eq_true, decide_eq_true_eq, hactive,
    hid]
  constructor
  · exact fun hmem => ⟨hmem.1, hmem.2.2⟩
  · intro hmem
    have howned := (h.owned stored hmem.1 digest hmem.2).1
    refine ⟨hmem.1, ⟨howned, ?_⟩, hmem.2⟩
    rw [hmem.2]
    rfl

/-- The visible rows are one snapshot of the source, and the whole of it. -/
structure ShowsOneSnapshot (source : SnapshotSource) (db : Database) : Prop where
  inactive : activeReference source.adapterKey db = none →
    visibleSnapshot source.adapterKey db = []
  whole : ∀ rawRef, activeReference source.adapterKey db = some rawRef →
    ∃ digest, rawRef = source.rawRef digest ∧
      (∀ stored ∈ visibleSnapshot source.adapterKey db,
        stored.rawRef = some rawRef ∧ stored.sourceId ∈ source.sourceIds digest) ∧
      ∀ sourceId ∈ source.sourceIds digest,
        ∃! stored, stored ∈ visibleSnapshot source.adapterKey db ∧ stored.sourceId = sourceId
  staged : ∀ row ∈ db.stagingEvidence, row.validationStatus = .accepted →
    (rawRefOf db row).isSome → rawRefOf db row = activeReference source.adapterKey db →
    ∃ stored ∈ visibleSnapshot source.adapterKey db, some stored.sourceId = row.sourceId

theorem SystemSound.shows (h : SystemSound source id s) : ShowsOneSnapshot source s.db := by
  have shown : ∀ digest, activeReference source.adapterKey s.db = some (source.rawRef digest) →
      IsWhole source s.db digest → ∀ sourceId ∈ source.sourceIds digest,
        ∃! stored, stored ∈ visibleSnapshot source.adapterKey s.db ∧
          stored.sourceId = sourceId := by
    intro digest hactive hwhole sourceId hmem
    obtain ⟨stored, hstored, hkey⟩ := hwhole sourceId hmem
    obtain ⟨hsource, href⟩ := Prod.mk.inj hkey
    refine ⟨stored, ⟨(h.stocked.mem_visibleSnapshot hactive).mpr ⟨hstored, href⟩, hsource⟩, ?_⟩
    intro other hother
    obtain ⟨hotherStored, hotherRef⟩ := (h.stocked.mem_visibleSnapshot hactive).mp hother.1
    apply Table.eq_of_key_eq hotherStored hstored
    rw [hkey]
    exact Prod.ext hother.2 hotherRef
  refine ⟨visibleSnapshot_of_inactive, ?_, ?_⟩
  · intro rawRef href
    obtain ⟨digest, heq, hwhole⟩ := h.active rawRef href
    rw [heq] at href ⊢
    refine ⟨digest, rfl, ?_, shown digest href hwhole⟩
    intro stored hmem
    obtain ⟨hstored, hplace⟩ := (h.stocked.mem_visibleSnapshot href).mp hmem
    exact ⟨hplace, (h.stocked.owned stored hstored digest hplace).2⟩
  · intro row hrow haccepted hsome hplace
    obtain ⟨rawRef, hrawRef⟩ := Option.isSome_iff_exists.mp hsome
    have href : activeReference source.adapterKey s.db = some rawRef := hplace.symm.trans hrawRef
    obtain ⟨digest, heq, hwhole⟩ := h.active rawRef href
    rw [heq] at href hrawRef
    obtain ⟨sourceId, hmem, hsource⟩ :=
      (h.stocked.staged digest row ⟨hrow, haccepted, hrawRef⟩).sourceId
    obtain ⟨stored, ⟨hvisible, hown⟩, -⟩ := shown digest href hwhole sourceId hmem
    exact ⟨stored, hvisible, by rw [hown, hsource]⟩

/-- Commits that are no activation leave the visible rows: evidence that is new
would be of a snapshot that is promoted as a whole. -/
theorem SystemSound.visible_unchanged {later : CycleSystem} (h : SystemSound source id s)
    (k : SystemSound source id later)
    (hevidence : ∀ stored ∈ s.db.evidence, stored ∈ later.db.evidence)
    (hactive : activeReference source.adapterKey later.db = activeReference source.adapterKey s.db)
    (stored : Evidence) :
    stored ∈ visibleSnapshot source.adapterKey later.db ↔
      stored ∈ visibleSnapshot source.adapterKey s.db := by
  cases href : activeReference source.adapterKey s.db with
  | none =>
      rw [visibleSnapshot_of_inactive href, visibleSnapshot_of_inactive (hactive.trans href)]
  | some rawRef =>
      obtain ⟨digest, heq, hwhole⟩ := h.active rawRef href
      rw [heq] at href
      rw [h.stocked.mem_visibleSnapshot href,
        k.stocked.mem_visibleSnapshot (hactive.trans href)]
      constructor
      · intro hmem
        have howned := (k.stocked.owned stored hmem.1 digest hmem.2).2
        obtain ⟨promoted, hpromoted, hkey⟩ := hwhole stored.sourceId howned
        have hsame : stored = promoted := by
          apply Table.eq_of_key_eq hmem.1 (hevidence promoted hpromoted)
          rw [hkey]
          exact Prod.ext rfl hmem.2
        exact ⟨hsame ▸ hpromoted, hmem.2⟩
      · exact fun hmem => ⟨hevidence stored hmem.1, hmem.2⟩

/-- In every state of every run of overlapping cycles a reader sees one snapshot
of a complete-replace source and the whole of it.  Only an activation changes
what is visible, and a cycle whose promotion is not complete activates nothing. -/
theorem snapshot_replacement_is_atomic (source : SnapshotSource) (env : Environment)
    (start : CycleSystem) (fresh : IsFresh source.adapterKey start)
    (before : List (CycleAction source)) :
    let reached := run (cycleStep env) start before
    ShowsOneSnapshot source reached.db ∧
    (∀ after : List (CycleAction source), (∀ action ∈ after, action.activates = false) →
      ∀ stored, stored ∈ visibleSnapshot source.adapterKey (run (cycleStep env) reached after).db ↔
        stored ∈ visibleSnapshot source.adapterKey reached.db) ∧
    ∀ cycle summary checkedAt,
      (∀ state targets, reached.cycles cycle = some state →
        state.phase ≠ .promoting targets [] []) →
      cycleStep env reached (.activate cycle summary checkedAt : CycleAction source) = reached := by
  intro reached
  have hidle : ∀ cycle summary checkedAt,
      (∀ state targets, reached.cycles cycle = some state →
        state.phase ≠ .promoting targets [] []) →
      cycleStep env reached (.activate cycle summary checkedAt : CycleAction source) = reached := by
    intro cycle summary checkedAt hunfinished
    simp only [cycleStep, CycleSystem.activate]
    split
    · rename_i summaries targets hstate
      exact absurd rfl (hunfinished _ targets hstate)
    · rfl
  cases hentry : start.db.dataSources.find source.adapterKey with
  | none =>
      have habsent := (run_frame env start before).uncatalogued hentry
      have hinactive : ∀ db : Database, db.dataSources.find source.adapterKey = none →
          activeReference source.adapterKey db = none := by
        intro db hnone
        simp only [activeReference, hnone, Option.bind_none]
      refine ⟨⟨visibleSnapshot_of_inactive, ?_, ?_⟩, ?_, hidle⟩
      · intro rawRef href
        rw [hinactive reached.db habsent] at href
        exact absurd href (by simp)
      · intro row _ _ hsome hplace
        rw [hplace, hinactive reached.db habsent] at hsome
        exact absurd hsome (by simp)
      · intro after _ stored
        have hlater := (run_frame env reached after).uncatalogued habsent
        rw [visibleSnapshot_of_inactive (hinactive _ habsent),
          visibleSnapshot_of_inactive (hinactive _ hlater)]
  | some entry =>
      have hstart : SystemSound source entry.id start := fresh.sound ⟨entry, hentry, rfl⟩
      have hsound : SystemSound source entry.id reached :=
        run_invariant (fun _ action h => h.step env action) hstart before
      refine ⟨hsound.shows, ?_, hidle⟩
      intro after hafter
      have hlater : SystemSound source entry.id (run (cycleStep env) reached after) :=
        run_invariant (fun _ action h => h.step env action) hsound after
      exact hsound.visible_unchanged hlater (run_frame env reached after).evidence
        (run_activeReference env reached hafter)

/-! ### A replacement that is interrupted -/

def floodRecord (sourceId : String) : StagingEvidenceUpsert where
  adapterKey := "official.wra.historical_flood"
  sourceId := sourceId
  sourceType := .official
  eventType := .floodReport
  occurredAt := 1000
  observedAt := 1000
  payload := { evidenceScope := some .historical }

def floodRecords (digest : String) : List StagingEvidenceUpsert :=
  if digest = "first" then [floodRecord "F1", floodRecord "F2"]
  else [floodRecord "F1", floodRecord "F3"]

theorem floodRecords_items (digest : String) :
    ∀ item ∈ floodRecords digest, IsSnapshotItem "official.wra.historical_flood" item := by
  have hrecord : ∀ sourceId, IsSnapshotItem "official.wra.historical_flood" (floodRecord sourceId) :=
    fun _ => ⟨rfl, rfl, rfl, rfl, rfl⟩
  unfold floodRecords
  split <;> simp [hrecord]

def historicalFlood : SnapshotSource where
  adapterKey := "official.wra.historical_flood"
  keyed := by decide
  accepted := floodRecords
  rejected _ := []
  acceptedItems := floodRecords_items
  rejectedItems _ _ h := absurd h List.not_mem_nil

def floodPoll (digest : String) (startedAt : ℤ) : SnapshotPoll where
  digest := digest
  startedAt := startedAt
  finishedAt := startedAt + 5
  itemsFetched := 2
  rejectedRawSourceIds := 0
  sourceTimestampMin := some 1000
  sourceTimestampMax := some 1000

/-- The second cycle stops after the first record of its snapshot. -/
def interruptedReplacement : List (CycleAction historicalFlood) :=
  let targets := ["official.wra.historical_flood"]
  [.begin 0, .stage 0 (.snapshot (floodPoll "first" 2000)), .fetch 0 targets, .settle 0 2010,
    .write 0 2010, .write 0 2011, .activate 0 (historicalFlood.summary (floodPoll "first" 2000)) 2012,
    .begin 1, .stage 1 (.snapshot (floodPoll "second" 3000)), .fetch 1 targets, .settle 1 3010,
    .write 1 3010, .stop 1]

def beforePolls : CycleSystem where
  db := catalogued ["official.wra.historical_flood"]
  cycles _ := none

theorem interrupted_replacement_shows_first_snapshot :
    let reached := run (cycleStep bareEnvironment) beforePolls interruptedReplacement
    ShowsOneSnapshot historicalFlood reached.db ∧
      reached.db.evidence.rows.length = 3 ∧
      (visibleSnapshot "official.wra.historical_flood" reached.db).map Evidence.sourceId =
        ["F1", "F2"] := by
  have fresh : IsFresh historicalFlood.adapterKey beforePolls :=
    ⟨rfl, rfl, rfl, rfl, fun _ => rfl⟩
  have hatomic := snapshot_replacement_is_atomic historicalFlood bareEnvironment beforePolls fresh
    interruptedReplacement
  exact ⟨hatomic.1, by decide +kernel, by decide +kernel⟩

end FloodRisk.Ingestion
