import FloodRisk.Ingestion.RunWriter
import FloodRisk.Lib.Transition
import FloodRisk.Promotion.Staging
import FloodRisk.Promotion.Warning

/-!
# Withdrawal of a warning by a poll without an active event

`write_summary` records the poll, `retire_warning_latest_for_no_active_event`
deletes the rows up to its generation, and delayed candidates of these
generations may still arrive.  A new candidate is held back by the recorded
zero-fetch poll; the cancel-only poll is not looked up, and the replay of a
stored NCDR message is not checked at all.
-/

namespace FloodRisk.Promotion
open Ingestion Transition

variable {env : Environment} {now : ℤ} {payload : EvidencePromotionPayload} {db : Database}
  {adapterKey : String} {generation : ℤ}

/-! ### Steps -/

/-- The transactions that share the warning lifecycle lock of an adapter. -/
inductive LifecycleStep where
  | writeSummary (summary : AdapterBatchRunSummary) (createdAt : ℤ)
  | retireNoActive (adapterKey : String) (generationStartedAt completedAt : Datetime)
  | writeEvidence (now : ℤ) (payload : EvidencePromotionPayload)

def lifecycleStep (env : Environment) (db : Database) : LifecycleStep → Database
  | .writeSummary summary createdAt => writeSummary summary createdAt db
  | .retireNoActive adapterKey generationStartedAt completedAt =>
      match retireWarningLatestForNoActiveEvent adapterKey generationStartedAt completedAt db with
      | .ok next => next
      | .error _ => db
  | .writeEvidence now payload => (writeEvidence env now payload db).2

/-- No row of the adapter was put there by a candidate of the generation or an
older one. -/
def NoWithdrawnRow (adapterKey : String) (generation : ℤ) (db : Database) : Prop :=
  ∀ row ∈ db.officialRealtimeLatest, retiredByNoActiveEvent adapterKey generation row = false

theorem NoWithdrawnRow.mono (h : NoWithdrawnRow adapterKey generation db) {next : Database}
    (hsub : ∀ row ∈ next.officialRealtimeLatest, row ∈ db.officialRealtimeLatest) :
    NoWithdrawnRow adapterKey generation next :=
  fun row hrow => h row (hsub row hrow)

theorem retireWarningLatest_eq {generationStartedAt completedAt : Datetime} {next : Database}
    (h : retireWarningLatestForNoActiveEvent adapterKey generationStartedAt completedAt db =
      .ok next) :
    ∃ generation, generationStartedAt = .aware generation ∧
      next = { db with
        officialRealtimeLatest := db.officialRealtimeLatest.deleteWhere
          (retiredByNoActiveEvent adapterKey generation) } := by
  unfold retireWarningLatestForNoActiveEvent at h
  split at h
  · exact absurd h (by simp)
  · split at h
    · rename_i generation completed
      split at h
      · exact absurd h (by simp)
      · cases h
        exact ⟨generation, rfl, rfl⟩
    · exact absurd h (by simp)

theorem lifecycleStep_retire (env : Environment) (adapterKey : String)
    (generationStartedAt completedAt : Datetime) (db : Database) :
    (∀ row ∈ (lifecycleStep env db
        (.retireNoActive adapterKey generationStartedAt completedAt)).officialRealtimeLatest,
      row ∈ db.officialRealtimeLatest) ∧
    (lifecycleStep env db (.retireNoActive adapterKey generationStartedAt
      completedAt)).ingestionJobs = db.ingestionJobs := by
  simp only [lifecycleStep]
  cases hretire : retireWarningLatestForNoActiveEvent adapterKey generationStartedAt completedAt db with
  | error message => exact ⟨fun row hrow => hrow, rfl⟩
  | ok next =>
      obtain ⟨generation, -, heq⟩ := retireWarningLatest_eq hretire
      rw [heq]
      exact ⟨fun row hrow => (Table.mem_deleteWhere.mp hrow).1, rfl⟩

theorem noWithdrawnRow_retire (env : Environment) {completedAt : ℤ}
    (hadapter : adapterKey ∈ reviewedWarningAdapterKeys) (hcompleted : generation ≤ completedAt)
    (db : Database) :
    NoWithdrawnRow adapterKey generation
      (lifecycleStep env db (.retireNoActive adapterKey (.aware generation) (.aware completedAt))) := by
  intro row hrow
  simp only [lifecycleStep, retireWarningLatestForNoActiveEvent] at hrow
  rw [if_neg (not_not.mpr hadapter), if_neg (not_lt.mpr hcompleted)] at hrow
  exact (Table.mem_deleteWhere.mp hrow).2

/-! ### Candidates that come back -/

/-- The row of the candidate is not held off by a stored row as new as it. -/
def landsIn (payload : EvidencePromotionPayload) (evidenceId : ℕ) (db : Database) : Prop :=
  ∃ row, latestRow payload evidenceId = some row ∧
    ∀ stored ∈ db.officialRealtimeLatest, stored.key = row.key → stored.observedAt < row.observedAt

theorem mem_upsert_of_new {evidenceId : ℕ} {row : OfficialRealtimeLatest}
    (h : row ∈ (upsertOfficialRealtimeLatest payload evidenceId db).officialRealtimeLatest) :
    row ∈ db.officialRealtimeLatest ∨
      (latestRow payload evidenceId = some row ∧ landsIn payload evidenceId db) := by
  cases hrow : latestRow payload evidenceId with
  | none =>
      rw [upsert_eq_of_none hrow] at h
      exact Or.inl h
  | some proposed =>
      rw [upsert_latest_of_row hrow] at h
      rcases Table.mem_upsertWhen.mp h with ⟨heq, hnewer⟩ | ⟨hold, -⟩
      · by_cases hmem : row ∈ db.officialRealtimeLatest
        · exact Or.inl hmem
        · refine Or.inr ⟨by rw [heq], proposed, hrow, ?_⟩
          intro stored hstored hkey
          rcases hnewer stored hstored hkey with hsame | hafter
          · exact absurd (heq ▸ hsame ▸ hstored) hmem
          · exact of_decide_eq_true hafter
      · exact Or.inl hold

theorem landsIn.mem_upsert {evidenceId : ℕ} (h : landsIn payload evidenceId db) :
    ∃ row, latestRow payload evidenceId = some row ∧
      row ∈ (upsertOfficialRealtimeLatest payload evidenceId db).officialRealtimeLatest := by
  obtain ⟨row, hrow, hnewer⟩ := h
  refine ⟨row, hrow, ?_⟩
  rw [upsert_latest_of_row hrow]
  refine Table.mem_upsertWhen.mpr (Or.inl ⟨rfl, ?_⟩)
  exact fun stored hstored hkey => Or.inr (decide_eq_true (hnewer stored hstored hkey))

/-- A candidate of a withdrawn generation that goes back to the latest table:
an NCDR message that is stored, or a new message that no recorded zero-fetch
poll of its generation or a later one holds back. -/
structure ReturnsToLatest (env : Environment) (adapterKey : String) (generation : ℤ)
    (db : Database) (now : ℤ) (payload : EvidencePromotionPayload) : Prop where
  adapter : payload.adapterKey = some adapterKey
  withdrawn : ∃ own, candidateGeneration payload = some own ∧ own ≤ generation
  returns :
    (∃ evidenceId, ReplaysWarning env now payload db evidenceId ∧
      landsIn (withAdminAreaEnrichment env payload) evidenceId db) ∨
    (∃ evidence, InsertsWarning env now payload db evidence ∧
      publishesWarning payload db = true ∧
      landsIn (withAdminAreaEnrichment env payload) (freshId (db.evidence.rows.map Evidence.id))
        (retiredDatabase env payload db evidence))

/-- The condition on one step of a run. -/
def staysWithdrawn (env : Environment) (adapterKey : String) (generation : ℤ) (db : Database) :
    LifecycleStep → Prop
  | .writeEvidence now payload => ¬ ReturnsToLatest env adapterKey generation db now payload
  | _ => True

theorem retiredByNoActiveEvent_proposed (hcap : isCurrentCapLifecycleCandidate payload = true)
    (halive : capRejectionReason now db payload = none) {evidenceId : ℕ}
    {row : OfficialRealtimeLatest}
    (hrow : latestRow (withAdminAreaEnrichment env payload) evidenceId = some row) :
    retiredByNoActiveEvent adapterKey generation row = true ↔
      payload.adapterKey = some adapterKey ∧
        ∃ own, candidateGeneration payload = some own ∧ own ≤ generation := by
  have same := (enrichment_same env payload).1
  have hproposed := latestRow_eq_some hrow
  obtain ⟨own, hown⟩ := candidateGeneration_of_shape (capShape_of_alive halive)
  have hgeneration : row.qualityFlags.ingestionGenerationStartedAt = some (.aware own) := by
    rw [hproposed.generation, same.generation]
    exact awareInstant_eq_some.mp hown
  have hevent : row.eventType = .floodWarning := by
    rw [hproposed.eventType, same.eventType, cap_eventType hcap]
  have hadapter : payload.adapterKey = some row.adapterKey := by
    rw [← hproposed.adapterKey, same.adapterKey]
  have htime : row.qualityFlags.ingestionGenerationStartedAt.any
      (fun stored => stored.timestamptz ≤ generation) = decide (own ≤ generation) := by
    rw [hgeneration]
    rfl
  simp only [retiredByNoActiveEvent, hevent, htime, decide_true, Bool.and_true, Bool.and_eq_true,
    decide_eq_true_eq, hadapter, hown, Option.some.injEq, exists_eq_left']

theorem retiredByNoActiveEvent_refresh {row : OfficialRealtimeLatest}
    (h : row ∈ (refreshNcdrLatestSnapshotMarker payload db).officialRealtimeLatest) :
    ∃ stored ∈ db.officialRealtimeLatest,
      retiredByNoActiveEvent adapterKey generation row =
        retiredByNoActiveEvent adapterKey generation stored := by
  unfold refreshNcdrLatestSnapshotMarker at h
  split at h
  · split at h
    · obtain ⟨stored, hstored, heq⟩ := by simpa only [Table.mem_update] using h
      refine ⟨stored, hstored, ?_⟩
      rw [← heq]
      split <;> rfl
    · exact ⟨row, h, rfl⟩
  · exact ⟨row, h, rfl⟩

theorem exists_refreshed (payload : EvidencePromotionPayload) (adapterKey : String)
    (generation : ℤ) {stored : OfficialRealtimeLatest} (h : stored ∈ db.officialRealtimeLatest) :
    ∃ row ∈ (refreshNcdrLatestSnapshotMarker payload db).officialRealtimeLatest,
      retiredByNoActiveEvent adapterKey generation row =
        retiredByNoActiveEvent adapterKey generation stored := by
  unfold refreshNcdrLatestSnapshotMarker
  split
  · split
    · refine ⟨_, Table.mem_def.mpr (List.mem_map.mpr ⟨stored, h, rfl⟩), ?_⟩
      split <;> rfl
    · exact ⟨stored, h, rfl⟩
  · exact ⟨stored, h, rfl⟩

/-! ### One write -/

theorem noWithdrawnRow_write (h : NoWithdrawnRow adapterKey generation db)
    (hstays : ¬ ReturnsToLatest env adapterKey generation db now payload) :
    NoWithdrawnRow adapterKey generation (writeEvidence env now payload db).2 := by
  cases hcap : isCurrentCapLifecycleCandidate payload with
  | false =>
      rcases writeEvidence_adds_own_row env now db hcap with hsub | ⟨insertable, row, hrow, hlatest⟩
      · exact h.mono hsub
      · intro stored hstored
        rw [hlatest] at hstored
        rcases Table.mem_upsertWhen.mp hstored with ⟨heq, -⟩ | ⟨hold, -⟩
        · have hevent : stored.eventType ≠ .floodWarning := by
            rw [heq, hrow.eventType]
            exact insertable.notWarning
          simp [retiredByNoActiveEvent, hevent]
        · exact h stored (mem_of_mem_duplicateDecision hold)
  | true =>
      rcases writeEvidence_warning_latest env now db hcap with
        hsame | ⟨evidenceId, replays⟩ | ⟨evidence, inserts⟩
      · exact h.mono (fun row hrow => hsame ▸ hrow)
      · intro row hrow
        rw [replays.write_latest] at hrow
        obtain ⟨stored, hstored, heq⟩ := retiredByNoActiveEvent_refresh hrow
        rw [heq]
        rcases mem_upsert_of_new hstored with hold | ⟨hproposed, hlands⟩
        · exact h stored hold
        · cases hretired : retiredByNoActiveEvent adapterKey generation stored with
          | false => rfl
          | true =>
              obtain ⟨hadapter, hown⟩ :=
                (retiredByNoActiveEvent_proposed hcap replays.alive hproposed).mp hretired
              exact absurd ⟨hadapter, hown, Or.inl ⟨evidenceId, replays, hlands⟩⟩ hstays
      · intro row hrow
        rw [inserts.write_eq] at hrow
        split at hrow
        · rename_i hpublishes
          rcases mem_upsert_of_new hrow with hold | ⟨hproposed, hlands⟩
          · exact h row (retiredDatabase_subset hold)
          · cases hretired : retiredByNoActiveEvent adapterKey generation row with
            | false => rfl
            | true =>
                obtain ⟨hadapter, hown⟩ :=
                  (retiredByNoActiveEvent_proposed hcap inserts.alive hproposed).mp hretired
                exact absurd ⟨hadapter, hown, Or.inr ⟨evidence, inserts, hpublishes, hlands⟩⟩ hstays
        · exact h row (retiredDatabase_subset hrow)

theorem ReturnsToLatest.withdrawn_row (h : ReturnsToLatest env adapterKey generation db now payload) :
    ¬ NoWithdrawnRow adapterKey generation (writeEvidence env now payload db).2 := by
  intro hno
  rcases h.returns with ⟨evidenceId, replays, hlands⟩ | ⟨evidence, inserts, hpublishes, hlands⟩
  · obtain ⟨row, hrow, hmem⟩ := hlands.mem_upsert
    have hretired := (retiredByNoActiveEvent_proposed replays.lifecycle replays.alive hrow).mpr
      ⟨h.adapter, h.withdrawn⟩
    obtain ⟨marked, hmarked, heq⟩ := exists_refreshed (withAdminAreaEnrichment env payload) adapterKey
      generation hmem
    have hfalse := hno marked (by rw [replays.write_latest]; exact hmarked)
    rw [heq, hretired] at hfalse
    exact Bool.noConfusion hfalse
  · obtain ⟨row, hrow, hmem⟩ := hlands.mem_upsert
    have hretired := (retiredByNoActiveEvent_proposed inserts.lifecycle inserts.alive hrow).mpr
      ⟨h.adapter, h.withdrawn⟩
    have hfalse := hno row (by rw [inserts.write_eq, if_pos hpublishes]; exact hmem)
    rw [hretired] at hfalse
    exact Bool.noConfusion hfalse

theorem noWithdrawnRow_step_iff (h : NoWithdrawnRow adapterKey generation db)
    (step : LifecycleStep) :
    NoWithdrawnRow adapterKey generation (lifecycleStep env db step) ↔
      staysWithdrawn env adapterKey generation db step := by
  cases step with
  | writeSummary summary createdAt =>
      exact ⟨fun _ => trivial, fun _ => h.mono (fun row hrow => hrow)⟩
  | retireNoActive key generationStartedAt completedAt =>
      exact ⟨fun _ => trivial,
        fun _ => h.mono (lifecycleStep_retire env key generationStartedAt completedAt db).1⟩
  | writeEvidence now payload =>
      constructor
      · exact fun hafter returns => returns.withdrawn_row hafter
      · exact fun hstays => noWithdrawnRow_write h hstays

/-! ### The recorded poll -/

/-- A zero-fetch poll of the generation is recorded for the adapter. -/
def RecordsNoActive (adapterKey : String) (generation : ℤ) (db : Database) : Prop :=
  ∃ job ∈ db.ingestionJobs,
    isSuccessfulNoActiveJob adapterKey job = true ∧ job.startedAt = some generation

theorem jobs_subset_step (env : Environment) (db : Database) (step : LifecycleStep)
    {job : IngestionJob} (h : job ∈ db.ingestionJobs) :
    job ∈ (lifecycleStep env db step).ingestionJobs := by
  cases step with
  | writeSummary summary createdAt => exact List.mem_append_left _ h
  | retireNoActive key generationStartedAt completedAt =>
      rw [(lifecycleStep_retire env key generationStartedAt completedAt db).2]
      exact h
  | writeEvidence now payload =>
      have frame := (writeEvidence_frame env now payload db).ingestionJobs
      simp only [lifecycleStep, frame]
      exact h

theorem RecordsNoActive.step (h : RecordsNoActive adapterKey generation db) (env : Environment)
    (step : LifecycleStep) :
    RecordsNoActive adapterKey generation (lifecycleStep env db step) := by
  obtain ⟨job, hjob, hpoll⟩ := h
  exact ⟨job, jobs_subset_step env db step hjob, hpoll⟩

theorem recordsNoActive_summary {summary : AdapterBatchRunSummary}
    (hsummary : isSuccessfulNoActiveWarningSummary summary = true)
    (hncdr : summary.adapterKey ≠ ncdrCap) (createdAt : ℤ) (db : Database) :
    RecordsNoActive summary.adapterKey summary.startedAt (writeSummary summary createdAt db) := by
  refine ⟨ingestionJob summary createdAt, List.mem_append_right _ List.mem_cons_self, ?_, rfl⟩
  simp only [isSuccessfulNoActiveWarningSummary, Bool.and_eq_true, decide_eq_true_eq] at hsummary
  obtain ⟨⟨⟨⟨⟨⟨⟨-, hstatus⟩, herror⟩, hrejected⟩, -⟩, -⟩, -⟩, hshape⟩ := hsummary
  by_cases hfetched : summary.itemsFetched = 0
  · rw [if_pos hfetched] at hshape
    simp only [Bool.and_eq_true, decide_eq_true_eq] at hshape
    simp [isSuccessfulNoActiveJob, ingestionJob, jobStatus, hstatus, herror, hfetched,
      hshape.1.1.1, hrejected]
  · rw [if_neg hfetched] at hshape
    simp only [Bool.and_eq_true, decide_eq_true_eq] at hshape
    exact absurd hshape.1.1.1.1.1.1.1 hncdr

/-- The recorded poll holds back every new Alert and Update up to its generation. -/
theorem RecordsNoActive.publishesWarning_eq_false (h : RecordsNoActive adapterKey generation db)
    (hcap : isCurrentCapLifecycleCandidate payload = true)
    (hadapter : payload.adapterKey = some adapterKey) {own : ℤ}
    (hown : candidateGeneration payload = some own) (hle : own ≤ generation) :
    publishesWarning payload db = false := by
  cases hshown : isAlertOrUpdate payload.properties with
  | false => simp [publishesWarning, hshown]
  | true =>
      obtain ⟨job, hjob, hpoll, hstarted⟩ := h
      obtain ⟨key, hmem, hkey⟩ := cap_adapterKey hcap
      have hreviewed : adapterKey ∈ reviewedWarningAdapterKeys :=
        Option.some.inj (hkey.symm.trans hadapter) ▸ hmem
      have hlisted : generation ∈ (db.ingestionJobs.filter
          (isSuccessfulNoActiveJob adapterKey)).filterMap IngestionJob.startedAt :=
        List.mem_filterMap.mpr ⟨job, List.mem_filter.mpr ⟨hjob, hpoll⟩, hstarted⟩
      obtain ⟨newest, hnewest⟩ := Option.isSome_iff_exists.mp (List.isSome_max?_of_mem hlisted)
      have hge : generation ≤ newest := (List.max?_eq_some_iff.mp hnewest).2 generation hlisted
      have hmax : maxSuccessfulNoActiveEventGeneration db payload = some newest := by
        simp only [maxSuccessfulNoActiveEventGeneration, hadapter, hreviewed, hshown, decide_true,
          Bool.and_self, if_true, hnewest]
      have hblocked : blockingNoActiveGeneration payload db = some newest := by
        simp only [blockingNoActiveGeneration, hcap, if_true, hmax, hown, hshown, Bool.and_true,
          decide_eq_true_eq]
        rw [if_pos (hle.trans hge)]
      simp [publishesWarning, hblocked]

theorem RecordsNoActive.staysWithdrawn (h : RecordsNoActive adapterKey generation db)
    (hncdr : adapterKey ≠ ncdrCap) (env : Environment) (step : LifecycleStep) :
    Promotion.staysWithdrawn env adapterKey generation db step := by
  cases step with
  | writeSummary summary createdAt => trivial
  | retireNoActive key generationStartedAt completedAt => trivial
  | writeEvidence now payload =>
      intro returns
      obtain ⟨own, hown, hle⟩ := returns.withdrawn
      rcases returns.returns with ⟨evidenceId, replays, -⟩ | ⟨evidence, inserts, hpublishes, -⟩
      · exact hncdr (Option.some.inj (returns.adapter.symm.trans replays.ncdr))
      · have hheld := h.publishesWarning_eq_false inserts.lifecycle returns.adapter hown hle
        rw [hpublishes] at hheld
        exact Bool.noConfusion hheld

/-! ### Runs -/

/-- The summary of the poll is written and its retirement commits. -/
def withdrawalSteps (summary : AdapterBatchRunSummary) (createdAt completedAt : ℤ)
    (before between : List LifecycleStep) : List LifecycleStep :=
  before ++ .writeSummary summary createdAt :: between ++
    [.retireNoActive summary.adapterKey (.aware summary.startedAt) (.aware completedAt)]

theorem noWithdrawnRow_withdrawal (env : Environment) {summary : AdapterBatchRunSummary}
    (hsummary : isSuccessfulNoActiveWarningSummary summary = true) {completedAt : ℤ}
    (hcompleted : summary.startedAt ≤ completedAt) (createdAt : ℤ)
    (before between : List LifecycleStep) (db : Database) :
    NoWithdrawnRow summary.adapterKey summary.startedAt
      (run (lifecycleStep env) db
        (withdrawalSteps summary createdAt completedAt before between)) := by
  have hadapter : summary.adapterKey ∈ reviewedWarningAdapterKeys := by
    simp only [isSuccessfulNoActiveWarningSummary, Bool.and_eq_true, decide_eq_true_eq] at hsummary
    exact hsummary.1.1.1.1.1.1.1
  rw [withdrawalSteps, run_append]
  exact noWithdrawnRow_retire env hadapter hcompleted _

theorem recordsNoActive_withdrawal (env : Environment) {summary : AdapterBatchRunSummary}
    (hsummary : isSuccessfulNoActiveWarningSummary summary = true)
    (hncdr : summary.adapterKey ≠ ncdrCap) (createdAt completedAt : ℤ)
    (before between : List LifecycleStep) (db : Database) :
    RecordsNoActive summary.adapterKey summary.startedAt
      (run (lifecycleStep env) db
        (withdrawalSteps summary createdAt completedAt before between)) := by
  rw [withdrawalSteps, List.append_assoc, run_append, List.cons_append, run_cons]
  refine run_invariant (fun db step h => h.step env step) ?_ _
  exact recordsNoActive_summary hsummary hncdr createdAt _

/-- A step keeps the withdrawn rows out exactly when it is no candidate that
comes back; after the withdrawal every run of such steps keeps them out, and
for CWA every run does. -/
theorem withdrawn_rows_stay_out_iff (env : Environment) {summary : AdapterBatchRunSummary}
    (hsummary : isSuccessfulNoActiveWarningSummary summary = true) {completedAt : ℤ}
    (hcompleted : summary.startedAt ≤ completedAt) (createdAt : ℤ)
    (before between : List LifecycleStep) (db : Database) :
    (∀ reached step, NoWithdrawnRow summary.adapterKey summary.startedAt reached →
      (NoWithdrawnRow summary.adapterKey summary.startedAt (lifecycleStep env reached step) ↔
        staysWithdrawn env summary.adapterKey summary.startedAt reached step)) ∧
    (∀ after : List LifecycleStep,
      Along (lifecycleStep env) (staysWithdrawn env summary.adapterKey summary.startedAt)
        (run (lifecycleStep env) db
          (withdrawalSteps summary createdAt completedAt before between)) after →
      NoWithdrawnRow summary.adapterKey summary.startedAt
        (run (lifecycleStep env) db
          (withdrawalSteps summary createdAt completedAt before between ++ after))) ∧
    (summary.adapterKey ≠ ncdrCap → ∀ after : List LifecycleStep,
      NoWithdrawnRow summary.adapterKey summary.startedAt
        (run (lifecycleStep env) db
          (withdrawalSteps summary createdAt completedAt before between ++ after))) := by
  have start := noWithdrawnRow_withdrawal env hsummary hcompleted createdAt before between db
  refine ⟨fun reached step h => noWithdrawnRow_step_iff h step, ?_, ?_⟩
  · intro after along
    rw [run_append]
    refine run_invariant_of_along ?_ start along
    exact fun reached step h hstays => (noWithdrawnRow_step_iff h step).mpr hstays
  · intro hncdr after
    have recorded := recordsNoActive_withdrawal env hsummary hncdr createdAt completedAt before
      between db
    have hboth : ∀ (reached : Database) (step : LifecycleStep),
        NoWithdrawnRow summary.adapterKey summary.startedAt reached ∧
          RecordsNoActive summary.adapterKey summary.startedAt reached →
        NoWithdrawnRow summary.adapterKey summary.startedAt (lifecycleStep env reached step) ∧
          RecordsNoActive summary.adapterKey summary.startedAt (lifecycleStep env reached step) :=
      fun reached step h => ⟨(noWithdrawnRow_step_iff h.1 step).mpr
        (h.2.staysWithdrawn hncdr env step), h.2.step env step⟩
    rw [run_append]
    exact (run_invariant hboth ⟨start, recorded⟩ after).1

/-! ### A delayed Alert after a cancel-only poll -/

def cancelOnlySummary : AdapterBatchRunSummary where
  adapterKey := ncdrCap
  status := .succeeded
  startedAt := 2000
  finishedAt := 2100
  itemsFetched := 1
  itemsPromoted := 1
  itemsRejected := 0
  snapshotGenerationMode := some .completeReplace
  snapshotActivationEligible := true
  rawRef := some "raw/cancel"
  errorCode := some "no_active_event"
  sourceTimestampMin := some 1500
  sourceTimestampMax := some 1500

/-- An Alert of a poll, staged and not promoted yet. -/
def stagedAlert (generation : ℤ) : Database :=
  writeBatch
    { adapterKey := ncdrCap, rawRef := "raw/alert",
      accepted := [warningItem ncdrCap "A1" 1000 generation .alert []] }
    (catalogued [ncdrCap])

def promotionSteps (now : ℤ) (db : Database) : List LifecycleStep :=
  (fetchAcceptedStaging none none none db).map (.writeEvidence now)

/-- An Alert of a later poll is no withdrawn candidate. -/
theorem later_alert_keeps_withdrawn_rows_out :
    NoWithdrawnRow ncdrCap 2000
      (run (lifecycleStep bareEnvironment) (stagedAlert 2500)
        (withdrawalSteps cancelOnlySummary 2100 2100 [] [] ++
          promotionSteps 2600 (stagedAlert 2500))) := by
  refine (withdrawn_rows_stay_out_iff bareEnvironment (by decide) (by decide) 2100 [] []
    (stagedAlert 2500)).2.1 (promotionSteps 2600 (stagedAlert 2500)) ?_
  refine along_of_forall _ ?_ _
  intro step hstep db
  obtain ⟨payload, hpayload, rfl⟩ := List.mem_map.mp hstep
  intro returns
  obtain ⟨own, hown, hle⟩ := returns.withdrawn
  have hlater : ∀ payload ∈ fetchAcceptedStaging none none none (stagedAlert 2500),
      candidateGeneration payload = some 2500 := by decide +kernel
  rw [hlater payload hpayload, Option.some.injEq] at hown
  have hbound : own ≤ 2000 := hle
  omega

/-- After a cancel-only poll the delayed Alert of an older poll is shown again. -/
theorem delayed_alert_returns_after_cancel_only_poll :
    ¬ ∀ (env : Environment) (summary : AdapterBatchRunSummary) (createdAt completedAt : ℤ)
      (before between after : List LifecycleStep) (db : Database),
      isSuccessfulNoActiveWarningSummary summary = true → summary.startedAt ≤ completedAt →
      NoWithdrawnRow summary.adapterKey summary.startedAt
        (run (lifecycleStep env) db
          (withdrawalSteps summary createdAt completedAt before between ++ after)) := by
  intro hall
  have hkept := hall bareEnvironment cancelOnlySummary 2100 2100 [] []
    (promotionSteps 2200 (stagedAlert 1200)) (stagedAlert 1200) (by decide) (by decide)
  have hshown : ¬ NoWithdrawnRow ncdrCap 2000
      (run (lifecycleStep bareEnvironment) (stagedAlert 1200)
        (withdrawalSteps cancelOnlySummary 2100 2100 [] [] ++
          promotionSteps 2200 (stagedAlert 1200))) := by
    unfold NoWithdrawnRow
    decide +kernel
  exact hshown hkept

end FloodRisk.Promotion
