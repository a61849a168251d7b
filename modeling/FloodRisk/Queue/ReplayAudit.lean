import FloodRisk.Queue.RuntimeJobs

/-!
# Replay audit and poison quarantine (workers jobs/replay_audit.py)

The rows of `worker_runtime_queue_replay_audit` and of
`worker_runtime_queue_poison_quarantine`, and the calls of
`PostgresRuntimeQueueReplayAudit`.  The audited requeue holds the row lock of
the job until it commits, so it is one step.
-/

namespace FloodRisk.Queue

/-! ### Tables -/

inductive ReplayAuditStatus where
  | requested | completed | failed
  deriving DecidableEq, Repr

structure ReplayAuditMetadata where
  resetAttempts : Option Bool := none
  requestedReason : Option String := none
  requestedAuditId : Option ℕ := none
  status : Option RuntimeJobStatus := none
  deriving DecidableEq

/-- A row with the action `replay`. -/
structure ReplayAudit where
  id : ℕ
  jobId : ℕ
  requestedBy : String
  reason : String
  status : ReplayAuditStatus
  attemptsBefore : Option ℕ
  attemptsAfter : Option ℕ
  metadata : ReplayAuditMetadata
  requestedAt : Option ℤ
  completedAt : Option ℤ
  failedAt : Option ℤ
  deriving DecidableEq

inductive PoisonQuarantineStatus where
  | active | released
  deriving DecidableEq, Repr

structure PoisonQuarantine where
  id : ℕ
  jobId : ℕ
  status : PoisonQuarantineStatus
  quarantinedBy : String
  reason : String
  attemptsAtQuarantine : Option ℤ
  quarantinedAt : ℤ
  releasedBy : Option String
  releasedReason : Option String
  releasedAt : Option ℤ
  updatedAt : ℤ
  deriving DecidableEq

def PoisonQuarantine.isActive (row : PoisonQuarantine) : Bool :=
  row.status = .active && row.releasedAt.isNone

/-- The entry in `idx_worker_runtime_queue_poison_quarantine_active_job`. -/
def PoisonQuarantine.activeJob (row : PoisonQuarantine) : Option ℕ :=
  if row.isActive then some row.jobId else none

structure QueueDatabase where
  now : ℤ
  jobs : RuntimeJobs
  quarantine : IndexedTable PoisonQuarantine.id PoisonQuarantine.activeJob
  audit : Table ReplayAudit.id

def QueueDatabase.empty (now : ℤ) : QueueDatabase :=
  ⟨now, IndexedTable.empty, IndexedTable.empty, Table.empty⟩

/-! ### Quarantine -/

def activePoisonQuarantine (db : QueueDatabase) (jobId : ℕ) : Option PoisonQuarantine :=
  db.quarantine.rows.find? fun row => row.jobId = jobId && row.isActive

def hasActivePoisonQuarantine (db : QueueDatabase) (jobId : ℕ) : Bool :=
  (activePoisonQuarantine db jobId).isSome

/-- Raises on a negative count and on a job that does not exist. -/
def quarantinePoisonJob (db : QueueDatabase) (jobId : ℕ) (quarantinedBy reason : String)
    (attemptsAtQuarantine : Option ℤ) (newId : ℕ) : Option QueueDatabase :=
  if attemptsAtQuarantine.any (· < 0) || (db.jobs.find jobId).isNone then none
  else
    let stored := match activePoisonQuarantine db jobId with
      | some row =>
          db.quarantine.modify row.id (fun row =>
            { row with
              reason := reason
              attemptsAtQuarantine := attemptsAtQuarantine
              updatedAt := db.now }) fun _ => rfl
      | none =>
          db.quarantine.insert
            { id := newId, jobId := jobId, status := .active, quarantinedBy := quarantinedBy,
              reason := reason, attemptsAtQuarantine := attemptsAtQuarantine,
              quarantinedAt := db.now, releasedBy := none, releasedReason := none,
              releasedAt := none, updatedAt := db.now }
    stored.map fun quarantine => { db with quarantine := quarantine }

def releasePoisonQuarantine (db : QueueDatabase) (jobId : ℕ) (releasedBy : String)
    (reason : Option String) : Option (Bool × QueueDatabase) :=
  match activePoisonQuarantine db jobId with
  | none => some (false, db)
  | some row =>
      (db.quarantine.modify row.id (fun row =>
        { row with
          status := .released
          releasedBy := some releasedBy
          releasedReason := reason
          releasedAt := some db.now
          updatedAt := db.now }) fun _ => rfl).map
        fun quarantine => (true, { db with quarantine := quarantine })

/-! ### `requeue_failed_job_with_audit` -/

structure AuditedRuntimeQueueRequeueResult where
  jobId : ℕ
  requeued : Bool
  resetAttempts : Bool
  requestedAuditId : Option ℕ := none
  outcomeAuditId : Option ℕ := none
  attemptsBefore : Option ℕ := none
  attemptsAfter : Option ℕ := none
  reason : Option String := none
  deriving DecidableEq

/-- A row before `INSERT` chooses its id and its time. -/
structure ReplayAuditDraft where
  jobId : ℕ
  requestedBy : String
  reason : String
  status : ReplayAuditStatus
  attemptsBefore : Option ℕ
  attemptsAfter : Option ℕ
  metadata : ReplayAuditMetadata

def ReplayAuditDraft.row (draft : ReplayAuditDraft) (now : ℤ) (id : ℕ) : ReplayAudit where
  id := id
  jobId := draft.jobId
  requestedBy := draft.requestedBy
  reason := draft.reason
  status := draft.status
  attemptsBefore := draft.attemptsBefore
  attemptsAfter := draft.attemptsAfter
  metadata := draft.metadata
  requestedAt := if draft.status = .requested then some now else none
  completedAt := if draft.status = .completed then some now else none
  failedAt := if draft.status = .failed then some now else none

def QueueDatabase.insertReplayAudit (db : QueueDatabase) (draft : ReplayAuditDraft) :
    QueueDatabase :=
  { db with audit := db.audit.append (draft.row db.now) fun _ => rfl }

def requestedDraft (row : RuntimeJob) (requestedBy reason : String) (resetAttempts : Bool) :
    ReplayAuditDraft where
  jobId := row.id
  requestedBy := requestedBy
  reason := reason
  status := .requested
  attemptsBefore := some row.attempts
  attemptsAfter := none
  metadata := { resetAttempts := some resetAttempts }

/-- The outcome of a request that leaves the job as it is. -/
def refusedDraft (row : RuntimeJob) (requestedBy reason : String) (resetAttempts : Bool)
    (requestedId : ℕ) (outcomeReason : String) (status : Option RuntimeJobStatus) :
    ReplayAuditDraft where
  jobId := row.id
  requestedBy := requestedBy
  reason := outcomeReason
  status := .failed
  attemptsBefore := some row.attempts
  attemptsAfter := some row.attempts
  metadata :=
    { requestedReason := some reason
      requestedAuditId := some requestedId
      resetAttempts := some resetAttempts
      status := status }

def completedDraft (row updated : RuntimeJob) (requestedBy reason : String) (requestedId : ℕ) :
    ReplayAuditDraft where
  jobId := row.id
  requestedBy := requestedBy
  reason := reason
  status := .completed
  attemptsBefore := some row.attempts
  attemptsAfter := some updated.attempts
  metadata := { requestedAuditId := some requestedId }

def refuseReplay (db : QueueDatabase) (row : RuntimeJob) (requestedBy reason : String)
    (resetAttempts : Bool) (requestedId : ℕ) (outcomeReason : String)
    (status : Option RuntimeJobStatus) : AuditedRuntimeQueueRequeueResult × QueueDatabase :=
  ({ jobId := row.id
     requeued := false
     resetAttempts := resetAttempts
     requestedAuditId := some requestedId
     outcomeAuditId := some db.audit.freshKey
     attemptsBefore := some row.attempts
     attemptsAfter := some row.attempts
     reason := some outcomeReason },
    db.insertReplayAudit
      (refusedDraft row requestedBy reason resetAttempts requestedId outcomeReason status))

def replayedResult (row updated : RuntimeJob) (resetAttempts : Bool) (requestedId outcomeId : ℕ) :
    AuditedRuntimeQueueRequeueResult where
  jobId := row.id
  requeued := true
  resetAttempts := resetAttempts
  requestedAuditId := some requestedId
  outcomeAuditId := some outcomeId
  attemptsBefore := some row.attempts
  attemptsAfter := some updated.attempts

def requeueFailedJobWithAudit (before : QueueDatabase) (jobId : ℕ) (requestedBy reason : String)
    (resetAttempts : Bool) : Option (AuditedRuntimeQueueRequeueResult × QueueDatabase) :=
  match before.jobs.find jobId with
  | none =>
      some ({ jobId := jobId, requeued := false, resetAttempts := resetAttempts,
              reason := some "queue_row_not_found" }, before)
  | some row =>
      let requestedId := before.audit.freshKey
      let db := before.insertReplayAudit (requestedDraft row requestedBy reason resetAttempts)
      if hasActivePoisonQuarantine db row.id then
        some (refuseReplay db row requestedBy reason resetAttempts requestedId
          "poison_quarantine_active" none)
      else if row.status ≠ .failed then
        some (refuseReplay db row requestedBy reason resetAttempts requestedId
          "queue_row_not_failed" (some row.status))
      else
        match db.jobs.returning row.id (fun _ => true)
            (RuntimeJob.requeue db.now resetAttempts db.now) fun _ => rfl with
        | none => none
        | some (none, _) =>
            some (refuseReplay db row requestedBy reason resetAttempts requestedId
              "queue_row_not_updated" none)
        | some (some updated, jobs) =>
            some (replayedResult row updated resetAttempts requestedId db.audit.freshKey,
              { db with jobs := jobs }.insertReplayAudit
                (completedDraft row updated requestedBy reason requestedId))

/-! ### The branches on an existing job -/

theorem mem_jobs_iff_find {db : QueueDatabase} {row : RuntimeJob} :
    row ∈ db.jobs ↔ db.jobs.find row.id = some row := by
  rw [IndexedTable.find_eq_some_iff]
  exact ⟨fun h => ⟨h, rfl⟩, And.left⟩

theorem taken_requeue_iff {db : QueueDatabase} {row : RuntimeJob} {resetAttempts : Bool}
    {now runAfter : ℤ} :
    db.jobs.taken (row.requeue now resetAttempts runAfter).activeDedupe row.id = true ↔
      ∃ other ∈ db.jobs, other.id ≠ row.id ∧ other.isActive = true ∧ row.dedupeKey ≠ none ∧
        other.dedupeKey = row.dedupeKey ∧ other.queueName = row.queueName ∧
        other.jobKey = row.jobKey ∧ other.adapterKey.getD "" = row.adapterKey.getD "" := by
  have hentry : (row.requeue now resetAttempts runAfter).activeDedupe =
      row.dedupeKey.map fun dedupeKey =>
        (row.queueName, row.jobKey, row.adapterKey.getD "", dedupeKey) := rfl
  rw [IndexedTable.taken_iff, hentry]
  constructor
  · rintro ⟨hne, other, hmem, heq, hid⟩
    cases hkey : row.dedupeKey with
    | none => exact absurd (by rw [hkey]; rfl) hne
    | some dedupeKey =>
        rw [hkey, Option.map_some, RuntimeJob.activeDedupe] at heq
        split at heq
        · rename_i hactive
          obtain ⟨otherKey, hother, hsame⟩ := Option.map_eq_some_iff.mp heq
          simp only [Prod.mk.injEq] at hsame
          obtain ⟨hqueue, hjob, hadapter, rfl⟩ := hsame
          exact ⟨other, hmem, hid, hactive, by simp, hother, hqueue, hjob, hadapter⟩
        · exact absurd heq (by simp)
  · rintro ⟨other, hmem, hid, hactive, hne, hkey, hqueue, hjob, hadapter⟩
    refine ⟨?_, other, hmem, ?_, hid⟩
    · rwa [Ne, Option.map_eq_none_iff]
    · rw [RuntimeJob.activeDedupe, if_pos hactive, hkey, hqueue, hjob, hadapter]

section
variable {before : QueueDatabase} {row : RuntimeJob} (requestedBy reason : String)
  (resetAttempts : Bool)

def withRequest (before : QueueDatabase) (row : RuntimeJob) (requestedBy reason : String)
    (resetAttempts : Bool) : QueueDatabase :=
  before.insertReplayAudit (requestedDraft row requestedBy reason resetAttempts)

theorem replay_of_quarantined (hrow : before.jobs.find row.id = some row)
    (hactive : hasActivePoisonQuarantine before row.id = true) :
    requeueFailedJobWithAudit before row.id requestedBy reason resetAttempts =
      some (refuseReplay (withRequest before row requestedBy reason resetAttempts) row requestedBy
        reason resetAttempts before.audit.freshKey "poison_quarantine_active" none) := by
  have hactive' : hasActivePoisonQuarantine
      (before.insertReplayAudit (requestedDraft row requestedBy reason resetAttempts)) row.id =
      true := hactive
  unfold requeueFailedJobWithAudit
  rw [hrow]
  simp only [hactive', if_true]
  rfl

theorem replay_of_not_failed (hrow : before.jobs.find row.id = some row)
    (hfree : hasActivePoisonQuarantine before row.id = false) (hstatus : row.status ≠ .failed) :
    requeueFailedJobWithAudit before row.id requestedBy reason resetAttempts =
      some (refuseReplay (withRequest before row requestedBy reason resetAttempts) row requestedBy
        reason resetAttempts before.audit.freshKey "queue_row_not_failed" (some row.status)) := by
  have hfree' : hasActivePoisonQuarantine
      (before.insertReplayAudit (requestedDraft row requestedBy reason resetAttempts)) row.id =
      false := hfree
  unfold requeueFailedJobWithAudit
  rw [hrow]
  simp only [hfree', Bool.false_eq_true, if_false, if_pos hstatus]
  rfl

theorem replay_of_taken (hrow : before.jobs.find row.id = some row)
    (hfree : hasActivePoisonQuarantine before row.id = false) (hstatus : row.status = .failed)
    (htaken : before.jobs.taken
      (row.requeue before.now resetAttempts before.now).activeDedupe row.id = true) :
    requeueFailedJobWithAudit before row.id requestedBy reason resetAttempts = none := by
  have hfree' : hasActivePoisonQuarantine
      (before.insertReplayAudit (requestedDraft row requestedBy reason resetAttempts)) row.id =
      false := hfree
  have hreturning : before.jobs.returning row.id (fun _ => true)
      (RuntimeJob.requeue before.now resetAttempts before.now) (fun _ => rfl) = none :=
    IndexedTable.returning_eq_none_iff.mpr ⟨row, hrow, rfl, htaken⟩
  unfold requeueFailedJobWithAudit
  rw [hrow]
  simp only [hfree', Bool.false_eq_true, if_false, ne_eq, hstatus, not_true_eq_false]
  have hsame : (before.insertReplayAudit
      (requestedDraft row requestedBy reason resetAttempts)).jobs = before.jobs := rfl
  have hnow : (before.insertReplayAudit
      (requestedDraft row requestedBy reason resetAttempts)).now = before.now := rfl
  rw [hsame, hnow, hreturning]

theorem replay_of_free (hrow : before.jobs.find row.id = some row)
    (hfree : hasActivePoisonQuarantine before row.id = false) (hstatus : row.status = .failed)
    (hentry : before.jobs.taken
      (row.requeue before.now resetAttempts before.now).activeDedupe row.id = false) :
    ∃ jobs result,
      before.jobs.modify row.id (RuntimeJob.requeue before.now resetAttempts before.now)
        (fun _ => rfl) = some jobs ∧ result.requeued = true ∧
      requeueFailedJobWithAudit before row.id requestedBy reason resetAttempts =
        some (result, { withRequest before row requestedBy reason resetAttempts with
            jobs := jobs }.insertReplayAudit
          (completedDraft row (row.requeue before.now resetAttempts before.now) requestedBy reason
            before.audit.freshKey)) := by
  have hfree' : hasActivePoisonQuarantine
      (before.insertReplayAudit (requestedDraft row requestedBy reason resetAttempts)) row.id =
      false := hfree
  cases hresult : before.jobs.returning row.id (fun _ => true)
      (RuntimeJob.requeue before.now resetAttempts before.now) (fun _ => rfl) with
  | none =>
      obtain ⟨other, hother, -, htaken⟩ := IndexedTable.returning_eq_none_iff.mp hresult
      rw [hrow] at hother
      rw [← Option.some.inj hother, hentry] at htaken
      exact absurd htaken (by simp)
  | some returned =>
      obtain ⟨updated, jobs⟩ := returned
      rcases IndexedTable.returning_cases hresult with ⟨-, -, hguard⟩ | ⟨other, hother, -, hu, hmodify⟩
      · exact absurd (hguard row hrow) (by simp)
      · rw [hrow] at hother
        rw [← Option.some.inj hother] at hu
        let result := replayedResult row (row.requeue before.now resetAttempts before.now)
          resetAttempts before.audit.freshKey
          (withRequest before row requestedBy reason resetAttempts).audit.freshKey
        refine ⟨jobs, result, hmodify, rfl, ?_⟩
        unfold requeueFailedJobWithAudit
        rw [hrow]
        simp only [hfree', Bool.false_eq_true, if_false, ne_eq, hstatus, not_true_eq_false]
        have hsame : (before.insertReplayAudit
            (requestedDraft row requestedBy reason resetAttempts)).jobs = before.jobs := rfl
        have hnow : (before.insertReplayAudit
            (requestedDraft row requestedBy reason resetAttempts)).now = before.now := rfl
        rw [hsame, hnow, hresult, hu]
        rfl

end

end FloodRisk.Queue
