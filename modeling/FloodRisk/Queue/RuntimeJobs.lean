import FloodRisk.Lib.IndexedTable
import Mathlib.Data.Int.Order.Basic

/-!
# Durable runtime jobs (workers jobs/queue.py)

The rows of `worker_runtime_jobs` and the statements of `PostgresRuntimeQueue`.
A call that raises `RuntimeQueueUnavailable` is rolled back and has no result.
Instants are microseconds.
-/

namespace FloodRisk.Queue

def makeInterval (secs : ℤ) : ℤ := secs * 1000000

inductive RuntimeJobStatus where
  | queued | running | succeeded | failed | skipped | cancelled
  deriving DecidableEq, Repr

structure RuntimeJob where
  id : ℕ
  queueName : String
  jobKey : String
  adapterKey : Option String
  payload : String
  status : RuntimeJobStatus
  priority : ℤ
  attempts : ℕ
  maxAttempts : ℕ
  maxAttempts_pos : 0 < maxAttempts
  runAfter : ℤ
  leasedBy : Option String
  leaseExpiresAt : Option ℤ
  startedAt : Option ℤ
  finishedAt : Option ℤ
  lastError : Option String
  dedupeKey : Option String
  finalFailedAt : Option ℤ
  createdAt : ℤ
  updatedAt : ℤ
  deriving DecidableEq

namespace RuntimeJob

def isActive (row : RuntimeJob) : Bool := row.status = .queued || row.status = .running

/-- The entry in `idx_worker_runtime_jobs_active_dedupe`. -/
def activeDedupe (row : RuntimeJob) : Option (String × String × String × String) :=
  if row.isActive then
    row.dedupeKey.map fun dedupeKey =>
      (row.queueName, row.jobKey, row.adapterKey.getD "", dedupeKey)
  else none

end RuntimeJob

abbrev RuntimeJobs := IndexedTable RuntimeJob.id RuntimeJob.activeDedupe

/-! ### `enqueue_adapter_job` -/

structure EnqueueRequest where
  adapterKey : String
  jobKey : String := "runtime.adapter.ingest"
  queueName : String := "runtime-adapters"
  payload : String := "{}"
  priority : ℤ := 0
  maxAttempts : ℕ := 3
  runAfter : Option ℤ := none
  dedupeKey : Option String := none

inductive RuntimeQueueEnqueueStatus where
  | enqueued | deduped | skipped
  deriving DecidableEq, Repr

structure RuntimeQueueEnqueueResult where
  status : RuntimeQueueEnqueueStatus
  jobId : Option ℕ := none
  dedupeKey : Option String := none
  deriving DecidableEq

def existingActiveJob (jobs : RuntimeJobs) (request : EnqueueRequest) : Option RuntimeJob :=
  firstBy (fun a b => decide (a.createdAt < b.createdAt)) (jobs.rows.filter fun row =>
    row.queueName = request.queueName && row.jobKey = request.jobKey &&
      row.adapterKey = some request.adapterKey && row.dedupeKey = request.dedupeKey &&
      request.dedupeKey.isSome && row.isActive)

def EnqueueRequest.insertedJob (request : EnqueueRequest) (now : ℤ) (newId : ℕ)
    (positive : 0 < request.maxAttempts) : RuntimeJob where
  id := newId
  queueName := request.queueName
  jobKey := request.jobKey
  adapterKey := some request.adapterKey
  payload := request.payload
  status := .queued
  priority := request.priority
  attempts := 0
  maxAttempts := request.maxAttempts
  maxAttempts_pos := positive
  runAfter := request.runAfter.getD now
  leasedBy := none
  leaseExpiresAt := none
  startedAt := none
  finishedAt := none
  lastError := none
  dedupeKey := request.dedupeKey
  finalFailedAt := none
  createdAt := now
  updatedAt := now

/-- The row that `ON CONFLICT` on the active dedupe index meets. -/
def conflictingJob (jobs : RuntimeJobs) (row : RuntimeJob) : Option RuntimeJob :=
  jobs.rows.find? fun other =>
    row.activeDedupe.isSome && other.activeDedupe = row.activeDedupe

/-- `newId` is the value of `gen_random_uuid()`. -/
def enqueueAdapterJob (now : ℤ) (jobs : RuntimeJobs) (request : EnqueueRequest) (newId : ℕ) :
    Option (RuntimeQueueEnqueueResult × RuntimeJobs) :=
  match existingActiveJob jobs request with
  | some row => some (⟨.deduped, some row.id, request.dedupeKey⟩, jobs)
  | none =>
      if positive : 0 < request.maxAttempts then
        let row := request.insertedJob now newId positive
        match conflictingJob jobs row with
        | some other => some (⟨.deduped, some other.id, request.dedupeKey⟩, jobs)
        | none =>
            (jobs.insert row).map fun inserted =>
              (⟨.enqueued, some row.id, request.dedupeKey⟩, inserted)
      else none

theorem enqueue_cases {now : ℤ} {jobs jobs' : RuntimeJobs} {request : EnqueueRequest}
    {newId : ℕ} {result : RuntimeQueueEnqueueResult}
    (h : enqueueAdapterJob now jobs request newId = some (result, jobs')) :
    (result.status = .deduped ∧ jobs' = jobs) ∨
      ∃ positive, result.status = .enqueued ∧ result.jobId = some newId ∧
        jobs.insert (request.insertedJob now newId positive) = some jobs' := by
  unfold enqueueAdapterJob at h
  cases hexisting : existingActiveJob jobs request with
  | some row =>
      rw [hexisting] at h
      obtain ⟨rfl, rfl⟩ := Prod.mk.inj (Option.some.inj h)
      exact Or.inl ⟨rfl, rfl⟩
  | none =>
      rw [hexisting] at h
      simp only at h
      by_cases positive : 0 < request.maxAttempts
      · rw [dif_pos positive] at h
        cases hconflict : conflictingJob jobs (request.insertedJob now newId positive) with
        | some other =>
            rw [hconflict] at h
            obtain ⟨rfl, rfl⟩ := Prod.mk.inj (Option.some.inj h)
            exact Or.inl ⟨rfl, rfl⟩
        | none =>
            rw [hconflict] at h
            obtain ⟨inserted, hinsert, heq⟩ := Option.map_eq_some_iff.mp h
            obtain ⟨rfl, rfl⟩ := Prod.mk.inj heq
            exact Or.inr ⟨positive, rfl, rfl, hinsert⟩
      · rw [dif_neg positive] at h
        exact absurd h (by simp)

/-! ### `dequeue_adapter_job` -/

structure RuntimeQueueJob where
  id : ℕ
  queueName : String
  jobKey : String
  adapterKey : Option String
  payload : String
  attempts : ℕ
  maxAttempts : ℕ
  deriving DecidableEq

namespace RuntimeJob

def dequeueable (now : ℤ) (queueName : String) (row : RuntimeJob) : Bool :=
  row.queueName = queueName &&
    ((row.status = .queued && row.runAfter ≤ now) ||
      (row.status = .running && row.leaseExpiresAt.any (· ≤ now) &&
        row.attempts < row.maxAttempts))

def dequeuedBefore (a b : RuntimeJob) : Bool :=
  decide (b.priority < a.priority ∨ a.priority = b.priority ∧
    (a.runAfter < b.runAfter ∨ a.runAfter = b.runAfter ∧ a.createdAt < b.createdAt))

def lease (now : ℤ) (workerId : String) (leaseSeconds : ℤ) (row : RuntimeJob) : RuntimeJob :=
  { row with
    status := .running
    attempts := row.attempts + 1
    leasedBy := some workerId
    leaseExpiresAt := some (now + makeInterval leaseSeconds)
    startedAt := row.startedAt.or (some now)
    updatedAt := now }

def queueJob (row : RuntimeJob) : RuntimeQueueJob where
  id := row.id
  queueName := row.queueName
  jobKey := row.jobKey
  adapterKey := row.adapterKey
  payload := row.payload
  attempts := row.attempts
  maxAttempts := row.maxAttempts

end RuntimeJob

/-- `locked` are the rows that another transaction holds: `SKIP LOCKED`. -/
def nextJob (now : ℤ) (jobs : RuntimeJobs) (queueName : String) (locked : List ℕ) :
    Option RuntimeJob :=
  firstBy RuntimeJob.dequeuedBefore (jobs.rows.filter fun row =>
    row.dequeueable now queueName && row.id ∉ locked)

theorem nextJob_spec {now : ℤ} {jobs : RuntimeJobs} {queueName : String} {locked : List ℕ}
    {row : RuntimeJob} (h : nextJob now jobs queueName locked = some row) :
    jobs.find row.id = some row ∧ row.dequeueable now queueName = true ∧ row.id ∉ locked := by
  obtain ⟨hmem, hguard⟩ := List.mem_filter.mp (mem_of_firstBy h)
  rw [Bool.and_eq_true, decide_eq_true_eq] at hguard
  exact ⟨IndexedTable.find_of_mem hmem, hguard.1, hguard.2⟩

def dequeueAdapterJob (now : ℤ) (jobs : RuntimeJobs) (queueName workerId : String)
    (leaseSeconds : ℤ) (locked : List ℕ) : Option (Option RuntimeQueueJob × RuntimeJobs) :=
  match nextJob now jobs queueName locked with
  | none => some (none, jobs)
  | some row =>
      (jobs.modify row.id (RuntimeJob.lease now workerId leaseSeconds) fun _ => rfl).map
        fun leased => (some (row.lease now workerId leaseSeconds).queueJob, leased)

theorem dequeue_cases {now : ℤ} {jobs jobs' : RuntimeJobs} {queueName workerId : String}
    {leaseSeconds : ℤ} {locked : List ℕ} {result : Option RuntimeQueueJob}
    (h : dequeueAdapterJob now jobs queueName workerId leaseSeconds locked =
      some (result, jobs')) :
    (nextJob now jobs queueName locked = none ∧ result = none ∧ jobs' = jobs) ∨
      ∃ row, nextJob now jobs queueName locked = some row ∧
        result = some (row.lease now workerId leaseSeconds).queueJob ∧
        jobs.modify row.id (RuntimeJob.lease now workerId leaseSeconds) (fun _ => rfl) =
          some jobs' := by
  unfold dequeueAdapterJob at h
  cases hnext : nextJob now jobs queueName locked with
  | none =>
      rw [hnext] at h
      obtain ⟨rfl, rfl⟩ := Prod.mk.inj (Option.some.inj h)
      exact Or.inl ⟨rfl, rfl, rfl⟩
  | some row =>
      rw [hnext] at h
      obtain ⟨leased, hmodify, heq⟩ := Option.map_eq_some_iff.mp h
      obtain ⟨rfl, rfl⟩ := Prod.mk.inj heq
      exact Or.inr ⟨row, rfl, rfl, hmodify⟩

theorem activeDedupe_lease {now : ℤ} {workerId queueName : String} {leaseSeconds : ℤ}
    {row : RuntimeJob} (h : row.dequeueable now queueName = true) :
    (row.lease now workerId leaseSeconds).activeDedupe = row.activeDedupe := by
  have hactive : row.isActive = true := by
    simp only [RuntimeJob.dequeueable, Bool.and_eq_true, Bool.or_eq_true] at h
    simp only [RuntimeJob.isActive, Bool.or_eq_true]
    rcases h.2 with ⟨hqueued, -⟩ | ⟨⟨hrunning, -⟩, -⟩
    · exact Or.inl hqueued
    · exact Or.inr hrunning
  simp only [RuntimeJob.activeDedupe, hactive, if_true]
  rfl

/-- The lease keeps the active dedupe entry, so a dequeue never fails. -/
theorem dequeue_isSome (now : ℤ) (jobs : RuntimeJobs) (queueName workerId : String)
    (leaseSeconds : ℤ) (locked : List ℕ) :
    ∃ result, dequeueAdapterJob now jobs queueName workerId leaseSeconds locked = some result := by
  unfold dequeueAdapterJob
  cases hnext : nextJob now jobs queueName locked with
  | none => exact ⟨_, rfl⟩
  | some row =>
      obtain ⟨hfind, hguard, -⟩ := nextJob_spec hnext
      have hkeeps : ∀ r, jobs.find row.id = some r →
          (r.lease now workerId leaseSeconds).activeDedupe = r.activeDedupe ∨
            (r.lease now workerId leaseSeconds).activeDedupe = none := by
        intro r hr
        rw [hfind] at hr
        exact Or.inl (Option.some.inj hr ▸ activeDedupe_lease hguard)
      obtain ⟨leased, hleased⟩ := IndexedTable.modify_isSome hkeeps
      exact ⟨_, congrArg (Option.map _) hleased⟩

/-! ### `mark_job_succeeded` and `mark_job_failed` -/

namespace RuntimeJob

def heldBy (workerId : String) (row : RuntimeJob) : Bool :=
  row.leasedBy = some workerId && row.status = .running

def succeed (now : ℤ) (row : RuntimeJob) : RuntimeJob :=
  { row with
    status := .succeeded
    leasedBy := none
    leaseExpiresAt := none
    finalFailedAt := none
    finishedAt := some now
    updatedAt := now }

def fail (now : ℤ) (error : String) (retryDelaySeconds : ℤ) (row : RuntimeJob) : RuntimeJob :=
  let retries : Bool := row.attempts < row.maxAttempts
  { row with
    status := if retries then .queued else .failed
    runAfter := if retries then now + makeInterval retryDelaySeconds else row.runAfter
    leasedBy := none
    leaseExpiresAt := none
    finalFailedAt := if retries then none else some now
    finishedAt := if retries then row.finishedAt else some now
    lastError := some (String.ofList (error.toList.take 1000))
    updatedAt := now }

theorem heldBy_iff {workerId : String} {row : RuntimeJob} :
    row.heldBy workerId = true ↔ row.leasedBy = some workerId ∧ row.status = .running := by
  simp only [heldBy, Bool.and_eq_true, decide_eq_true_eq]

end RuntimeJob

def markJobSucceeded (now : ℤ) (jobs : RuntimeJobs) (jobId : ℕ) (workerId : String) :
    Option (Bool × RuntimeJobs) :=
  (jobs.returning jobId (RuntimeJob.heldBy workerId) (RuntimeJob.succeed now) fun _ => rfl).map
    fun (returned, updated) => (returned.isSome, updated)

def markJobFailed (now : ℤ) (jobs : RuntimeJobs) (jobId : ℕ) (workerId error : String)
    (retryDelaySeconds : ℤ) : Option (Bool × RuntimeJobs) :=
  (jobs.returning jobId (RuntimeJob.heldBy workerId)
    (RuntimeJob.fail now error retryDelaySeconds) fun _ => rfl).map
    fun (returned, updated) => (returned.isSome, updated)

theorem activeDedupe_succeed (now : ℤ) (row : RuntimeJob) :
    (row.succeed now).activeDedupe = none := rfl

theorem activeDedupe_fail {now : ℤ} {error workerId : String} {delay : ℤ} {row : RuntimeJob}
    (h : row.heldBy workerId = true) :
    (row.fail now error delay).activeDedupe = row.activeDedupe ∨
      (row.fail now error delay).activeDedupe = none := by
  have hrow : row.isActive = true := by
    simp only [RuntimeJob.isActive, (RuntimeJob.heldBy_iff.mp h).2, decide_true, Bool.or_true]
  by_cases hretries : row.attempts < row.maxAttempts
  · have hactive : (row.fail now error delay).isActive = true := by
      simp [RuntimeJob.isActive, RuntimeJob.fail, hretries]
    simp only [RuntimeJob.activeDedupe, hrow, hactive, if_true]
    exact Or.inl rfl
  · have hactive : (row.fail now error delay).isActive = false := by
      simp [RuntimeJob.isActive, RuntimeJob.fail, hretries]
    right
    rw [RuntimeJob.activeDedupe, hactive]
    rfl

section
variable (now : ℤ) (jobs : RuntimeJobs) (jobId : ℕ) (workerId : String)

theorem markJobSucceeded_cases :
    (∃ row jobs', jobs.find jobId = some row ∧ row.heldBy workerId = true ∧
        jobs.modify jobId (RuntimeJob.succeed now) (fun _ => rfl) = some jobs' ∧
        markJobSucceeded now jobs jobId workerId = some (true, jobs')) ∨
      ((∀ row, jobs.find jobId = some row → row.heldBy workerId = false) ∧
        markJobSucceeded now jobs jobId workerId = some (false, jobs)) := by
  unfold markJobSucceeded
  have hentry : ∀ row : RuntimeJob, row.heldBy workerId = true →
      (row.succeed now).activeDedupe = row.activeDedupe ∨ (row.succeed now).activeDedupe = none :=
    fun row _ => Or.inr (activeDedupe_succeed now row)
  rcases IndexedTable.returning_total jobs jobId (RuntimeJob.heldBy workerId)
      (RuntimeJob.succeed now) (fun _ => rfl) hentry with
    ⟨row, jobs', hrow, hheld, hmodify, hreturning⟩ | ⟨hother, hreturning⟩
  · exact Or.inl ⟨row, jobs', hrow, hheld, hmodify, by rw [hreturning]; rfl⟩
  · exact Or.inr ⟨hother, by rw [hreturning]; rfl⟩

theorem markJobFailed_cases (error : String) (delay : ℤ) :
    (∃ row jobs', jobs.find jobId = some row ∧ row.heldBy workerId = true ∧
        jobs.modify jobId (RuntimeJob.fail now error delay) (fun _ => rfl) = some jobs' ∧
        markJobFailed now jobs jobId workerId error delay = some (true, jobs')) ∨
      ((∀ row, jobs.find jobId = some row → row.heldBy workerId = false) ∧
        markJobFailed now jobs jobId workerId error delay = some (false, jobs)) := by
  unfold markJobFailed
  have hentry : ∀ row : RuntimeJob, row.heldBy workerId = true →
      (row.fail now error delay).activeDedupe = row.activeDedupe ∨
        (row.fail now error delay).activeDedupe = none := fun row held => activeDedupe_fail held
  rcases IndexedTable.returning_total jobs jobId (RuntimeJob.heldBy workerId)
      (RuntimeJob.fail now error delay) (fun _ => rfl) hentry with
    ⟨row, jobs', hrow, hheld, hmodify, hreturning⟩ | ⟨hother, hreturning⟩
  · exact Or.inl ⟨row, jobs', hrow, hheld, hmodify, by rw [hreturning]; rfl⟩
  · exact Or.inr ⟨hother, by rw [hreturning]; rfl⟩

end

/-! ### `list_dead_letter_jobs` -/

namespace RuntimeJob

/-- The filter of the dead-letter statements. -/
def deadLettered (row : RuntimeJob) : Bool :=
  row.status = .failed && row.maxAttempts ≤ row.attempts

def failedLater (a b : RuntimeJob) : Bool :=
  let failedAt (row : RuntimeJob) : ℤ :=
    (row.finalFailedAt.or row.finishedAt).getD row.updatedAt
  decide (failedAt b < failedAt a ∨ failedAt a = failedAt b ∧ b.createdAt ≤ a.createdAt)

end RuntimeJob

def listDeadLetterJobs (jobs : RuntimeJobs) (queueName : Option String) (limit : ℤ) :
    List RuntimeJob :=
  let matching := jobs.rows.filter fun row =>
    row.deadLettered && queueName.all (row.queueName = ·)
  (matching.mergeSort RuntimeJob.failedLater).take (max 1 (min limit 500)).toNat

/-! ### `requeue_failed_job` -/

structure RuntimeQueueRequeueResult where
  jobId : ℕ
  requeued : Bool
  resetAttempts : Bool
  attempts : Option ℕ := none
  deriving DecidableEq

def RuntimeJob.requeue (now : ℤ) (resetAttempts : Bool) (runAfter : ℤ) (row : RuntimeJob) :
    RuntimeJob :=
  { row with
    status := .queued
    attempts := if resetAttempts then 0 else row.attempts
    runAfter := runAfter
    leasedBy := none
    leaseExpiresAt := none
    finalFailedAt := none
    finishedAt := none
    lastError := none
    updatedAt := now }

def requeueFailedJob (now : ℤ) (jobs : RuntimeJobs) (jobId : ℕ) (resetAttempts : Bool)
    (runAfter : Option ℤ) : Option (RuntimeQueueRequeueResult × RuntimeJobs) :=
  (jobs.returning jobId (fun row => row.status = .failed)
    (RuntimeJob.requeue now resetAttempts (runAfter.getD now)) fun _ => rfl).map
    fun (returned, updated) =>
      (⟨jobId, returned.isSome, resetAttempts, returned.map RuntimeJob.attempts⟩, updated)

end FloodRisk.Queue
