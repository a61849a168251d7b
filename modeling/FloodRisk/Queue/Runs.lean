import FloodRisk.Lib.Transition
import FloodRisk.Queue.ReplayAudit

/-!
# Runs of the runtime queue

The calls that any number of producers, workers and operators issue, in any
order, with time passing between them.  A call that raises leaves the database
as it was.
-/

namespace FloodRisk.Queue
open Transition

inductive OperatorCall where
  | enqueue (request : EnqueueRequest) (newId : ℕ)
  | requeue (jobId : ℕ) (resetAttempts : Bool) (runAfter : Option ℤ)
  | requeueWithAudit (jobId : ℕ) (requestedBy reason : String) (resetAttempts : Bool)
  | quarantine (jobId : ℕ) (quarantinedBy reason : String) (attempts : Option ℤ) (newId : ℕ)
  | release (jobId : ℕ) (releasedBy : String) (reason : Option String)
  | wait (elapsed : ℕ)

inductive QueueCall where
  | operator (call : OperatorCall)
  | dequeue (queueName workerId : String) (leaseSeconds : ℤ) (locked : List ℕ)
  | succeed (jobId : ℕ) (workerId : String)
  | fail (jobId : ℕ) (workerId error : String) (retryDelaySeconds : ℤ)

namespace QueueDatabase

/-- The database after a statement on `worker_runtime_jobs`. -/
def settle {α : Type} (db : QueueDatabase) (result : Option (α × RuntimeJobs)) : QueueDatabase :=
  match result with
  | none => db
  | some (_, jobs) => { db with jobs := jobs }

def operate (db : QueueDatabase) : OperatorCall → QueueDatabase
  | .enqueue request newId => db.settle (enqueueAdapterJob db.now db.jobs request newId)
  | .requeue jobId resetAttempts runAfter =>
      db.settle (requeueFailedJob db.now db.jobs jobId resetAttempts runAfter)
  | .requeueWithAudit jobId requestedBy reason resetAttempts =>
      ((requeueFailedJobWithAudit db jobId requestedBy reason resetAttempts).map Prod.snd).getD db
  | .quarantine jobId quarantinedBy reason attempts newId =>
      (quarantinePoisonJob db jobId quarantinedBy reason attempts newId).getD db
  | .release jobId releasedBy reason =>
      ((releasePoisonQuarantine db jobId releasedBy reason).map Prod.snd).getD db
  | .wait elapsed => { db with now := db.now + elapsed }

def step (db : QueueDatabase) : QueueCall → QueueDatabase
  | .operator call => db.operate call
  | .dequeue queueName workerId leaseSeconds locked =>
      db.settle (dequeueAdapterJob db.now db.jobs queueName workerId leaseSeconds locked)
  | .succeed jobId workerId => db.settle (markJobSucceeded db.now db.jobs jobId workerId)
  | .fail jobId workerId error retryDelaySeconds =>
      db.settle (markJobFailed db.now db.jobs jobId workerId error retryDelaySeconds)

end QueueDatabase

def waterLevelRequest : EnqueueRequest :=
  { adapterKey := "official.wra.water_level", maxAttempts := 1,
    dedupeKey := some "runtime-adapters:official.wra.water_level" }

/-! ### What one call does -/

/-- What a call tells about the attempts of a job: the counter starts again,
is kept by a requeue, or the job is handed to a worker. -/
inductive QueueEvent where
  | reset (jobId : ℕ) | kept (jobId : ℕ) | handed (jobId : ℕ)
  deriving DecidableEq

def requeueEvent (jobId : ℕ) (resetAttempts : Bool) : QueueEvent :=
  if resetAttempts then .reset jobId else .kept jobId

def queueEvents (db : QueueDatabase) : QueueCall → List QueueEvent
  | .operator (.enqueue request newId) =>
      match enqueueAdapterJob db.now db.jobs request newId with
      | some (⟨.enqueued, some jobId, _⟩, _) => [.reset jobId]
      | _ => []
  | .operator (.requeue jobId resetAttempts runAfter) =>
      match requeueFailedJob db.now db.jobs jobId resetAttempts runAfter with
      | some (result, _) => if result.requeued then [requeueEvent jobId resetAttempts] else []
      | none => []
  | .operator (.requeueWithAudit jobId requestedBy reason resetAttempts) =>
      match requeueFailedJobWithAudit db jobId requestedBy reason resetAttempts with
      | some (result, _) => if result.requeued then [requeueEvent jobId resetAttempts] else []
      | none => []
  | .dequeue queueName workerId leaseSeconds locked =>
      match dequeueAdapterJob db.now db.jobs queueName workerId leaseSeconds locked with
      | some (some job, _) => [.handed job.id]
      | _ => []
  | _ => []

/-- The ways in which a call changes the row of one job, `none` for a job that
does not exist yet, with the events of the call. -/
inductive JobStep (db : QueueDatabase) :
    QueueCall → Option RuntimeJob → RuntimeJob → List QueueEvent → Prop where
  | created (request : EnqueueRequest) (newId : ℕ) (positive : 0 < request.maxAttempts) :
      JobStep db (.operator (.enqueue request newId)) none
        (request.insertedJob db.now newId positive) [.reset newId]
  | requeued (row : RuntimeJob) (resetAttempts : Bool) (runAfter : Option ℤ)
      (dead : row.status = .failed) :
      JobStep db (.operator (.requeue row.id resetAttempts runAfter)) (some row)
        (row.requeue db.now resetAttempts (runAfter.getD db.now))
        [requeueEvent row.id resetAttempts]
  | replayed (row : RuntimeJob) (requestedBy reason : String) (resetAttempts : Bool)
      (dead : row.status = .failed) (free : hasActivePoisonQuarantine db row.id = false) :
      JobStep db (.operator (.requeueWithAudit row.id requestedBy reason resetAttempts)) (some row)
        (row.requeue db.now resetAttempts db.now) [requeueEvent row.id resetAttempts]
  | leased (row : RuntimeJob) (queueName workerId : String) (leaseSeconds : ℤ) (locked : List ℕ)
      (next : nextJob db.now db.jobs queueName locked = some row) :
      JobStep db (.dequeue queueName workerId leaseSeconds locked) (some row)
        (row.lease db.now workerId leaseSeconds) [.handed row.id]
  | succeeded (row : RuntimeJob) (workerId : String) (held : row.heldBy workerId = true) :
      JobStep db (.succeed row.id workerId) (some row) (row.succeed db.now) []
  | failed (row : RuntimeJob) (workerId error : String) (delay : ℤ)
      (held : row.heldBy workerId = true) :
      JobStep db (.fail row.id workerId error delay) (some row) (row.fail db.now error delay) []

/-- Every job keeps its row and the call has no events, or one job changes. -/
def CallEffect (db : QueueDatabase) (call : QueueCall) : Prop :=
  (queueEvents db call = [] ∧ (db.step call).jobs = db.jobs) ∨
    ∃ row', JobStep db call (db.jobs.find row'.id) row' (queueEvents db call) ∧
      (db.step call).jobs.find row'.id = some row' ∧
      ∀ jobId, jobId ≠ row'.id → (db.step call).jobs.find jobId = db.jobs.find jobId

theorem enqueue_effect (db : QueueDatabase) (request : EnqueueRequest) (newId : ℕ) :
    CallEffect db (.operator (.enqueue request newId)) := by
  cases hcall : enqueueAdapterJob db.now db.jobs request newId with
  | none =>
      refine Or.inl ⟨by simp only [queueEvents, hcall], ?_⟩
      simp only [QueueDatabase.step, QueueDatabase.operate, hcall, QueueDatabase.settle]
  | some answer =>
      obtain ⟨result, jobs⟩ := answer
      have hjobs : (db.step (.operator (.enqueue request newId))).jobs = jobs := by
        simp only [QueueDatabase.step, QueueDatabase.operate, hcall, QueueDatabase.settle]
      rcases enqueue_cases hcall with ⟨hstatus, rfl⟩ | ⟨positive, hstatus, hid, hinsert⟩
      · refine Or.inl ⟨?_, hjobs⟩
        simp only [queueEvents, hcall]
        split
        · rename_i heq
          simp only [Option.some.injEq, Prod.mk.injEq] at heq
          rw [heq.1] at hstatus
          simp at hstatus
        · rfl
      · right
        refine ⟨request.insertedJob db.now newId positive, ?_, ?_, ?_⟩
        · have hevents : queueEvents db (.operator (.enqueue request newId)) = [.reset newId] := by
            obtain ⟨status, jobId, dedupeKey⟩ := result
            simp only at hstatus hid
            simp only [queueEvents, hcall, hstatus, hid]
          have hfree : db.jobs.find (request.insertedJob db.now newId positive).id = none := by
            rw [IndexedTable.find_eq_none_iff]
            exact IndexedTable.key_ne_of_insert hinsert
          rw [hevents, hfree]
          exact .created request newId positive
        · rw [hjobs]
          exact IndexedTable.find_insert_self hinsert
        · intro jobId hne
          rw [hjobs]
          exact IndexedTable.find_insert_of_ne hinsert hne

theorem effect_of_modify {db : QueueDatabase} {call : QueueCall} {row : RuntimeJob}
    {f : RuntimeJob → RuntimeJob} {keeps : ∀ r, (f r).id = r.id} {jobs : RuntimeJobs}
    (hrow : db.jobs.find row.id = some row) (hmodify : db.jobs.modify row.id f keeps = some jobs)
    (hjobs : (db.step call).jobs = jobs)
    (hstep : JobStep db call (some row) (f row) (queueEvents db call)) : CallEffect db call := by
  have hid : (f row).id = row.id := keeps row
  refine Or.inr ⟨f row, ?_, ?_, ?_⟩
  · rw [hid, hrow]
    exact hstep
  · rw [hid, hjobs]
    exact IndexedTable.find_modify_self hmodify hrow
  · intro jobId hne
    rw [hjobs]
    exact IndexedTable.find_modify_of_ne hmodify (hid ▸ hne)

theorem requeue_effect (db : QueueDatabase) (jobId : ℕ) (resetAttempts : Bool)
    (runAfter : Option ℤ) : CallEffect db (.operator (.requeue jobId resetAttempts runAfter)) := by
  have hcall : requeueFailedJob db.now db.jobs jobId resetAttempts runAfter =
      (db.jobs.returning jobId (fun row => row.status = .failed)
        (RuntimeJob.requeue db.now resetAttempts (runAfter.getD db.now)) fun _ => rfl).map
        fun answer =>
          (⟨jobId, answer.1.isSome, resetAttempts, answer.1.map RuntimeJob.attempts⟩,
            answer.2) := rfl
  cases hresult : db.jobs.returning jobId (fun row => row.status = .failed)
      (RuntimeJob.requeue db.now resetAttempts (runAfter.getD db.now)) (fun _ => rfl) with
  | none =>
      rw [hresult, Option.map_none] at hcall
      refine Or.inl ⟨by simp only [queueEvents, hcall], ?_⟩
      simp only [QueueDatabase.step, QueueDatabase.operate, hcall, QueueDatabase.settle]
  | some answer =>
      obtain ⟨returned, jobs⟩ := answer
      rw [hresult, Option.map_some] at hcall
      have hjobs : (db.step (.operator (.requeue jobId resetAttempts runAfter))).jobs = jobs := by
        simp only [QueueDatabase.step, QueueDatabase.operate, hcall, QueueDatabase.settle]
      rcases IndexedTable.returning_cases hresult with
        ⟨rfl, rfl, -⟩ | ⟨row, hrow, hdead, rfl, hmodify⟩
      · refine Or.inl ⟨?_, hjobs⟩
        simp only [queueEvents, hcall, Option.isSome_none, Bool.false_eq_true, if_false]
      · have hid := (IndexedTable.find_eq_some_iff.mp hrow).2
        subst hid
        have hevents : queueEvents db (.operator (.requeue row.id resetAttempts runAfter)) =
            [requeueEvent row.id resetAttempts] := by
          simp only [queueEvents, hcall, Option.isSome_some, if_true]
        refine effect_of_modify hrow hmodify hjobs ?_
        rw [hevents]
        exact .requeued row resetAttempts runAfter (of_decide_eq_true hdead)

theorem dequeue_effect (db : QueueDatabase) (queueName workerId : String) (leaseSeconds : ℤ)
    (locked : List ℕ) : CallEffect db (.dequeue queueName workerId leaseSeconds locked) := by
  obtain ⟨⟨result, jobs⟩, hcall⟩ :=
    dequeue_isSome db.now db.jobs queueName workerId leaseSeconds locked
  have hjobs : (db.step (.dequeue queueName workerId leaseSeconds locked)).jobs = jobs := by
    simp only [QueueDatabase.step, hcall, QueueDatabase.settle]
  rcases dequeue_cases hcall with ⟨-, rfl, rfl⟩ | ⟨row, hnext, rfl, hmodify⟩
  · exact Or.inl ⟨by simp only [queueEvents, hcall], hjobs⟩
  · refine effect_of_modify (nextJob_spec hnext).1 hmodify hjobs ?_
    have hevents : queueEvents db (.dequeue queueName workerId leaseSeconds locked) =
        [.handed row.id] := by
      simp only [queueEvents, hcall]
      rfl
    rw [hevents]
    exact .leased row queueName workerId leaseSeconds locked hnext

theorem succeed_effect (db : QueueDatabase) (jobId : ℕ) (workerId : String) :
    CallEffect db (.succeed jobId workerId) := by
  rcases markJobSucceeded_cases db.now db.jobs jobId workerId with
    ⟨row, jobs, hrow, hheld, hmodify, hcall⟩ | ⟨-, hcall⟩
  · have hid := (IndexedTable.find_eq_some_iff.mp hrow).2
    subst hid
    refine effect_of_modify hrow hmodify ?_ (.succeeded row workerId hheld)
    simp only [QueueDatabase.step, hcall, QueueDatabase.settle]
  · refine Or.inl ⟨rfl, ?_⟩
    simp only [QueueDatabase.step, hcall, QueueDatabase.settle]

theorem fail_effect (db : QueueDatabase) (jobId : ℕ) (workerId error : String) (delay : ℤ) :
    CallEffect db (.fail jobId workerId error delay) := by
  rcases markJobFailed_cases db.now db.jobs jobId workerId error delay with
    ⟨row, jobs, hrow, hheld, hmodify, hcall⟩ | ⟨-, hcall⟩
  · have hid := (IndexedTable.find_eq_some_iff.mp hrow).2
    subst hid
    refine effect_of_modify hrow hmodify ?_ (.failed row workerId error delay hheld)
    simp only [QueueDatabase.step, hcall, QueueDatabase.settle]
  · refine Or.inl ⟨rfl, ?_⟩
    simp only [QueueDatabase.step, hcall, QueueDatabase.settle]

theorem effect_of_refuse {db : QueueDatabase} {jobId : ℕ} {requestedBy reason : String}
    {resetAttempts : Bool} {result : AuditedRuntimeQueueRequeueResult} {after : QueueDatabase}
    (hcall : requeueFailedJobWithAudit db jobId requestedBy reason resetAttempts =
      some (result, after)) (hrefused : result.requeued = false) (hjobs : after.jobs = db.jobs) :
    CallEffect db (.operator (.requeueWithAudit jobId requestedBy reason resetAttempts)) := by
  refine Or.inl ⟨?_, ?_⟩
  · simp only [queueEvents, hcall, hrefused, Bool.false_eq_true, if_false]
  · simp only [QueueDatabase.step, QueueDatabase.operate, hcall, Option.map_some, Option.getD_some,
      hjobs]

theorem requeueWithAudit_effect (db : QueueDatabase) (jobId : ℕ) (requestedBy reason : String)
    (resetAttempts : Bool) :
    CallEffect db (.operator (.requeueWithAudit jobId requestedBy reason resetAttempts)) := by
  cases hfind : db.jobs.find jobId with
  | none =>
      have hcall : requeueFailedJobWithAudit db jobId requestedBy reason resetAttempts =
          some ({ jobId := jobId, requeued := false, resetAttempts := resetAttempts,
                  reason := some "queue_row_not_found" }, db) := by
        simp only [requeueFailedJobWithAudit, hfind]
      exact effect_of_refuse hcall rfl rfl
  | some row =>
      have hid := (IndexedTable.find_eq_some_iff.mp hfind).2
      subst hid
      cases hactive : hasActivePoisonQuarantine db row.id with
      | true =>
          exact effect_of_refuse
            (replay_of_quarantined requestedBy reason resetAttempts hfind hactive) rfl rfl
      | false =>
          by_cases hstatus : row.status = .failed
          · cases hentry : db.jobs.taken
              (row.requeue db.now resetAttempts db.now).activeDedupe row.id with
            | true =>
                have hcall := replay_of_taken requestedBy reason resetAttempts hfind hactive
                  hstatus hentry
                refine Or.inl ⟨by simp only [queueEvents, hcall], ?_⟩
                simp only [QueueDatabase.step, QueueDatabase.operate, hcall, Option.map_none,
                  Option.getD_none]
            | false =>
                obtain ⟨jobs, result, hmodify, hrequeued, hcall⟩ :=
                  replay_of_free requestedBy reason resetAttempts hfind hactive hstatus hentry
                refine effect_of_modify hfind hmodify ?_ ?_
                · simp only [QueueDatabase.step, QueueDatabase.operate, hcall, Option.map_some,
                    Option.getD_some]
                  rfl
                · have hevents : queueEvents db
                      (.operator (.requeueWithAudit row.id requestedBy reason resetAttempts)) =
                      [requeueEvent row.id resetAttempts] := by
                    simp only [queueEvents, hcall, hrequeued, if_true]
                  rw [hevents]
                  exact .replayed row requestedBy reason resetAttempts hstatus hactive
          · exact effect_of_refuse
              (replay_of_not_failed requestedBy reason resetAttempts hfind hactive hstatus) rfl rfl

theorem quarantine_jobs {db after : QueueDatabase} {jobId : ℕ} {quarantinedBy reason : String}
    {attempts : Option ℤ} {newId : ℕ}
    (h : quarantinePoisonJob db jobId quarantinedBy reason attempts newId = some after) :
    after.jobs = db.jobs ∧ after.now = db.now := by
  unfold quarantinePoisonJob at h
  split at h
  · exact absurd h (by simp)
  · obtain ⟨quarantine, -, rfl⟩ := Option.map_eq_some_iff.mp h
    exact ⟨rfl, rfl⟩

theorem release_jobs {db : QueueDatabase} {jobId : ℕ} {releasedBy : String}
    {reason : Option String} {answer : Bool × QueueDatabase}
    (h : releasePoisonQuarantine db jobId releasedBy reason = some answer) :
    answer.2.jobs = db.jobs ∧ answer.2.now = db.now := by
  unfold releasePoisonQuarantine at h
  split at h
  · rw [← Option.some.inj h]
    exact ⟨rfl, rfl⟩
  · obtain ⟨quarantine, -, rfl⟩ := Option.map_eq_some_iff.mp h
    exact ⟨rfl, rfl⟩

theorem call_effect (db : QueueDatabase) (call : QueueCall) : CallEffect db call := by
  cases call with
  | operator operation =>
      cases operation with
      | enqueue request newId => exact enqueue_effect db request newId
      | requeue jobId resetAttempts runAfter => exact requeue_effect db jobId resetAttempts runAfter
      | requeueWithAudit jobId requestedBy reason resetAttempts =>
          exact requeueWithAudit_effect db jobId requestedBy reason resetAttempts
      | quarantine jobId quarantinedBy reason attempts newId =>
          refine Or.inl ⟨rfl, ?_⟩
          show ((quarantinePoisonJob db jobId quarantinedBy reason attempts newId).getD db).jobs = _
          cases hcall : quarantinePoisonJob db jobId quarantinedBy reason attempts newId with
          | none => rfl
          | some after => exact (quarantine_jobs hcall).1
      | release jobId releasedBy reason =>
          refine Or.inl ⟨rfl, ?_⟩
          show (((releasePoisonQuarantine db jobId releasedBy reason).map Prod.snd).getD db).jobs = _
          cases hcall : releasePoisonQuarantine db jobId releasedBy reason with
          | none => rfl
          | some answer => exact (release_jobs hcall).1
      | wait elapsed => exact Or.inl ⟨rfl, rfl⟩
  | dequeue queueName workerId leaseSeconds locked =>
      exact dequeue_effect db queueName workerId leaseSeconds locked
  | succeed jobId workerId => exact succeed_effect db jobId workerId
  | fail jobId workerId error delay => exact fail_effect db jobId workerId error delay

/-! ### The clock -/

def QueueCall.elapsed : QueueCall → ℕ
  | .operator (.wait elapsed) => elapsed
  | _ => 0

theorem settle_now {α : Type} (db : QueueDatabase) (result : Option (α × RuntimeJobs)) :
    (db.settle result).now = db.now := by
  unfold QueueDatabase.settle
  split <;> rfl

theorem replay_now {db : QueueDatabase} {jobId : ℕ} {requestedBy reason : String}
    {resetAttempts : Bool} {answer : AuditedRuntimeQueueRequeueResult × QueueDatabase}
    (h : requeueFailedJobWithAudit db jobId requestedBy reason resetAttempts = some answer) :
    answer.2.now = db.now := by
  unfold requeueFailedJobWithAudit at h
  split at h
  · rw [← Option.some.inj h]
  · simp only at h
    split at h
    · rw [← Option.some.inj h]
      rfl
    · split at h
      · rw [← Option.some.inj h]
        rfl
      · split at h
        · exact absurd h (by simp)
        · rw [← Option.some.inj h]
          rfl
        · rw [← Option.some.inj h]
          rfl

theorem step_now (db : QueueDatabase) (call : QueueCall) :
    (db.step call).now = db.now + call.elapsed := by
  cases call with
  | operator operation =>
      cases operation with
      | enqueue request newId => exact (settle_now db _).trans (Int.add_zero _).symm
      | requeue jobId resetAttempts runAfter =>
          exact (settle_now db _).trans (Int.add_zero _).symm
      | requeueWithAudit jobId requestedBy reason resetAttempts =>
          refine Eq.trans ?_ (Int.add_zero _).symm
          show (((requeueFailedJobWithAudit db jobId requestedBy reason resetAttempts).map
            Prod.snd).getD db).now = db.now
          cases hcall : requeueFailedJobWithAudit db jobId requestedBy reason resetAttempts with
          | none => rfl
          | some answer => exact replay_now hcall
      | quarantine jobId quarantinedBy reason attempts newId =>
          refine Eq.trans ?_ (Int.add_zero _).symm
          show ((quarantinePoisonJob db jobId quarantinedBy reason attempts newId).getD db).now = _
          cases hcall : quarantinePoisonJob db jobId quarantinedBy reason attempts newId with
          | none => rfl
          | some after => exact (quarantine_jobs hcall).2
      | release jobId releasedBy reason =>
          refine Eq.trans ?_ (Int.add_zero _).symm
          show (((releasePoisonQuarantine db jobId releasedBy reason).map Prod.snd).getD db).now = _
          cases hcall : releasePoisonQuarantine db jobId releasedBy reason with
          | none => rfl
          | some answer => exact (release_jobs hcall).2
      | wait elapsed => rfl
  | dequeue queueName workerId leaseSeconds locked =>
      exact (settle_now db _).trans (Int.add_zero _).symm
  | succeed jobId workerId => exact (settle_now db _).trans (Int.add_zero _).symm
  | fail jobId workerId error delay => exact (settle_now db _).trans (Int.add_zero _).symm

end FloodRisk.Queue
