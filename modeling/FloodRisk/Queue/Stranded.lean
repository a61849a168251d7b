import FloodRisk.Queue.Runs

/-!
# Where every runtime job is

A job is finished, dead-lettered, under an unexpired lease or to be dequeued
again.  The exception is a lease of the last attempt that runs out: the guard
of the dequeue then refuses the job, and no call but one by the lost worker
moves it.
-/

namespace FloodRisk.Queue
open Transition

/-- One of the situations that the operations of the queue can leave. -/
def Accounted (now : ℤ) (row : RuntimeJob) : Prop :=
  row.status = .succeeded ∨ row.deadLettered = true ∨
    (row.status = .running ∧ ∃ expires, row.leaseExpiresAt = some expires ∧ now < expires) ∨
    row.dequeueable now row.queueName = true ∨ (row.status = .queued ∧ now < row.runAfter)

/-- The lease of the last attempt has run out. -/
def Stranded (now : ℤ) (row : RuntimeJob) : Prop :=
  row.status = .running ∧ row.maxAttempts ≤ row.attempts ∧
    ∃ expires, row.leaseExpiresAt = some expires ∧ expires ≤ now

/-- What the statements keep true of a row by themselves. -/
structure SoundRow (row : RuntimeJob) : Prop where
  status : row.status ≠ .skipped ∧ row.status ≠ .cancelled
  leased : row.status = .running → row.leaseExpiresAt ≠ none
  exhausted : row.status = .failed → row.maxAttempts ≤ row.attempts

theorem accounted_iff {now : ℤ} {row : RuntimeJob} (h : SoundRow row) :
    Accounted now row ↔ ¬ Stranded now row := by
  cases hstatus : row.status with
  | queued =>
      have hnot : ¬ Stranded now row := fun hs => absurd hs.1 (by simp [hstatus])
      refine ⟨fun _ => hnot, fun _ => ?_⟩
      by_cases hdue : row.runAfter ≤ now
      · refine Or.inr (Or.inr (Or.inr (Or.inl ?_)))
        simp [RuntimeJob.dequeueable, hstatus, hdue]
      · exact Or.inr (Or.inr (Or.inr (Or.inr ⟨hstatus, not_le.mp hdue⟩)))
  | running =>
      obtain ⟨expires, hexpires⟩ := Option.ne_none_iff_exists'.mp (h.leased hstatus)
      constructor
      · rintro hacc ⟨-, hlast, other, hother, hpast⟩
        rw [hexpires] at hother
        obtain rfl := Option.some.inj hother
        rcases hacc with hs | hs | ⟨-, later, hlater, hfuture⟩ | hs | ⟨hs, -⟩
        · simp [hstatus] at hs
        · simp [RuntimeJob.deadLettered, hstatus] at hs
        · rw [hexpires] at hlater
          obtain rfl := Option.some.inj hlater
          omega
        · simp [RuntimeJob.dequeueable, hstatus, hexpires] at hs
          omega
        · simp [hstatus] at hs
      · intro hnot
        by_cases hfuture : now < expires
        · exact Or.inr (Or.inr (Or.inl ⟨hstatus, expires, hexpires, hfuture⟩))
        · have hleft : row.attempts < row.maxAttempts := by
            by_contra hlast
            exact hnot ⟨hstatus, Nat.not_lt.mp hlast, expires, hexpires, not_lt.mp hfuture⟩
          refine Or.inr (Or.inr (Or.inr (Or.inl ?_)))
          simp [RuntimeJob.dequeueable, hstatus, hexpires, hleft, not_lt.mp hfuture]
  | succeeded =>
      exact ⟨fun _ hs => absurd hs.1 (by simp [hstatus]), fun _ => Or.inl hstatus⟩
  | failed =>
      refine ⟨fun _ hs => absurd hs.1 (by simp [hstatus]), fun _ => Or.inr (Or.inl ?_)⟩
      simp [RuntimeJob.deadLettered, hstatus, h.exhausted hstatus]
  | skipped => exact absurd hstatus h.status.1
  | cancelled => exact absurd hstatus h.status.2

/-! ### One step -/

theorem soundRow_of_jobStep {db : QueueDatabase} {call : QueueCall} {old : Option RuntimeJob}
    {row' : RuntimeJob} {events : List QueueEvent} (hstep : JobStep db call old row' events) :
    SoundRow row' := by
  cases hstep with
  | created request newId positive =>
      exact ⟨⟨by simp [EnqueueRequest.insertedJob], by simp [EnqueueRequest.insertedJob]⟩,
        by simp [EnqueueRequest.insertedJob], by simp [EnqueueRequest.insertedJob]⟩
  | requeued row resetAttempts runAfter dead =>
      exact ⟨⟨by simp [RuntimeJob.requeue], by simp [RuntimeJob.requeue]⟩,
        by simp [RuntimeJob.requeue], by simp [RuntimeJob.requeue]⟩
  | replayed row requestedBy reason resetAttempts dead free =>
      exact ⟨⟨by simp [RuntimeJob.requeue], by simp [RuntimeJob.requeue]⟩,
        by simp [RuntimeJob.requeue], by simp [RuntimeJob.requeue]⟩
  | leased row queueName workerId leaseSeconds locked next =>
      exact ⟨⟨by simp [RuntimeJob.lease], by simp [RuntimeJob.lease]⟩,
        by simp [RuntimeJob.lease], by simp [RuntimeJob.lease]⟩
  | succeeded row workerId held =>
      exact ⟨⟨by simp [RuntimeJob.succeed], by simp [RuntimeJob.succeed]⟩,
        by simp [RuntimeJob.succeed], by simp [RuntimeJob.succeed]⟩
  | failed row workerId error delay held =>
      by_cases hretries : row.attempts < row.maxAttempts
      · exact ⟨⟨by simp [RuntimeJob.fail, hretries], by simp [RuntimeJob.fail, hretries]⟩,
          by simp [RuntimeJob.fail, hretries], by simp [RuntimeJob.fail, hretries]⟩
      · exact ⟨⟨by simp [RuntimeJob.fail, hretries], by simp [RuntimeJob.fail, hretries]⟩,
          by simp [RuntimeJob.fail, hretries],
          fun _ => by simpa [RuntimeJob.fail] using Nat.not_lt.mp hretries⟩

def SoundJobs (db : QueueDatabase) : Prop := ∀ row ∈ db.jobs, SoundRow row

theorem soundJobs_step (db : QueueDatabase) (call : QueueCall) (h : SoundJobs db) :
    SoundJobs (db.step call) := by
  intro row hrow
  rcases call_effect db call with ⟨-, hjobs⟩ | ⟨row', hstep, hfind, hother⟩
  · rw [hjobs] at hrow
    exact h row hrow
  · have hchange : db.jobs.ChangesRow (db.step call).jobs row' := ⟨hfind, hother⟩
    rcases hchange.mem_cases hrow with ⟨hold, -⟩ | rfl
    · exact h row hold
    · exact soundRow_of_jobStep hstep

def NoneStranded (db : QueueDatabase) : Prop := ∀ row ∈ db.jobs, ¬ Stranded db.now row

/-- The only change that strands the changed job is a lease of the last
attempt that is over when it begins. -/
theorem stranded_jobStep_iff {db : QueueDatabase} {call : QueueCall} {old : Option RuntimeJob}
    {row' : RuntimeJob} {events : List QueueEvent} (hstep : JobStep db call old row' events) :
    Stranded db.now row' ↔
      ∃ row queueName workerId leaseSeconds locked,
        call = .dequeue queueName workerId leaseSeconds locked ∧
        nextJob db.now db.jobs queueName locked = some row ∧
        row.maxAttempts ≤ row.attempts + 1 ∧ leaseSeconds ≤ 0 := by
  cases hstep with
  | created request newId positive =>
      refine ⟨fun h => absurd h.1 (by simp [EnqueueRequest.insertedJob]), ?_⟩
      rintro ⟨_, _, _, _, _, h, _⟩
      simp at h
  | requeued row resetAttempts runAfter dead =>
      refine ⟨fun h => absurd h.1 (by simp [RuntimeJob.requeue]), ?_⟩
      rintro ⟨_, _, _, _, _, h, _⟩
      simp at h
  | replayed row requestedBy reason resetAttempts dead free =>
      refine ⟨fun h => absurd h.1 (by simp [RuntimeJob.requeue]), ?_⟩
      rintro ⟨_, _, _, _, _, h, _⟩
      simp at h
  | succeeded row workerId held =>
      refine ⟨fun h => absurd h.1 (by simp [RuntimeJob.succeed]), ?_⟩
      rintro ⟨_, _, _, _, _, h, _⟩
      simp at h
  | failed row workerId error delay held =>
      constructor
      · intro h
        have hstatus := h.1
        simp only [RuntimeJob.fail] at hstatus
        split at hstatus <;> simp at hstatus
      · rintro ⟨_, _, _, _, _, h, _⟩
        simp at h
  | leased row queueName workerId leaseSeconds locked next =>
      constructor
      · rintro ⟨-, hlast, expires, hexpires, hpast⟩
        have heq : db.now + makeInterval leaseSeconds = expires := Option.some.inj hexpires
        refine ⟨row, queueName, workerId, leaseSeconds, locked, rfl, next, hlast, ?_⟩
        simp only [makeInterval] at heq
        omega
      · rintro ⟨other, _, _, _, _, hcall, hnext, hlast, hseconds⟩
        simp only [QueueCall.dequeue.injEq] at hcall
        obtain ⟨rfl, rfl, rfl, rfl⟩ := hcall
        rw [next] at hnext
        obtain rfl := Option.some.inj hnext
        refine ⟨rfl, hlast, _, rfl, ?_⟩
        simp only [makeInterval]
        omega

/-- The call lets no lease of a last attempt run out: time stops short of
those that are held, and a dequeue for the last attempt grants one that is not
over at once. -/
def KeepsLastLeases (db : QueueDatabase) (call : QueueCall) : Prop :=
  (∀ row ∈ db.jobs, row.status = .running → row.maxAttempts ≤ row.attempts →
    ∀ expires, row.leaseExpiresAt = some expires → db.now + call.elapsed < expires) ∧
  ∀ queueName workerId leaseSeconds locked row,
    call = .dequeue queueName workerId leaseSeconds locked →
      nextJob db.now db.jobs queueName locked = some row →
      row.maxAttempts ≤ row.attempts + 1 → 0 < leaseSeconds

theorem elapsed_of_jobStep {db : QueueDatabase} {call : QueueCall} {old : Option RuntimeJob}
    {row' : RuntimeJob} {events : List QueueEvent} (hstep : JobStep db call old row' events) :
    call.elapsed = 0 := by
  cases hstep <;> rfl

theorem noneStranded_step_iff (db : QueueDatabase) (call : QueueCall) (h : NoneStranded db) :
    NoneStranded (db.step call) ↔ KeepsLastLeases db call := by
  have hnow := step_now db call
  rcases call_effect db call with ⟨hevents, hjobs⟩ | ⟨row', hstep, hfind, hother⟩
  · -- no job changes, so only the clock can strand one
    have hquiet : ∀ queueName workerId leaseSeconds locked row,
        call = .dequeue queueName workerId leaseSeconds locked →
          nextJob db.now db.jobs queueName locked ≠ some row := by
      rintro queueName workerId leaseSeconds locked row rfl hnext
      obtain ⟨⟨result, jobs⟩, hcall⟩ :=
        dequeue_isSome db.now db.jobs queueName workerId leaseSeconds locked
      rcases dequeue_cases hcall with ⟨hnone, -⟩ | ⟨other, -, rfl, -⟩
      · rw [hnone] at hnext
        exact absurd hnext (by simp)
      · simp only [queueEvents, hcall] at hevents
        exact absurd hevents (by simp)
    constructor
    · intro hnew
      refine ⟨?_, fun queueName workerId leaseSeconds locked row hcall hnext =>
        absurd hnext (hquiet queueName workerId leaseSeconds locked row hcall)⟩
      intro row hrow hstatus hlast expires hexpires
      by_contra hpast
      refine hnew row (hjobs ▸ hrow) ⟨hstatus, hlast, expires, hexpires, ?_⟩
      omega
    · intro hkeeps row hrow hstranded
      rw [hjobs] at hrow
      obtain ⟨hstatus, hlast, expires, hexpires, hpast⟩ := hstranded
      have hlater := hkeeps.1 row hrow hstatus hlast expires hexpires
      omega
  · have helapsed := elapsed_of_jobStep hstep
    rw [helapsed] at hnow
    have hsame : (db.step call).now = db.now := by simpa using hnow
    have hchange : db.jobs.ChangesRow (db.step call).jobs row' := ⟨hfind, hother⟩
    constructor
    · intro hnew
      refine ⟨?_, ?_⟩
      · intro row hrow hstatus hlast expires hexpires
        by_contra hpast
        refine h row hrow ⟨hstatus, hlast, expires, hexpires, ?_⟩
        rw [helapsed] at hpast
        simpa using not_lt.mp hpast
      · intro queueName workerId leaseSeconds locked row hcall hnext hlast
        by_contra hseconds
        have hstranded := (stranded_jobStep_iff hstep).mpr
          ⟨row, queueName, workerId, leaseSeconds, locked, hcall, hnext, hlast,
            not_lt.mp hseconds⟩
        exact hnew row' hchange.mem (hsame ▸ hstranded)
    · intro hkeeps row hrow hstranded
      rw [hsame] at hstranded
      rcases hchange.mem_cases hrow with ⟨hold, -⟩ | rfl
      · exact h row hold hstranded
      · obtain ⟨old, queueName, workerId, leaseSeconds, locked, hcall, hnext, hlast, hseconds⟩ :=
          (stranded_jobStep_iff hstep).mp hstranded
        have hpositive := hkeeps.2 queueName workerId leaseSeconds locked old hcall hnext hlast
        omega

/-! ### Runs -/

/-- In a run from the empty table every job is accounted for in every state
exactly when no lease of a last attempt is let run out. -/
theorem jobs_accounted_iff (start : ℤ) (calls : List QueueCall) :
    (∀ db ∈ trajectory QueueDatabase.step (.empty start) calls,
        ∀ row ∈ db.jobs, Accounted db.now row) ↔
      Along QueueDatabase.step KeepsLastLeases (.empty start) calls := by
  have hsound : SoundJobs (.empty start) := fun row hrow =>
    absurd hrow (IndexedTable.not_mem_empty row)
  have hnone : NoneStranded (.empty start) := fun row hrow =>
    absurd hrow (IndexedTable.not_mem_empty row)
  rw [← trajectory_forall_iff_along (fun _ _ (_ : True) => trivial)
    (fun db call _ => noneStranded_step_iff db call) trivial hnone]
  have hreached : ∀ db ∈ trajectory QueueDatabase.step (.empty start) calls, SoundJobs db :=
    trajectory_invariant soundJobs_step hsound
  constructor
  · intro h db hdb row hrow
    exact (accounted_iff (hreached db hdb row hrow)).mp (h db hdb row hrow)
  · intro h db hdb row hrow
    exact (accounted_iff (hreached db hdb row hrow)).mpr (h db hdb row hrow)

/-- The worker of the only attempt dies and its lease runs out. -/
def deadWorkerCalls : List QueueCall :=
  [.operator (.enqueue waterLevelRequest 1), .dequeue "runtime-adapters" "worker-a" 300 [],
    .operator (.wait 300000000)]

/-- The job stays running, is not dead-lettered and no dequeue takes it, while
its dedupe key turns away the next request for the adapter. -/
theorem job_of_dead_worker_is_stranded :
    run QueueDatabase.step (.empty 0) deadWorkerCalls ∈
        trajectory QueueDatabase.step (.empty 0) deadWorkerCalls ∧
      ∃ row ∈ (run QueueDatabase.step (.empty 0) deadWorkerCalls).jobs,
        ¬ Accounted (run QueueDatabase.step (.empty 0) deadWorkerCalls).now row := by
  have hfind : (run QueueDatabase.step (.empty 0) deadWorkerCalls).jobs.find 1 =
      some (((run QueueDatabase.step (.empty 0) deadWorkerCalls).jobs.find 1).get
        (by decide +kernel)) := (Option.some_get _).symm
  have hrow := (IndexedTable.find_eq_some_iff.mp hfind).1
  have hsound : SoundJobs (run QueueDatabase.step (.empty 0) deadWorkerCalls) :=
    run_invariant soundJobs_step (fun row hrow => absurd hrow (IndexedTable.not_mem_empty row)) _
  refine ⟨run_mem_trajectory (by simp [deadWorkerCalls]), _, hrow, ?_⟩
  rw [accounted_iff (hsound _ hrow), not_not]
  exact ⟨by decide +kernel, by decide +kernel, 300000000, by decide +kernel, by decide +kernel⟩

end FloodRisk.Queue
