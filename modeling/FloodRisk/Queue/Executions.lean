import FloodRisk.Queue.Runs

/-!
# Executions of the queue worker (workers jobs/runtime.py)

Each `work_runtime_queue_once` dequeues one job, runs the adapter for as long
as it takes and then issues one `mark_job_succeeded` or `mark_job_failed` with
the worker id of its dequeue, or dies before.  The executions of all processes
interleave with the operators and with time.
-/

namespace FloodRisk.Queue
open Transition

/-- `worker_id or settings.metrics_instance`. -/
def resolvedWorkerId (workerId : Option String) (metricsInstance : String) : String :=
  (workerId.filter (· ≠ "")).getD metricsInstance

/-- One dequeue that returned a job. -/
structure Execution where
  ticket : ℕ
  jobId : ℕ
  workerId : String
  deriving DecidableEq

/-- The call with which an execution ends. -/
inductive Settlement where
  | succeeded
  | failed (error : String) (retryDelaySeconds : ℤ)

/-- The executions, latest first, the tickets of those that have issued their
settlement, and the dequeues that a settlement has settled. -/
structure WorkerState where
  db : QueueDatabase
  executions : List Execution
  finished : List ℕ
  settled : List ℕ

def WorkerState.empty (start : ℤ) : WorkerState := ⟨.empty start, [], [], []⟩

inductive WorkerAction where
  | operator (call : OperatorCall)
  | start (queueName : String) (workerId : Option String) (metricsInstance : String)
      (leaseSeconds : ℤ) (locked : List ℕ)
  | settle (ticket : ℕ) (settlement : Settlement)

/-- The last dequeue of the job: its current lease, or the one settled last. -/
def latestExecution (s : WorkerState) (jobId : ℕ) : Option Execution :=
  s.executions.find? fun execution => execution.jobId = jobId

def openExecution (s : WorkerState) (ticket : ℕ) : Option Execution :=
  s.executions.find? fun execution => execution.ticket = ticket && ticket ∉ s.finished

/-- The answer of the mark call and the jobs after it. -/
def mark (db : QueueDatabase) (execution : Execution) (settlement : Settlement) :
    Bool × RuntimeJobs :=
  match settlement with
  | .succeeded =>
      (markJobSucceeded db.now db.jobs execution.jobId execution.workerId).getD (false, db.jobs)
  | .failed error delay =>
      (markJobFailed db.now db.jobs execution.jobId execution.workerId error delay).getD
        (false, db.jobs)

def WorkerState.step (s : WorkerState) : WorkerAction → WorkerState
  | .operator call => { s with db := s.db.step (.operator call) }
  | .start queueName workerId metricsInstance leaseSeconds locked =>
      let worker := resolvedWorkerId workerId metricsInstance
      match dequeueAdapterJob s.db.now s.db.jobs queueName worker leaseSeconds locked with
      | some (some job, jobs) =>
          { s with
            db := { s.db with jobs := jobs }
            executions := ⟨s.executions.length, job.id, worker⟩ :: s.executions }
      | _ => s
  | .settle ticket settlement =>
      match openExecution s ticket with
      | none => s
      | some execution =>
          let answer := mark s.db execution settlement
          { s with
            db := { s.db with jobs := answer.2 }
            finished := ticket :: s.finished
            settled :=
              if answer.1 then
                s.settled ++ (latestExecution s execution.jobId).toList.map Execution.ticket
              else s.settled }

/-- The job was dequeued again after the execution began. -/
def Superseded (s : WorkerState) (execution : Execution) : Prop :=
  ∃ later ∈ s.executions, later.jobId = execution.jobId ∧ execution.ticket < later.ticket

/-! ### What a mark does -/

theorem mark_cases (db : QueueDatabase) (execution : Execution) (settlement : Settlement) :
    (∃ row row', db.jobs.find execution.jobId = some row ∧
        row.heldBy execution.workerId = true ∧ row'.id = row.id ∧ row'.status ≠ .running ∧
        (mark db execution settlement).1 = true ∧
        db.jobs.ChangesRow (mark db execution settlement).2 row') ∨
      ((∀ row, db.jobs.find execution.jobId = some row →
          row.heldBy execution.workerId = false) ∧
        mark db execution settlement = (false, db.jobs)) := by
  cases settlement with
  | succeeded =>
      rcases markJobSucceeded_cases db.now db.jobs execution.jobId execution.workerId with
        ⟨row, jobs, hrow, hheld, hmodify, hcall⟩ | ⟨hother, hcall⟩
      · have hmark : mark db execution .succeeded = (true, jobs) := by simp only [mark, hcall]; rfl
        have hid := (IndexedTable.find_eq_some_iff.mp hrow).2
        left
        refine ⟨row, row.succeed db.now, hrow, hheld, rfl, by simp [RuntimeJob.succeed], ?_⟩
        rw [hmark]
        rw [← hid] at hmodify hrow
        exact ⟨rfl, IndexedTable.changesRow_of_modify hmodify hrow⟩
      · exact Or.inr ⟨hother, by simp only [mark, hcall]; rfl⟩
  | failed error delay =>
      rcases markJobFailed_cases db.now db.jobs execution.jobId execution.workerId error delay with
        ⟨row, jobs, hrow, hheld, hmodify, hcall⟩ | ⟨hother, hcall⟩
      · have hmark : mark db execution (.failed error delay) = (true, jobs) := by
          simp only [mark, hcall]; rfl
        have hid := (IndexedTable.find_eq_some_iff.mp hrow).2
        have hstatus : (row.fail db.now error delay).status ≠ .running := by
          by_cases hretries : row.attempts < row.maxAttempts <;>
            simp [RuntimeJob.fail, hretries]
        left
        refine ⟨row, row.fail db.now error delay, hrow, hheld, rfl, hstatus, ?_⟩
        rw [hmark]
        rw [← hid] at hmodify hrow
        exact ⟨rfl, IndexedTable.changesRow_of_modify hmodify hrow⟩
      · exact Or.inr ⟨hother, by simp only [mark, hcall]; rfl⟩

/-! ### Leases and executions -/

/-- A running job is held under the worker id of its last dequeue, which is
not settled; of every other job the last dequeue is settled. -/
structure LeaseLedger (s : WorkerState) : Prop where
  running : ∀ row ∈ s.db.jobs, row.status = .running →
    ∃ holder, latestExecution s row.id = some holder ∧ holder.ticket ∉ s.settled ∧
      row.leasedBy = some holder.workerId
  idle : ∀ row ∈ s.db.jobs, row.status ≠ .running →
    ∀ holder, latestExecution s row.id = some holder → holder.ticket ∈ s.settled
  known : ∀ execution ∈ s.executions, (s.db.jobs.find execution.jobId).isSome = true
  tickets : ∀ execution ∈ s.executions, execution.ticket < s.executions.length
  distinct : (s.executions.map Execution.ticket).Nodup
  settledTickets : ∀ ticket ∈ s.settled, ticket < s.executions.length
  settledOnce : s.settled.Nodup

theorem leaseLedger_empty (start : ℤ) : LeaseLedger (.empty start) where
  running := fun row hrow => absurd hrow (IndexedTable.not_mem_empty row)
  idle := fun row hrow => absurd hrow (IndexedTable.not_mem_empty row)
  known := by simp [WorkerState.empty]
  tickets := by simp [WorkerState.empty]
  distinct := List.nodup_nil
  settledTickets := by simp [WorkerState.empty]
  settledOnce := List.nodup_nil

theorem latest_spec {s : WorkerState} {jobId : ℕ} {holder : Execution}
    (h : latestExecution s jobId = some holder) :
    holder ∈ s.executions ∧ holder.jobId = jobId := by
  unfold latestExecution at h
  have hspec := List.find?_some h
  exact ⟨List.mem_of_find?_eq_some h, of_decide_eq_true hspec⟩

/-- The jobs that a step leaves alone keep their leases, when their last
dequeues stay what they are and none of these is settled. -/
theorem LeaseLedger.leases_of_change {s : WorkerState} (h : LeaseLedger s) (t : WorkerState)
    {row' : RuntimeJob}
    (change : s.db.jobs.ChangesRow t.db.jobs row')
    (latest : ∀ jobId, jobId ≠ row'.id → latestExecution t jobId = latestExecution s jobId)
    (settled : ∀ holder ∈ s.executions, holder.jobId ≠ row'.id →
      (holder.ticket ∈ t.settled ↔ holder.ticket ∈ s.settled))
    (running : row'.status = .running → ∃ holder, latestExecution t row'.id = some holder ∧
      holder.ticket ∉ t.settled ∧ row'.leasedBy = some holder.workerId)
    (idle : row'.status ≠ .running → ∀ holder, latestExecution t row'.id = some holder →
      holder.ticket ∈ t.settled) :
    (∀ row ∈ t.db.jobs, row.status = .running → ∃ holder,
        latestExecution t row.id = some holder ∧ holder.ticket ∉ t.settled ∧
          row.leasedBy = some holder.workerId) ∧
      ∀ row ∈ t.db.jobs, row.status ≠ .running →
        ∀ holder, latestExecution t row.id = some holder → holder.ticket ∈ t.settled := by
  refine ⟨?_, ?_⟩
  · intro row hrow hrunning
    rcases change.mem_cases hrow with ⟨hold, hid⟩ | rfl
    · obtain ⟨holder, hholder, hfree, hleased⟩ := h.running row hold hrunning
      obtain ⟨hmem, hjob⟩ := latest_spec hholder
      rw [latest row.id hid]
      exact ⟨holder, hholder, fun hnow => hfree ((settled holder hmem (hjob ▸ hid)).mp hnow),
        hleased⟩
    · exact running hrunning
  · intro row hrow hidle holder hholder
    rcases change.mem_cases hrow with ⟨hold, hid⟩ | rfl
    · rw [latest row.id hid] at hholder
      obtain ⟨hmem, hjob⟩ := latest_spec hholder
      exact (settled holder hmem (hjob ▸ hid)).mpr (h.idle row hold hidle holder hholder)
    · exact idle hidle holder hholder

/-- The changes that an operator can make leave no job running. -/
theorem operator_jobStep {db : QueueDatabase} {call : OperatorCall} {old : Option RuntimeJob}
    {row' : RuntimeJob} {events : List QueueEvent}
    (hstep : JobStep db (.operator call) old row' events) :
    row'.status = .queued ∧ ∀ row, old = some row → row.status = .failed := by
  cases hstep with
  | created request newId positive => exact ⟨rfl, fun row h => absurd h (by simp)⟩
  | requeued row resetAttempts runAfter dead =>
      exact ⟨rfl, fun other h => Option.some.inj h ▸ dead⟩
  | replayed row requestedBy reason resetAttempts dead free =>
      exact ⟨rfl, fun other h => Option.some.inj h ▸ dead⟩

theorem leaseLedger_operator {s : WorkerState} (h : LeaseLedger s) (call : OperatorCall) :
    LeaseLedger (s.step (.operator call)) := by
  rcases call_effect s.db (.operator call) with ⟨-, hjobs⟩ | ⟨row', hstep, hfind, hother⟩
  · have hsame : (s.step (.operator call)).db.jobs = s.db.jobs := hjobs
    exact ⟨fun row hrow => h.running row (hsame ▸ hrow), fun row hrow => h.idle row (hsame ▸ hrow),
      fun execution he => hsame ▸ h.known execution he, h.tickets, h.distinct,
      h.settledTickets, h.settledOnce⟩
  · obtain ⟨hqueued, hfailed⟩ := operator_jobStep hstep
    have hchange : s.db.jobs.ChangesRow (s.step (.operator call)).db.jobs row' := ⟨hfind, hother⟩
    have hsettled : ∀ holder, latestExecution s row'.id = some holder →
        holder.ticket ∈ s.settled := by
      intro holder hholder
      obtain ⟨hmem, hjob⟩ := latest_spec hholder
      obtain ⟨old, hfound⟩ := Option.isSome_iff_exists.mp (h.known holder hmem)
      rw [hjob] at hfound
      have hdead := hfailed old hfound
      obtain ⟨hold, hid⟩ := IndexedTable.find_eq_some_iff.mp hfound
      exact h.idle old hold (by simp [hdead]) holder (hid ▸ hholder)
    have hleases := h.leases_of_change (s.step (.operator call)) hchange (fun _ _ => rfl) (fun _ _ _ => Iff.rfl)
      (fun hrunning => absurd (hqueued.symm.trans hrunning) (by decide))
      (fun _ holder hholder => hsettled holder hholder)
    exact ⟨hleases.1, hleases.2,
      fun execution he => hchange.find_isSome fun _ => h.known execution he,
      h.tickets, h.distinct, h.settledTickets, h.settledOnce⟩

/-- The job of a dequeue is leased by an execution whose ticket is new. -/
theorem leaseLedger_lease {s : WorkerState} (h : LeaseLedger s) {row : RuntimeJob}
    {worker : String} {leaseSeconds : ℤ} {jobs : RuntimeJobs}
    (change : s.db.jobs.ChangesRow jobs (row.lease s.db.now worker leaseSeconds)) :
    LeaseLedger
      { s with
        db := { s.db with jobs := jobs }
        executions := ⟨s.executions.length, row.id, worker⟩ :: s.executions } := by
  let started : WorkerState :=
    { s with
      db := { s.db with jobs := jobs }
      executions := ⟨s.executions.length, row.id, worker⟩ :: s.executions }
  have hlatest : ∀ jobId, jobId ≠ row.id →
      latestExecution started jobId = latestExecution s jobId := by
    intro jobId hne
    simp only [started, latestExecution, List.find?_cons]
    rw [decide_eq_false (fun heq => hne heq.symm)]
  have hself : latestExecution started row.id = some ⟨s.executions.length, row.id, worker⟩ := by
    simp [started, latestExecution]
  have hunused : s.executions.length ∉ s.settled := fun hsettled =>
    Nat.lt_irrefl _ (h.settledTickets _ hsettled)
  obtain ⟨hrunning, hidle⟩ := h.leases_of_change started change hlatest (fun _ _ _ => Iff.rfl)
    (fun _ => ⟨_, hself, hunused, rfl⟩) (fun hidle => absurd rfl hidle)
  refine ⟨hrunning, hidle, ?_, ?_, ?_, ?_, h.settledOnce⟩
  · intro execution he
    refine change.find_isSome fun hid => ?_
    rcases List.mem_cons.mp he with rfl | hmem
    · exact absurd rfl hid
    · exact h.known execution hmem
  · intro execution he
    simp only [List.length_cons]
    rcases List.mem_cons.mp he with rfl | hmem
    · exact Nat.lt_succ_self _
    · exact Nat.lt_succ_of_lt (h.tickets execution hmem)
  · rw [List.map_cons, List.nodup_cons]
    refine ⟨fun hused => ?_, h.distinct⟩
    obtain ⟨execution, hmem, hticket⟩ := List.mem_map.mp hused
    have hlt := h.tickets execution hmem
    have hnext : execution.ticket = s.executions.length := hticket
    omega
  · intro ticket hticket
    exact Nat.lt_succ_of_lt (h.settledTickets ticket hticket)

theorem leaseLedger_start {s : WorkerState} (h : LeaseLedger s) (queueName : String)
    (workerId : Option String) (metricsInstance : String) (leaseSeconds : ℤ) (locked : List ℕ) :
    LeaseLedger (s.step (.start queueName workerId metricsInstance leaseSeconds locked)) := by
  obtain ⟨⟨result, jobs⟩, hcall⟩ := dequeue_isSome s.db.now s.db.jobs queueName
    (resolvedWorkerId workerId metricsInstance) leaseSeconds locked
  rcases dequeue_cases hcall with ⟨-, rfl, rfl⟩ | ⟨row, hnext, rfl, hmodify⟩
  · have hsame : s.step (.start queueName workerId metricsInstance leaseSeconds locked) = s := by
      simp only [WorkerState.step, hcall]
    rw [hsame]
    exact h
  · have hstep : s.step (.start queueName workerId metricsInstance leaseSeconds locked) =
        { s with
          db := { s.db with jobs := jobs }
          executions := ⟨s.executions.length, row.id,
            resolvedWorkerId workerId metricsInstance⟩ :: s.executions } := by
      simp only [WorkerState.step, hcall]
      rfl
    rw [hstep]
    exact leaseLedger_lease h (IndexedTable.changesRow_of_modify hmodify (nextJob_spec hnext).1)

theorem open_spec {s : WorkerState} {ticket : ℕ} {execution : Execution}
    (h : openExecution s ticket = some execution) :
    execution ∈ s.executions ∧ execution.ticket = ticket ∧ ticket ∉ s.finished := by
  have hspec := List.find?_some h
  rw [Bool.and_eq_true, decide_eq_true_eq, decide_eq_true_eq] at hspec
  exact ⟨List.mem_of_find?_eq_some h, hspec.1, hspec.2⟩

/-- A settlement that the jobs accept settles the last dequeue of its job. -/
theorem leaseLedger_mark {s : WorkerState} (h : LeaseLedger s) {row' : RuntimeJob}
    {jobs : RuntimeJobs} (change : s.db.jobs.ChangesRow jobs row')
    (released : row'.status ≠ .running) {holder : Execution}
    (latest : latestExecution s row'.id = some holder) (unsettled : holder.ticket ∉ s.settled)
    (finished : List ℕ) :
    LeaseLedger
      { s with
        db := { s.db with jobs := jobs }
        finished := finished
        settled := s.settled ++ [holder.ticket] } := by
  obtain ⟨hholder, hjob⟩ := latest_spec latest
  have hothers : ∀ other ∈ s.executions, other.jobId ≠ row'.id →
      (other.ticket ∈ s.settled ++ [holder.ticket] ↔ other.ticket ∈ s.settled) := by
    intro other hother hne
    rw [List.mem_append, List.mem_singleton]
    refine or_iff_left fun hticket => hne ?_
    have hsame : other = holder := List.inj_on_of_nodup_map h.distinct hother hholder hticket
    rw [hsame, hjob]
  obtain ⟨hrunning, hidle⟩ := h.leases_of_change
    { s with
      db := { s.db with jobs := jobs }
      finished := finished
      settled := s.settled ++ [holder.ticket] }
    change (fun _ _ => rfl) hothers (fun hrunning => absurd hrunning released) (by
      intro _ current hcurrent
      have hsame : current = holder := Option.some.inj (hcurrent.symm.trans latest)
      rw [hsame]
      exact List.mem_append_right _ (List.mem_singleton_self _))
  refine ⟨hrunning, hidle, fun other he => change.find_isSome fun _ => h.known other he,
    h.tickets, h.distinct, ?_, ?_⟩
  · intro ticket hticket
    rcases List.mem_append.mp hticket with hbefore | hnow
    · exact h.settledTickets ticket hbefore
    · rw [List.mem_singleton.mp hnow]
      exact h.tickets holder hholder
  · refine List.nodup_append.mpr ⟨h.settledOnce, List.nodup_singleton _, ?_⟩
    intro a ha b hb heq
    rw [heq, List.mem_singleton.mp hb] at ha
    exact unsettled ha

theorem leaseLedger_settle {s : WorkerState} (h : LeaseLedger s) (ticket : ℕ)
    (settlement : Settlement) : LeaseLedger (s.step (.settle ticket settlement)) := by
  cases hopen : openExecution s ticket with
  | none =>
      have hsame : s.step (.settle ticket settlement) = s := by
        simp only [WorkerState.step, hopen]
      rw [hsame]
      exact h
  | some execution =>
      rcases mark_cases s.db execution settlement with
        ⟨row, row', hrow, hheld, hid, hstatus, htrue, hchange⟩ | ⟨-, hfalse⟩
      · obtain ⟨hmem, hjob⟩ := IndexedTable.find_eq_some_iff.mp hrow
        obtain ⟨holder, hholder, hunsettled, -⟩ :=
          h.running row hmem (RuntimeJob.heldBy_iff.mp hheld).2
        have hlatest : latestExecution s execution.jobId = some holder := hjob ▸ hholder
        have hstep : s.step (.settle ticket settlement) =
            { s with
              db := { s.db with jobs := (mark s.db execution settlement).2 }
              finished := ticket :: s.finished
              settled := s.settled ++ [holder.ticket] } := by
          simp only [WorkerState.step, hopen, htrue, if_true, hlatest]
          rfl
        rw [hstep]
        exact leaseLedger_mark h hchange hstatus (hid ▸ hholder) hunsettled _
      · have hstep : s.step (.settle ticket settlement) =
            { s with finished := ticket :: s.finished } := by
          simp only [WorkerState.step, hopen, hfalse]
          rfl
        rw [hstep]
        exact ⟨h.running, h.idle, h.known, h.tickets, h.distinct, h.settledTickets, h.settledOnce⟩

theorem leaseLedger_step (s : WorkerState) (action : WorkerAction) (h : LeaseLedger s) :
    LeaseLedger (s.step action) := by
  cases action with
  | operator call => exact leaseLedger_operator h call
  | start queueName workerId metricsInstance leaseSeconds locked =>
      exact leaseLedger_start h queueName workerId metricsInstance leaseSeconds locked
  | settle ticket settlement => exact leaseLedger_settle h ticket settlement

/-! ### Settlements of superseded executions -/

/-- The mark call of an execution whose job was dequeued again answers false
and leaves the jobs as they are. -/
def RejectsSuperseded (s : WorkerState) : WorkerAction → Prop
  | .settle ticket settlement => ∀ execution, openExecution s ticket = some execution →
      Superseded s execution → mark s.db execution settlement = (false, s.db.jobs)
  | _ => True

/-- A dequeue that is not settled yet gave the job to another worker id than
that of a superseded execution that now settles. -/
def HeldByAnother (s : WorkerState) : WorkerAction → Prop
  | .settle ticket _ => ∀ execution, openExecution s ticket = some execution →
      Superseded s execution → ∀ holder, latestExecution s execution.jobId = some holder →
        holder.ticket ∉ s.settled → holder.workerId ≠ execution.workerId
  | _ => True

theorem rejectsSuperseded_iff (s : WorkerState) (action : WorkerAction) (h : LeaseLedger s) :
    RejectsSuperseded s action ↔ HeldByAnother s action := by
  cases action with
  | operator call => exact Iff.rfl
  | start queueName workerId metricsInstance leaseSeconds locked => exact Iff.rfl
  | settle ticket settlement =>
      simp only [RejectsSuperseded, HeldByAnother]
      refine forall₃_congr fun execution hopen hsuperseded => ?_
      obtain ⟨hmem, -, -⟩ := open_spec hopen
      obtain ⟨row, hrow⟩ := Option.isSome_iff_exists.mp (h.known execution hmem)
      obtain ⟨hrowmem, hid⟩ := IndexedTable.find_eq_some_iff.mp hrow
      rcases mark_cases s.db execution settlement with
        ⟨other, row', hother, hheld, -, -, htrue, -⟩ | ⟨hnot, hfalse⟩
      · -- the row is held under the worker id of the execution
        rw [hrow] at hother
        obtain rfl := Option.some.inj hother
        obtain ⟨hleased, hrunning⟩ := RuntimeJob.heldBy_iff.mp hheld
        obtain ⟨holder, hholder, hunsettled, hholds⟩ := h.running row hrowmem hrunning
        rw [hid] at hholder
        have hworker : holder.workerId = execution.workerId :=
          Option.some.inj (hholds.symm.trans hleased)
        refine ⟨fun hreject => ?_, fun hheldby => ?_⟩
        · rw [hreject] at htrue
          exact absurd htrue (by simp)
        · exact absurd hworker (hheldby holder hholder hunsettled)
      · refine ⟨fun _ holder hholder hunsettled hworker => ?_, fun _ => hfalse⟩
        by_cases hrunning : row.status = .running
        · obtain ⟨current, hcurrent, -, hholds⟩ := h.running row hrowmem hrunning
          rw [hid, hholder] at hcurrent
          obtain rfl := Option.some.inj hcurrent
          have hheld : row.heldBy execution.workerId = true :=
            RuntimeJob.heldBy_iff.mpr ⟨hworker ▸ hholds, hrunning⟩
          rw [hnot row hrow] at hheld
          exact absurd hheld (by simp)
        · exact hunsettled (h.idle row hrowmem hrunning holder (hid ▸ hholder))

/-- In a run of any number of workers every mark call of a superseded
execution is rejected, and every dequeue is settled at most once, exactly when
no such call comes while a worker of the same id holds the job. -/
theorem only_current_lease_settles_iff (start : ℤ) (actions : List WorkerAction) :
    (Along WorkerState.step RejectsSuperseded (.empty start) actions ∧
        (run WorkerState.step (.empty start) actions).settled.Nodup) ↔
      Along WorkerState.step HeldByAnother (.empty start) actions := by
  have hledger := leaseLedger_empty start
  rw [along_congr leaseLedger_step rejectsSuperseded_iff hledger]
  have hend := run_invariant leaseLedger_step hledger actions
  exact ⟨And.left, fun h => ⟨h, hend.settledOnce⟩⟩

/-- Two workers share the metrics instance `local`.  The lease of the first
runs out, the second dequeues the job, and the first then ends. -/
def sharedInstanceActions : List WorkerAction :=
  [.operator (.enqueue { waterLevelRequest with maxAttempts := 3 } 1),
    .start "runtime-adapters" none "local" 300 [], .operator (.wait 300000000),
    .start "runtime-adapters" none "local" 300 [], .settle 0 .succeeded]

/-- The state in which the first worker ends. -/
def sharedInstanceState : WorkerState :=
  run WorkerState.step (.empty 0) (sharedInstanceActions.take 4)

theorem superseded_execution_settles :
    Superseded sharedInstanceState ⟨0, 1, "local"⟩ ∧
      (mark sharedInstanceState.db ⟨0, 1, "local"⟩ .succeeded).1 = true ∧
      ¬ Along WorkerState.step RejectsSuperseded (.empty 0) sharedInstanceActions := by
  have hexecutions : sharedInstanceState.executions = [⟨1, 1, "local"⟩, ⟨0, 1, "local"⟩] := by
    decide +kernel
  have hsuperseded : Superseded sharedInstanceState ⟨0, 1, "local"⟩ := by
    refine ⟨⟨1, 1, "local"⟩, ?_, rfl, by decide⟩
    rw [hexecutions]
    exact List.mem_cons_self
  have hmark : (mark sharedInstanceState.db ⟨0, 1, "local"⟩ .succeeded).1 = true := by
    decide +kernel
  have hopen : openExecution sharedInstanceState 0 = some ⟨0, 1, "local"⟩ := by decide +kernel
  refine ⟨hsuperseded, hmark, fun halong => ?_⟩
  have hreject : RejectsSuperseded sharedInstanceState (.settle 0 .succeeded) :=
    halong.2.2.2.2.1
  rw [hreject _ hopen hsuperseded] at hmark
  exact absurd hmark (by simp)

end FloodRisk.Queue
