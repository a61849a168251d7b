import FloodRisk.Queue.Runs

/-!
# How often a job is handed to a worker

The events of a run count the hand-outs of a job since its attempts counter
last started again, and the requeues in that time that kept the counter.
-/

namespace FloodRisk.Queue
open Transition

/-! ### Counting since the last reset -/

/-- The events after the last reset of the job, latest first. -/
def sinceReset (jobId : ℕ) (events : List QueueEvent) : List QueueEvent :=
  events.reverse.takeWhile fun event => event ≠ .reset jobId

def handedSinceReset (jobId : ℕ) (events : List QueueEvent) : ℕ :=
  (sinceReset jobId events).count (.handed jobId)

def keptSinceReset (jobId : ℕ) (events : List QueueEvent) : ℕ :=
  (sinceReset jobId events).count (.kept jobId)

def QueueEvent.jobId : QueueEvent → ℕ
  | .reset jobId => jobId
  | .kept jobId => jobId
  | .handed jobId => jobId

theorem sinceReset_append (jobId : ℕ) (events : List QueueEvent) (event : QueueEvent) :
    sinceReset jobId (events ++ [event]) =
      if event = .reset jobId then [] else event :: sinceReset jobId events := by
  simp only [sinceReset, List.reverse_append, List.reverse_singleton, List.singleton_append,
    List.takeWhile_cons]
  by_cases h : event = .reset jobId <;> simp [h]

theorem handed_reset (jobId : ℕ) (events : List QueueEvent) :
    handedSinceReset jobId (events ++ [.reset jobId]) = 0 := by
  simp [handedSinceReset, sinceReset_append]

theorem kept_reset (jobId : ℕ) (events : List QueueEvent) :
    keptSinceReset jobId (events ++ [.reset jobId]) = 0 := by
  simp [keptSinceReset, sinceReset_append]

theorem handed_kept (jobId : ℕ) (events : List QueueEvent) :
    handedSinceReset jobId (events ++ [.kept jobId]) = handedSinceReset jobId events := by
  simp [handedSinceReset, sinceReset_append]

theorem kept_kept (jobId : ℕ) (events : List QueueEvent) :
    keptSinceReset jobId (events ++ [.kept jobId]) = keptSinceReset jobId events + 1 := by
  simp [keptSinceReset, sinceReset_append]

theorem handed_handed (jobId : ℕ) (events : List QueueEvent) :
    handedSinceReset jobId (events ++ [.handed jobId]) = handedSinceReset jobId events + 1 := by
  simp [handedSinceReset, sinceReset_append]

theorem kept_handed (jobId : ℕ) (events : List QueueEvent) :
    keptSinceReset jobId (events ++ [.handed jobId]) = keptSinceReset jobId events := by
  simp [keptSinceReset, sinceReset_append]

theorem counts_of_other {jobId : ℕ} (events : List QueueEvent) {event : QueueEvent}
    (h : event.jobId ≠ jobId) :
    handedSinceReset jobId (events ++ [event]) = handedSinceReset jobId events ∧
      keptSinceReset jobId (events ++ [event]) = keptSinceReset jobId events := by
  have hreset : event ≠ .reset jobId := fun heq => h (heq ▸ rfl)
  have hhanded : event ≠ .handed jobId := fun heq => h (heq ▸ rfl)
  have hkept : event ≠ .kept jobId := fun heq => h (heq ▸ rfl)
  simp [handedSinceReset, keptSinceReset, sinceReset_append, hreset, hhanded, hkept]

/-! ### Runs with their events -/

structure QueueTrace where
  db : QueueDatabase
  events : List QueueEvent

def QueueTrace.empty (start : ℤ) : QueueTrace := ⟨.empty start, []⟩

def QueueTrace.step (trace : QueueTrace) (call : QueueCall) : QueueTrace :=
  ⟨trace.db.step call, trace.events ++ queueEvents trace.db call⟩

/-- The counter of a job counts its hand-outs; a queued job has one left. -/
structure RowBudget (row : RuntimeJob) (events : List QueueEvent) : Prop where
  counter : row.attempts = handedSinceReset row.id events
  bound : row.attempts ≤ row.maxAttempts + keptSinceReset row.id events
  queued : row.status = .queued → row.attempts < row.maxAttempts + keptSinceReset row.id events

def WithinBudget (trace : QueueTrace) : Prop :=
  ∀ row ∈ trace.db.jobs, RowBudget row trace.events

theorem rowBudget_requeue {row : RuntimeJob} {events : List QueueEvent} (h : RowBudget row events)
    (now runAfter : ℤ) (resetAttempts : Bool) :
    RowBudget (row.requeue now resetAttempts runAfter)
      (events ++ [requeueEvent row.id resetAttempts]) := by
  have hpos := row.maxAttempts_pos
  have hbound := h.bound
  have hcounter := h.counter
  cases resetAttempts with
  | true =>
      have hhanded := handed_reset row.id events
      have hkept := kept_reset row.id events
      refine ⟨hhanded.symm, Nat.zero_le _, fun _ => ?_⟩
      show 0 < row.maxAttempts + keptSinceReset row.id (events ++ [.reset row.id])
      omega
  | false =>
      have hhanded := handed_kept row.id events
      have hkept := kept_kept row.id events
      refine ⟨hcounter.trans hhanded.symm, ?_, fun _ => ?_⟩
      · show row.attempts ≤ row.maxAttempts + keptSinceReset row.id (events ++ [.kept row.id])
        omega
      · show row.attempts < row.maxAttempts + keptSinceReset row.id (events ++ [.kept row.id])
        omega

theorem rowBudget_lease {row : RuntimeJob} {events : List QueueEvent} (h : RowBudget row events)
    {now : ℤ} {queueName workerId : String} {leaseSeconds : ℤ}
    (due : row.dequeueable now queueName = true) :
    RowBudget (row.lease now workerId leaseSeconds) (events ++ [.handed row.id]) := by
  have hhanded := handed_handed row.id events
  have hkept := kept_handed row.id events
  have hcounter := h.counter
  have hleft : row.attempts < row.maxAttempts + keptSinceReset row.id events := by
    simp only [RuntimeJob.dequeueable, Bool.and_eq_true, Bool.or_eq_true,
      decide_eq_true_eq] at due
    rcases due.2 with ⟨hqueued, -⟩ | ⟨-, hattempts⟩
    · exact h.queued hqueued
    · omega
  refine ⟨?_, ?_, fun hqueued => absurd hqueued (by simp [RuntimeJob.lease])⟩
  · show row.attempts + 1 = handedSinceReset row.id (events ++ [.handed row.id])
    omega
  · show row.attempts + 1 ≤
      row.maxAttempts + keptSinceReset row.id (events ++ [.handed row.id])
    omega

theorem rowBudget_fail {row : RuntimeJob} {events : List QueueEvent} (h : RowBudget row events)
    (now : ℤ) (error : String) (delay : ℤ) : RowBudget (row.fail now error delay) events := by
  refine ⟨h.counter, h.bound, fun hqueued => ?_⟩
  have hretries : row.attempts < row.maxAttempts := by
    by_contra hlast
    simp [RuntimeJob.fail, hlast] at hqueued
  show row.attempts < row.maxAttempts + keptSinceReset row.id events
  omega

theorem rowBudget_of_jobStep {db : QueueDatabase} {call : QueueCall} {old : Option RuntimeJob}
    {row' : RuntimeJob} {added events : List QueueEvent} (hstep : JobStep db call old row' added)
    (hold : ∀ row, old = some row → RowBudget row events) :
    RowBudget row' (events ++ added) := by
  cases hstep with
  | created request newId positive =>
      have hhanded := handed_reset newId events
      refine ⟨hhanded.symm, Nat.zero_le _, fun _ => ?_⟩
      show 0 < request.maxAttempts + keptSinceReset newId (events ++ [.reset newId])
      omega
  | requeued row resetAttempts runAfter dead =>
      exact rowBudget_requeue (hold row rfl) _ _ resetAttempts
  | replayed row requestedBy reason resetAttempts dead free =>
      exact rowBudget_requeue (hold row rfl) _ _ resetAttempts
  | leased row queueName workerId leaseSeconds locked next =>
      exact rowBudget_lease (hold row rfl) (nextJob_spec next).2.1
  | succeeded row workerId held =>
      have h := hold row rfl
      rw [List.append_nil]
      exact ⟨h.counter, h.bound, fun hqueued => absurd hqueued (by simp [RuntimeJob.succeed])⟩
  | failed row workerId error delay held =>
      rw [List.append_nil]
      exact rowBudget_fail (hold row rfl) _ error delay

theorem events_of_jobStep {db : QueueDatabase} {call : QueueCall} {old : Option RuntimeJob}
    {row' : RuntimeJob} {added : List QueueEvent} (hstep : JobStep db call old row' added) :
    added = [] ∨ ∃ event, added = [event] ∧ event.jobId = row'.id := by
  have hrequeue : ∀ (jobId : ℕ) (resetAttempts : Bool),
      (requeueEvent jobId resetAttempts).jobId = jobId := by
    intro jobId resetAttempts
    cases resetAttempts <;> rfl
  cases hstep with
  | created request newId positive => exact Or.inr ⟨_, rfl, rfl⟩
  | requeued row resetAttempts runAfter dead => exact Or.inr ⟨_, rfl, hrequeue row.id _⟩
  | replayed row requestedBy reason resetAttempts dead free =>
      exact Or.inr ⟨_, rfl, hrequeue row.id _⟩
  | leased row queueName workerId leaseSeconds locked next => exact Or.inr ⟨_, rfl, rfl⟩
  | succeeded row workerId held => exact Or.inl rfl
  | failed row workerId error delay held => exact Or.inl rfl

theorem rowBudget_of_other {row : RuntimeJob} {events added : List QueueEvent}
    (h : RowBudget row events)
    (hadded : added = [] ∨ ∃ event, added = [event] ∧ event.jobId ≠ row.id) :
    RowBudget row (events ++ added) := by
  rcases hadded with rfl | ⟨event, rfl, hne⟩
  · rw [List.append_nil]
    exact h
  · obtain ⟨hhanded, hkept⟩ := counts_of_other events hne
    exact ⟨hhanded ▸ h.counter, hkept ▸ h.bound, hkept ▸ h.queued⟩

theorem withinBudget_step (trace : QueueTrace) (call : QueueCall) (h : WithinBudget trace) :
    WithinBudget (trace.step call) := by
  intro row hrow
  have hmem : row ∈ (trace.db.step call).jobs := hrow
  rcases call_effect trace.db call with ⟨hevents, hjobs⟩ | ⟨row', hstep, hfind, hother⟩
  · rw [hjobs] at hmem
    exact rowBudget_of_other (h row hmem) (Or.inl hevents)
  · have hchange : trace.db.jobs.ChangesRow (trace.db.step call).jobs row' := ⟨hfind, hother⟩
    rcases hchange.mem_cases hmem with ⟨hold, hid⟩ | rfl
    · refine rowBudget_of_other (h row hold) ?_
      rcases events_of_jobStep hstep with hnone | ⟨event, hevent, hjob⟩
      · exact Or.inl hnone
      · exact Or.inr ⟨event, hevent, fun heq => hid (heq.symm.trans hjob)⟩
    · refine rowBudget_of_jobStep hstep ?_
      intro old hold
      exact h old (IndexedTable.find_eq_some_iff.mp hold).1

/-- Since its counter last started, a job is handed out at most `max_attempts`
times and once more for every requeue that kept the counter. -/
theorem handed_out_within_budget (start : ℤ) (calls : List QueueCall) :
    ∀ row ∈ (run QueueTrace.step (.empty start) calls).db.jobs,
      handedSinceReset row.id (run QueueTrace.step (.empty start) calls).events ≤
          row.maxAttempts +
            keptSinceReset row.id (run QueueTrace.step (.empty start) calls).events ∧
        row.attempts ≤ row.maxAttempts +
          keptSinceReset row.id (run QueueTrace.step (.empty start) calls).events := by
  have hinvariant : WithinBudget (run QueueTrace.step (.empty start) calls) :=
    run_invariant withinBudget_step
      (fun row hrow => absurd hrow (IndexedTable.not_mem_empty row)) calls
  intro row hrow
  have hbudget := hinvariant row hrow
  exact ⟨hbudget.counter ▸ hbudget.bound, hbudget.bound⟩

/-- An operator requeues the dead-lettered job and keeps its counter. -/
def keptAttemptsCalls : List QueueCall :=
  [.operator (.enqueue waterLevelRequest 1), .dequeue "runtime-adapters" "worker-a" 300 [],
    .fail 1 "worker-a" "TimeoutError" 60, .operator (.requeue 1 false none),
    .dequeue "runtime-adapters" "worker-a" 300 []]

theorem kept_attempts_exceed_maximum :
    ((run QueueTrace.step (.empty 0) keptAttemptsCalls).db.jobs.find 1).map
        (fun row => (row.attempts, row.maxAttempts)) = some (2, 1) ∧
      handedSinceReset 1 (run QueueTrace.step (.empty 0) keptAttemptsCalls).events = 2 := by
  exact ⟨by decide +kernel, by decide +kernel⟩

def keptAttemptsTrace : QueueTrace := run QueueTrace.step (.empty 0) keptAttemptsCalls

def keptAttemptsJob : RuntimeJob :=
  (keptAttemptsTrace.db.jobs.find 1).get (by decide +kernel)

theorem keptAttemptsJob_mem : keptAttemptsJob ∈ keptAttemptsTrace.db.jobs :=
  (IndexedTable.find_eq_some_iff.mp (Option.some_get _).symm).1

theorem kept_attempts_within_budget :
    handedSinceReset keptAttemptsJob.id keptAttemptsTrace.events ≤
        keptAttemptsJob.maxAttempts +
          keptSinceReset keptAttemptsJob.id keptAttemptsTrace.events ∧
      keptAttemptsJob.attempts ≤ keptAttemptsJob.maxAttempts +
        keptSinceReset keptAttemptsJob.id keptAttemptsTrace.events :=
  handed_out_within_budget 0 keptAttemptsCalls keptAttemptsJob keptAttemptsJob_mem

end FloodRisk.Queue
