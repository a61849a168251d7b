import FloodRisk.Lib.Lease
import FloodRisk.Lib.Transition
import FloodRisk.Queue.RuntimeJobs
import Mathlib.Logic.Function.Basic

/-!
# The scheduler loop (workers cli/runtime_cli.py, jobs/queue.py)

Any number of processes run `run_v1_baseline_enabled_adapters` against one row
of `worker_scheduler_leases`.  Each action is one step of one process, of its
heartbeat thread, or of the clock of the database; a step takes as long as the
other actions that come before the next one.
-/

namespace FloodRisk.Scheduler
open Queue (makeInterval)

/-- The settings of a process; its holder id is `_process_unique_lease_holder`. -/
structure SchedulerSettings where
  leaseTtlSeconds : ℤ
  once : Bool
  maxTicks : Option ℤ
  schedulerMaxTicks : Option ℤ

def SchedulerSettings.tickLimit (settings : SchedulerSettings) : Option ℤ :=
  if settings.once then some 1
  else
    match settings.maxTicks with
    | some maxTicks => some (max 1 maxTicks)
    | none => settings.schedulerMaxTicks

structure SchedulerConfig where
  settings : ℕ → SchedulerSettings
  leaseHolder : ℕ → String
  distinct : Function.Injective leaseHolder

inductive LoopPoint where
  | top | waiting | entering | inTick | maintenance | renewing | sleeping | releasing | stopped
  deriving DecidableEq, Repr

structure SchedulerProcess where
  point : LoopPoint
  leaseAcquired : Bool := false
  heartbeatLost : Bool := false
  tick : ℤ := 0
  deriving DecidableEq

/-- `acquiredBy` remembers whose call wrote the row. -/
structure SchedulerState where
  now : ℤ
  lease : Option (Lease String)
  acquiredBy : Option ℕ
  process : ℕ → SchedulerProcess

def SchedulerState.init (config : SchedulerConfig) (start : ℤ) : SchedulerState where
  now := start
  lease := none
  acquiredBy := none
  process := fun p => ⟨if (config.settings p).leaseTtlSeconds ≤ 0 then .stopped else .top,
    false, false, 0⟩

/-- A call is answered or raises `RuntimeQueueUnavailable`, in which case the
database may have applied it all the same. -/
inductive CallOutcome where
  | answered
  | unavailable (applied : Bool)
  deriving DecidableEq

def CallOutcome.applied : CallOutcome → Bool
  | .answered => true
  | .unavailable applied => applied

inductive SchedulerAction where
  | wait (elapsed : ℕ)
  | proceed (p : ℕ) (outcome : CallOutcome)
  | heartbeat (p : ℕ) (outcome : CallOutcome)
  | interrupt (p : ℕ)
  | kill (p : ℕ)

namespace SchedulerState

variable (config : SchedulerConfig)

/-- `acquire_or_renew_lease`: the answer is nothing when the call raised. -/
def acquireOrRenewLease (s : SchedulerState) (p : ℕ) (outcome : CallOutcome) :
    SchedulerState × Option Bool :=
  let (granted, lease) := Lease.acquire s.now
    (makeInterval (config.settings p).leaseTtlSeconds) (config.leaseHolder p) s.lease
  let applied : SchedulerState :=
    { s with lease := lease, acquiredBy := if granted then some p else s.acquiredBy }
  match outcome with
  | .answered => (applied, some granted)
  | .unavailable true => (applied, none)
  | .unavailable false => (s, none)

def releaseSchedulerLease (s : SchedulerState) (p : ℕ) (outcome : CallOutcome) : SchedulerState :=
  if outcome.applied then
    let lease := Lease.release (config.leaseHolder p) s.lease
    { s with lease := lease, acquiredBy := if lease.isSome then s.acquiredBy else none }
  else s

def setProcess (s : SchedulerState) (p : ℕ) (process : SchedulerProcess) : SchedulerState :=
  { s with process := Function.update s.process p process }

def limitReached (s : SchedulerState) (p : ℕ) : Bool :=
  (config.settings p).tickLimit.any (· ≤ (s.process p).tick)

def proceed (s : SchedulerState) (p : ℕ) (outcome : CallOutcome) : SchedulerState :=
  let process := s.process p
  match process.point with
  | .top =>
      if s.limitReached config p then s.setProcess p { process with point := .releasing }
      else
        let (called, answer) := s.acquireOrRenewLease config p outcome
        if answer = some true then
          called.setProcess p
            { process with point := .entering, leaseAcquired := true, heartbeatLost := false }
        else if process.leaseAcquired then
          called.setProcess p { process with leaseAcquired := false }
        else
          called.setProcess p { process with
            point := if (config.settings p).once then .releasing else .waiting }
  | .waiting => s.setProcess p { process with point := .top }
  | .entering => s.setProcess p { process with point := .inTick }
  | .inTick => s.setProcess p { process with point := .maintenance }
  | .maintenance =>
      let ticked : SchedulerProcess :=
        { process with
          leaseAcquired := process.leaseAcquired && !process.heartbeatLost
          tick := process.tick + 1 }
      let after := s.setProcess p ticked
      s.setProcess p
        { ticked with point := if after.limitReached config p then .releasing else .renewing }
  | .renewing =>
      let (called, answer) := s.acquireOrRenewLease config p outcome
      if answer = some true then called.setProcess p { process with point := .sleeping }
      else called.setProcess p { process with point := .top, leaseAcquired := false }
  | .sleeping => s.setProcess p { process with point := .top }
  | .releasing =>
      let released :=
        if process.leaseAcquired then s.releaseSchedulerLease config p outcome else s
      released.setProcess p { process with point := .stopped }
  | .stopped => s

/-- The heartbeat thread runs from before the tick to the end of maintenance,
and stops at the first refusal. -/
def heartbeatRuns (process : SchedulerProcess) : Bool :=
  process.point ∈ [.entering, .inTick, .maintenance] && !process.heartbeatLost

def heartbeat (s : SchedulerState) (p : ℕ) (outcome : CallOutcome) : SchedulerState :=
  if heartbeatRuns (s.process p) then
    let (called, answer) := s.acquireOrRenewLease config p outcome
    if answer = some false then called.setProcess p { s.process p with heartbeatLost := true }
    else called
  else s

/-- `SIGTERM`, or an exception that leaves the loop: the `finally` comes next. -/
def interrupt (s : SchedulerState) (p : ℕ) : SchedulerState :=
  if (s.process p).point ∈ [.releasing, .stopped] then s
  else s.setProcess p { s.process p with point := .releasing }

def step (s : SchedulerState) : SchedulerAction → SchedulerState
  | .wait elapsed => { s with now := s.now + elapsed }
  | .proceed p outcome => s.proceed config p outcome
  | .heartbeat p outcome => s.heartbeat config p outcome
  | .interrupt p => s.interrupt p
  | .kill p => s.setProcess p { s.process p with point := .stopped }

end SchedulerState

section
variable {config : SchedulerConfig} {s : SchedulerState} {p : ℕ}

@[simp] theorem setProcess_self (process : SchedulerProcess) :
    (s.setProcess p process).process p = process := by
  unfold SchedulerState.setProcess
  exact Function.update_self p process s.process

@[simp] theorem setProcess_of_ne {q : ℕ} (h : q ≠ p) (process : SchedulerProcess) :
    (s.setProcess p process).process q = s.process q := by
  unfold SchedulerState.setProcess
  exact Function.update_of_ne h process s.process

@[simp] theorem setProcess_lease (process : SchedulerProcess) :
    (s.setProcess p process).lease = s.lease := rfl

@[simp] theorem setProcess_acquiredBy (process : SchedulerProcess) :
    (s.setProcess p process).acquiredBy = s.acquiredBy := rfl

/-- A call that is granted makes the lease the caller's; any other changes
nothing. -/
theorem acquireOrRenewLease_cases (config : SchedulerConfig) (s : SchedulerState) (p : ℕ)
    (outcome : CallOutcome) :
    (outcome.applied = true ∧ (s.acquireOrRenewLease config p outcome).2 ≠ some false ∧
        (∀ current, s.lease = some current →
          current.expiresAt ≤ s.now ∨ current.holder = config.leaseHolder p) ∧
        (s.acquireOrRenewLease config p outcome).1 =
          { s with
            lease := some ⟨config.leaseHolder p,
              s.now + makeInterval (config.settings p).leaseTtlSeconds⟩
            acquiredBy := some p }) ∨
      ((s.acquireOrRenewLease config p outcome).2 ≠ some true ∧
        (s.acquireOrRenewLease config p outcome).1 = s) := by
  rcases Lease.acquire_cases s.now (makeInterval (config.settings p).leaseTtlSeconds)
      (config.leaseHolder p) s.lease with ⟨hgranted, hfree⟩ | hrefused
  · cases outcome with
    | answered =>
        simp only [SchedulerState.acquireOrRenewLease, hgranted]
        exact Or.inl ⟨rfl, by simp, hfree, rfl⟩
    | unavailable applied =>
        cases applied with
        | true =>
            simp only [SchedulerState.acquireOrRenewLease, hgranted]
            exact Or.inl ⟨rfl, by simp, hfree, rfl⟩
        | false => exact Or.inr ⟨by simp [SchedulerState.acquireOrRenewLease], rfl⟩
  · right
    cases outcome with
    | answered =>
        simp only [SchedulerState.acquireOrRenewLease, hrefused]
        exact ⟨by simp, rfl⟩
    | unavailable applied =>
        cases applied with
        | true =>
            simp only [SchedulerState.acquireOrRenewLease, hrefused]
            exact ⟨by simp, rfl⟩
        | false => exact ⟨by simp [SchedulerState.acquireOrRenewLease], rfl⟩

end

end FloodRisk.Scheduler
