import FloodRisk.Lib.IndexedTable
import FloodRisk.Lib.OrderBy
import Mathlib.Data.Int.Order.Basic

/-!
# Profile refresh jobs (workers jobs/profiles.py, api profiles/repository.py)

The rows of `profile_refresh_jobs` and the statements on them.  A call that
raises has no result.  Instants are microseconds.
-/

namespace FloodRisk.Profiles

inductive ProfileKind where
  | adminArea | riskGrid
  deriving DecidableEq, Repr

inductive ProfileJobStatus where
  | queued | running | succeeded | failed | skipped | cancelled
  deriving DecidableEq, Repr

structure ProfileRefreshRow where
  id : ℕ
  profileKind : ProfileKind
  profileKey : String
  status : ProfileJobStatus
  priority : ℤ
  reason : String
  runAfter : ℤ
  leasedBy : Option String
  leaseExpiresAt : Option ℤ
  attempts : ℕ
  maxAttempts : ℕ
  startedAt : Option ℤ
  finishedAt : Option ℤ
  lastError : Option String
  payload : String
  createdAt : ℤ
  updatedAt : ℤ
  deriving DecidableEq

namespace ProfileRefreshRow

def isActive (row : ProfileRefreshRow) : Bool := row.status = .queued || row.status = .running

/-- The entry in `idx_profile_refresh_jobs_active_unique`. -/
def activeProfile (row : ProfileRefreshRow) : Option (ProfileKind × String) :=
  if row.isActive then some (row.profileKind, row.profileKey) else none

end ProfileRefreshRow

abbrev ProfileRefreshJobs := IndexedTable ProfileRefreshRow.id ProfileRefreshRow.activeProfile

/-! ### `enqueue_profile_refresh_job` -/

/-- The seeding statements enqueue with a priority, a reason and a payload of
their own. -/
structure RefreshRequest where
  profileKind : ProfileKind
  profileKey : String
  priority : ℤ := 0
  reason : String := "scheduled_refresh"
  runAfter : Option ℤ := none
  payload : String := "{}"

def RefreshRequest.insertedRow (request : RefreshRequest) (now : ℤ) (newId : ℕ) :
    ProfileRefreshRow where
  id := newId
  profileKind := request.profileKind
  profileKey := request.profileKey
  status := .queued
  priority := request.priority
  reason := request.reason
  runAfter := request.runAfter.getD now
  leasedBy := none
  leaseExpiresAt := none
  attempts := 0
  maxAttempts := 3
  startedAt := none
  finishedAt := none
  lastError := none
  payload := request.payload
  createdAt := now
  updatedAt := now

/-- `newId` is the value of `gen_random_uuid()`. -/
def enqueueProfileRefreshJob (now : ℤ) (jobs : ProfileRefreshJobs) (request : RefreshRequest)
    (newId : ℕ) : Option ℕ × ProfileRefreshJobs :=
  match jobs.insert (request.insertedRow now newId) with
  | none => (none, jobs)
  | some inserted => (some newId, inserted)

theorem enqueue_cases (now : ℤ) (jobs : ProfileRefreshJobs) (request : RefreshRequest)
    (newId : ℕ) :
    enqueueProfileRefreshJob now jobs request newId = (none, jobs) ∨
      ∃ inserted, jobs.insert (request.insertedRow now newId) = some inserted ∧
        enqueueProfileRefreshJob now jobs request newId = (some newId, inserted) := by
  unfold enqueueProfileRefreshJob
  cases hinsert : jobs.insert (request.insertedRow now newId) with
  | none => exact Or.inl rfl
  | some inserted => exact Or.inr ⟨inserted, rfl, rfl⟩

/-! ### `claim_profile_refresh_jobs` -/

structure ProfileRefreshJob where
  id : ℕ
  profileKind : ProfileKind
  profileKey : String
  priority : ℤ
  reason : String
  attempts : ℕ
  maxAttempts : ℕ
  payload : String
  runAfter : ℤ
  leaseExpiresAt : Option ℤ
  deriving DecidableEq

def secondsInterval (seconds : ℤ) : ℤ := seconds * 1000000

namespace ProfileRefreshRow

def claimable (now : ℤ) (row : ProfileRefreshRow) : Bool :=
  (row.status = .queued && row.runAfter ≤ now) ||
    (row.status = .running && row.leaseExpiresAt.any (· ≤ now) && row.attempts < row.maxAttempts)

/-- `ORDER BY priority DESC, run_after ASC, created_at ASC`. -/
def claimedBefore (a b : ProfileRefreshRow) : Bool :=
  decide (b.priority < a.priority ∨ a.priority = b.priority ∧
    (a.runAfter < b.runAfter ∨ a.runAfter = b.runAfter ∧ a.createdAt ≤ b.createdAt))

/-- `ORDER BY priority DESC, run_after ASC`. -/
def returnedBefore (a b : ProfileRefreshRow) : Bool :=
  decide (b.priority < a.priority ∨ a.priority = b.priority ∧ a.runAfter ≤ b.runAfter)

def lease (now : ℤ) (workerId : String) (leaseSeconds : ℤ) (row : ProfileRefreshRow) :
    ProfileRefreshRow :=
  { row with
    status := .running
    leasedBy := some workerId
    leaseExpiresAt := some (now + secondsInterval leaseSeconds)
    attempts := row.attempts + 1
    startedAt := row.startedAt.or (some now)
    updatedAt := now }

def refreshJob (row : ProfileRefreshRow) : ProfileRefreshJob where
  id := row.id
  profileKind := row.profileKind
  profileKey := row.profileKey
  priority := row.priority
  reason := row.reason
  attempts := row.attempts
  maxAttempts := row.maxAttempts
  payload := row.payload
  runAfter := row.runAfter
  leaseExpiresAt := row.leaseExpiresAt

theorem activeProfile_lease {now : ℤ} {workerId : String} {leaseSeconds : ℤ}
    {row : ProfileRefreshRow} (h : row.claimable now = true) :
    (row.lease now workerId leaseSeconds).activeProfile = row.activeProfile := by
  have hactive : row.isActive = true := by
    simp only [claimable, Bool.and_eq_true, Bool.or_eq_true] at h
    simp only [isActive, Bool.or_eq_true]
    rcases h with ⟨hqueued, -⟩ | ⟨⟨hrunning, -⟩, -⟩
    · exact Or.inl hqueued
    · exact Or.inr hrunning
  simp only [activeProfile, hactive, if_true]
  rfl

end ProfileRefreshRow

/-- `locked` are the rows that another transaction holds: `SKIP LOCKED`. -/
def candidateJobs (now : ℤ) (jobs : ProfileRefreshJobs) (limit : ℤ) (locked : List ℕ) :
    List ProfileRefreshRow :=
  limitBy ProfileRefreshRow.claimedBefore limit.toNat
    (jobs.rows.filter fun row => row.claimable now && row.id ∉ locked)

theorem mem_candidateJobs {now : ℤ} {jobs : ProfileRefreshJobs} {limit : ℤ} {locked : List ℕ}
    {row : ProfileRefreshRow} (h : row ∈ candidateJobs now jobs limit locked) :
    jobs.find row.id = some row ∧ row.claimable now = true := by
  obtain ⟨hmem, hguard⟩ := List.mem_filter.mp (mem_of_limitBy h)
  rw [Bool.and_eq_true] at hguard
  exact ⟨IndexedTable.find_of_mem hmem, hguard.1⟩

theorem candidateJobs_nodup (now : ℤ) (jobs : ProfileRefreshJobs) (limit : ℤ)
    (locked : List ℕ) :
    ((candidateJobs now jobs limit locked).map ProfileRefreshRow.id).Nodup :=
  nodup_map_limitBy ((List.Sublist.map _ List.filter_sublist).nodup jobs.table.keysNodup)

def claimProfileRefreshJobs (now : ℤ) (jobs : ProfileRefreshJobs) (workerId : String)
    (limit leaseSeconds : ℤ) (locked : List ℕ) :
    Option (List ProfileRefreshJob × ProfileRefreshJobs) :=
  if limit < 1 ∨ leaseSeconds < 1 then none
  else
    let candidates := candidateJobs now jobs limit locked
    let lease := ProfileRefreshRow.lease now workerId leaseSeconds
    (jobs.modifyEach (candidates.map ProfileRefreshRow.id) lease fun _ => rfl).map fun claimed =>
      (((candidates.map lease).insertionSort fun a b => a.returnedBefore b = true).map
        ProfileRefreshRow.refreshJob, claimed)

theorem claim_cases (now : ℤ) (jobs : ProfileRefreshJobs) (workerId : String)
    (limit leaseSeconds : ℤ) (locked : List ℕ) :
    claimProfileRefreshJobs now jobs workerId limit leaseSeconds locked = none ∨
      ∃ returned claimed, 1 ≤ leaseSeconds ∧
        claimProfileRefreshJobs now jobs workerId limit leaseSeconds locked =
          some (returned, claimed) ∧
        ∀ row' ∈ claimed, row' ∈ jobs ∨ ∃ row ∈ jobs, row.claimable now = true ∧
          row' = row.lease now workerId leaseSeconds := by
  unfold claimProfileRefreshJobs
  by_cases hrefused : limit < 1 ∨ leaseSeconds < 1
  · exact Or.inl (if_pos hrefused)
  · have hseconds : 1 ≤ leaseSeconds := by omega
    have hcandidate : ∀ k ∈ (candidateJobs now jobs limit locked).map ProfileRefreshRow.id,
        ∀ row, jobs.find k = some row → row.claimable now = true := by
      intro k hk row hrow
      obtain ⟨candidate, hcandidate, rfl⟩ := List.mem_map.mp hk
      obtain ⟨hfind, hclaimable⟩ := mem_candidateJobs hcandidate
      rw [hfind] at hrow
      exact Option.some.inj hrow ▸ hclaimable
    obtain ⟨claimed, hclaimed, hfind⟩ := IndexedTable.modifyEach_spec jobs
      ((candidateJobs now jobs limit locked).map ProfileRefreshRow.id)
      (ProfileRefreshRow.lease now workerId leaseSeconds) (fun _ => rfl)
      (candidateJobs_nodup now jobs limit locked) (fun k hk row hrow =>
        ProfileRefreshRow.activeProfile_lease (hcandidate k hk row hrow))
    rw [if_neg hrefused]
    refine Or.inr ⟨_, claimed, hseconds, by simp only [hclaimed]; rfl, ?_⟩
    intro row' hrow'
    have hfound := IndexedTable.find_of_mem hrow'
    rw [hfind row'.id] at hfound
    by_cases hk : row'.id ∈ (candidateJobs now jobs limit locked).map ProfileRefreshRow.id
    · rw [if_pos hk] at hfound
      obtain ⟨row, hrow, rfl⟩ := Option.map_eq_some_iff.mp hfound
      exact Or.inr ⟨row, (IndexedTable.find_eq_some_iff.mp hrow).1, hcandidate _ hk row hrow, rfl⟩
    · rw [if_neg hk] at hfound
      exact Or.inl (IndexedTable.find_eq_some_iff.mp hfound).1

/-! ### `complete_profile_refresh_job` -/

inductive ProfileRefreshStatus where
  | succeeded | failed | skipped | cancelled
  deriving DecidableEq, Repr

def ProfileRefreshStatus.jobStatus : ProfileRefreshStatus → ProfileJobStatus
  | .succeeded => .succeeded
  | .failed => .failed
  | .skipped => .skipped
  | .cancelled => .cancelled

namespace ProfileRefreshRow

def complete (now : ℤ) (status : ProfileRefreshStatus) (errorMessage : Option String)
    (row : ProfileRefreshRow) : ProfileRefreshRow :=
  { row with
    status := status.jobStatus
    finishedAt := some now
    leaseExpiresAt := none
    lastError := errorMessage
    updatedAt := now }

def isRunning (row : ProfileRefreshRow) : Bool := row.status = .running

def isTerminal (row : ProfileRefreshRow) : Bool := !row.isActive

theorem complete_isTerminal (now : ℤ) (status : ProfileRefreshStatus)
    (errorMessage : Option String) (row : ProfileRefreshRow) :
    (row.complete now status errorMessage).isTerminal = true := by
  cases status <;> rfl

end ProfileRefreshRow

/-- `status == "failed" and not error_message`. -/
def lacksErrorMessage (status : ProfileRefreshStatus) (errorMessage : Option String) : Bool :=
  status = .failed && errorMessage.getD "" = ""

def completeProfileRefreshJob (now : ℤ) (jobs : ProfileRefreshJobs) (jobId : ℕ)
    (status : ProfileRefreshStatus) (errorMessage : Option String) :
    Option (Bool × ProfileRefreshJobs) :=
  if lacksErrorMessage status errorMessage then none
  else
    (jobs.returning jobId ProfileRefreshRow.isRunning
      (ProfileRefreshRow.complete now status errorMessage) fun _ => rfl).map
        fun (returned, completed) => (returned.isSome, completed)

theorem complete_cases (now : ℤ) (jobs : ProfileRefreshJobs) (jobId : ℕ)
    (status : ProfileRefreshStatus) (errorMessage : Option String) :
    (lacksErrorMessage status errorMessage = true ∧
        completeProfileRefreshJob now jobs jobId status errorMessage = none) ∨
      (lacksErrorMessage status errorMessage = false ∧ ∃ row completed,
        jobs.find jobId = some row ∧ row.isRunning = true ∧
        jobs.modify jobId (ProfileRefreshRow.complete now status errorMessage) (fun _ => rfl) =
          some completed ∧
        completeProfileRefreshJob now jobs jobId status errorMessage = some (true, completed)) ∨
      ((∀ row, jobs.find jobId = some row → row.isRunning = false) ∧
        completeProfileRefreshJob now jobs jobId status errorMessage = some (false, jobs)) := by
  unfold completeProfileRefreshJob
  by_cases hlacks : lacksErrorMessage status errorMessage = true
  · exact Or.inl ⟨hlacks, if_pos hlacks⟩
  · have hentry : ∀ row : ProfileRefreshRow, row.isRunning = true →
        (row.complete now status errorMessage).activeProfile = row.activeProfile ∨
          (row.complete now status errorMessage).activeProfile = none := by
      intro row _
      right
      cases status <;> rfl
    rw [if_neg hlacks]
    rcases IndexedTable.returning_total jobs jobId ProfileRefreshRow.isRunning
        (ProfileRefreshRow.complete now status errorMessage) (fun _ => rfl) hentry with
      ⟨row, completed, hrow, hrunning, hmodify, hreturning⟩ | ⟨hother, hreturning⟩
    · refine Or.inr (Or.inl ⟨by simpa using hlacks, row, completed, hrow, hrunning, hmodify, ?_⟩)
      rw [hreturning]
      rfl
    · refine Or.inr (Or.inr ⟨hother, ?_⟩)
      rw [hreturning]
      rfl

end FloodRisk.Profiles
