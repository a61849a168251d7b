import FloodRisk.Lib.Transition
import FloodRisk.Profiles.RefreshJobs

/-!
# Runs of the profile refresh workers

Any number of workers claim jobs and complete them, late or not at all, while
requests arrive and time passes.  Two histories lose what the statements are
for: a lease of the last attempt runs out, and a superseded claim completes the
job that another worker has claimed since.
-/

namespace FloodRisk.Profiles
open Transition

structure ProfileClaim where
  ticket : ℕ
  jobId : ℕ
  deriving DecidableEq

structure RefreshState where
  now : ℤ
  jobs : ProfileRefreshJobs
  claims : List ProfileClaim

def RefreshState.empty (start : ℤ) : RefreshState := ⟨start, .empty, []⟩

inductive RefreshAction where
  | enqueue (request : RefreshRequest) (newId : ℕ)
  | claim (workerId : String) (limit leaseSeconds : ℤ) (locked : List ℕ)
  | complete (ticket : ℕ) (status : ProfileRefreshStatus) (errorMessage : Option String)
  | wait (elapsed : ℕ)

def issueClaims (claims : List ProfileClaim) (returned : List ProfileRefreshJob) :
    List ProfileClaim :=
  returned.foldl (fun issued job => issued ++ [⟨issued.length, job.id⟩]) claims

def claimOf (s : RefreshState) (ticket : ℕ) : Option ProfileClaim :=
  s.claims.find? fun claim => claim.ticket = ticket

def RefreshState.step (s : RefreshState) : RefreshAction → RefreshState
  | .enqueue request newId =>
      { s with jobs := (enqueueProfileRefreshJob s.now s.jobs request newId).2 }
  | .claim workerId limit leaseSeconds locked =>
      match claimProfileRefreshJobs s.now s.jobs workerId limit leaseSeconds locked with
      | none => s
      | some (returned, jobs) => { s with jobs := jobs, claims := issueClaims s.claims returned }
  | .complete ticket status errorMessage =>
      match claimOf s ticket with
      | none => s
      | some claim =>
          match completeProfileRefreshJob s.now s.jobs claim.jobId status errorMessage with
          | none => s
          | some (_, jobs) => { s with jobs := jobs }
  | .wait elapsed => { s with now := s.now + elapsed }

def Superseded (s : RefreshState) (claim : ProfileClaim) : Prop :=
  ∃ later ∈ s.claims, later.jobId = claim.jobId ∧ claim.ticket < later.ticket

/-! ### Where every job is -/

def Kept (now : ℤ) (row : ProfileRefreshRow) : Prop :=
  row.status = .queued ∨ row.isTerminal = true ∨
    (row.status = .running ∧ ∃ expires, row.leaseExpiresAt = some expires ∧ now < expires) ∨
    row.claimable now = true

def Lost (now : ℤ) (row : ProfileRefreshRow) : Prop :=
  row.status = .running ∧ row.maxAttempts ≤ row.attempts ∧
    ∃ expires, row.leaseExpiresAt = some expires ∧ expires ≤ now

def Leased (row : ProfileRefreshRow) : Prop := row.status = .running → row.leaseExpiresAt ≠ none

theorem kept_iff {now : ℤ} {row : ProfileRefreshRow} (h : Leased row) :
    Kept now row ↔ ¬ Lost now row := by
  by_cases hrunning : row.status = .running
  · obtain ⟨expires, hexpires⟩ := Option.ne_none_iff_exists'.mp (h hrunning)
    constructor
    · rintro hkept ⟨-, hlast, other, hother, hpast⟩
      rw [hexpires] at hother
      obtain rfl := Option.some.inj hother
      rcases hkept with hs | hs | ⟨-, later, hlater, hfuture⟩ | hs
      · simp [hrunning] at hs
      · simp [ProfileRefreshRow.isTerminal, ProfileRefreshRow.isActive, hrunning] at hs
      · rw [hexpires] at hlater
        obtain rfl := Option.some.inj hlater
        omega
      · simp [ProfileRefreshRow.claimable, hrunning, hexpires] at hs
        omega
    · intro hnot
      by_cases hfuture : now < expires
      · exact Or.inr (Or.inr (Or.inl ⟨hrunning, expires, hexpires, hfuture⟩))
      · have hpast : expires ≤ now := by omega
        have hleft : row.attempts < row.maxAttempts := by
          by_contra hlast
          exact hnot ⟨hrunning, Nat.not_lt.mp hlast, expires, hexpires, hpast⟩
        refine Or.inr (Or.inr (Or.inr ?_))
        simp [ProfileRefreshRow.claimable, hrunning, hexpires, hleft, hpast]
  · refine ⟨fun _ hlost => hrunning hlost.1, fun _ => ?_⟩
    by_cases hqueued : row.status = .queued
    · exact Or.inl hqueued
    · refine Or.inr (Or.inl ?_)
      simp [ProfileRefreshRow.isTerminal, ProfileRefreshRow.isActive, hrunning, hqueued]

theorem row_of_step {s : RefreshState} {action : RefreshAction} {row' : ProfileRefreshRow}
    (h : row' ∈ (s.step action).jobs) :
    row' ∈ s.jobs ∨ Leased row' ∧ ¬ Lost s.now row' := by
  cases action with
  | enqueue request newId =>
      have hmem : row' ∈ (enqueueProfileRefreshJob s.now s.jobs request newId).2 := h
      rcases enqueue_cases s.now s.jobs request newId with hnone | ⟨inserted, hinsert, hcall⟩
      · rw [hnone] at hmem
        exact Or.inl hmem
      · rw [hcall] at hmem
        rcases (IndexedTable.mem_of_insert hinsert).mp hmem with hold | rfl
        · exact Or.inl hold
        · refine Or.inr ⟨fun hrunning => ?_, fun hlost => ?_⟩
          · exact absurd hrunning (by simp [RefreshRequest.insertedRow])
          · exact absurd hlost.1 (by simp [RefreshRequest.insertedRow])
  | claim workerId limit leaseSeconds locked =>
      rcases claim_cases s.now s.jobs workerId limit leaseSeconds locked with
        hnone | ⟨returned, claimed, hseconds, hcall, hrows⟩
      · simp only [RefreshState.step, hnone] at h
        exact Or.inl h
      · simp only [RefreshState.step, hcall] at h
        rcases hrows row' h with hold | ⟨row, -, -, rfl⟩
        · exact Or.inl hold
        · refine Or.inr ⟨fun _ => by simp [ProfileRefreshRow.lease], ?_⟩
          rintro ⟨-, -, expires, hexpires, hpast⟩
          have hlease : s.now + secondsInterval leaseSeconds = expires := Option.some.inj hexpires
          simp only [secondsInterval] at hlease
          omega
  | complete ticket status errorMessage =>
      cases hclaim : claimOf s ticket with
      | none =>
          simp only [RefreshState.step, hclaim] at h
          exact Or.inl h
      | some claim =>
          rcases complete_cases s.now s.jobs claim.jobId status errorMessage with
            ⟨-, hnone⟩ | ⟨-, row, completed, hrow, -, hmodify, hcall⟩ | ⟨-, hcall⟩
          · simp only [RefreshState.step, hclaim, hnone] at h
            exact Or.inl h
          · simp only [RefreshState.step, hclaim, hcall] at h
            rcases (IndexedTable.mem_of_modify hmodify).mp h with ⟨hold, -⟩ | ⟨old, -, rfl⟩
            · exact Or.inl hold
            · refine Or.inr ⟨fun hrunning => ?_, fun hlost => ?_⟩
              · exact absurd hrunning (by cases status <;> simp [ProfileRefreshRow.complete,
                  ProfileRefreshStatus.jobStatus])
              · exact absurd hlost.1 (by cases status <;> simp [ProfileRefreshRow.complete,
                  ProfileRefreshStatus.jobStatus])
          · simp only [RefreshState.step, hclaim, hcall] at h
            exact Or.inl h
  | wait elapsed => exact Or.inl h

def AllLeased (s : RefreshState) : Prop := ∀ row ∈ s.jobs, Leased row

def NoneLost (s : RefreshState) : Prop := ∀ row ∈ s.jobs, ¬ Lost s.now row

theorem allLeased_step (s : RefreshState) (action : RefreshAction) (h : AllLeased s) :
    AllLeased (s.step action) := by
  intro row' hrow'
  rcases row_of_step hrow' with hold | ⟨hleased, -⟩
  · exact h row' hold
  · exact hleased

/-- No lease of a last attempt runs out while time passes. -/
def KeepsLastLeases (s : RefreshState) : RefreshAction → Prop
  | .wait elapsed => ∀ row ∈ s.jobs, row.status = .running → row.maxAttempts ≤ row.attempts →
      ∀ expires, row.leaseExpiresAt = some expires → s.now + elapsed < expires
  | _ => True

theorem noneLost_of_same_now {s : RefreshState} {action : RefreshAction}
    (hnow : (s.step action).now = s.now) (h : NoneLost s) : NoneLost (s.step action) := by
  intro row' hrow'
  rw [hnow]
  rcases row_of_step hrow' with hold | ⟨-, hfresh⟩
  · exact h row' hold
  · exact hfresh

theorem now_step (s : RefreshState) (action : RefreshAction)
    (hwait : ∀ elapsed, action ≠ .wait elapsed) : (s.step action).now = s.now := by
  cases action with
  | enqueue request newId => rfl
  | claim workerId limit leaseSeconds locked =>
      simp only [RefreshState.step]
      split <;> rfl
  | complete ticket status errorMessage =>
      simp only [RefreshState.step]
      split
      · rfl
      · split <;> rfl
  | wait elapsed => exact absurd rfl (hwait elapsed)

theorem noneLost_step_iff (s : RefreshState) (action : RefreshAction) (h : NoneLost s) :
    NoneLost (s.step action) ↔ KeepsLastLeases s action := by
  cases action with
  | wait elapsed =>
      constructor
      · intro hnone row hrow hrunning hlast expires hexpires
        by_contra hpast
        have hnow : expires ≤ s.now + elapsed := by omega
        exact hnone row hrow ⟨hrunning, hlast, expires, hexpires, hnow⟩
      · rintro hkeeps row hrow ⟨hrunning, hlast, expires, hexpires, hpast⟩
        have hlater := hkeeps row hrow hrunning hlast expires hexpires
        have hnow : expires ≤ s.now + elapsed := hpast
        omega
  | enqueue request newId =>
      exact iff_of_true (noneLost_of_same_now (now_step s _ (by simp)) h) trivial
  | claim workerId limit leaseSeconds locked =>
      exact iff_of_true (noneLost_of_same_now (now_step s _ (by simp)) h) trivial
  | complete ticket status errorMessage =>
      exact iff_of_true (noneLost_of_same_now (now_step s _ (by simp)) h) trivial

/-! ### Completions of superseded claims -/

/-- A completion on behalf of a superseded claim leaves the row as it is. -/
def LeavesRow (s : RefreshState) : RefreshAction → Prop
  | .complete ticket status errorMessage => ∀ claim, claimOf s ticket = some claim →
      Superseded s claim →
      (s.step (.complete ticket status errorMessage)).jobs.find claim.jobId =
        s.jobs.find claim.jobId
  | _ => True

/-- The job of a superseded claim no longer runs when the claim completes. -/
def CompletesOwnClaim (s : RefreshState) : RefreshAction → Prop
  | .complete ticket status errorMessage => ∀ claim, claimOf s ticket = some claim →
      Superseded s claim → lacksErrorMessage status errorMessage = false →
      ∀ row, s.jobs.find claim.jobId = some row → row.status ≠ .running
  | _ => True

theorem leavesRow_iff (s : RefreshState) (action : RefreshAction) :
    LeavesRow s action ↔ CompletesOwnClaim s action := by
  cases action with
  | enqueue request newId => exact Iff.rfl
  | claim workerId limit leaseSeconds locked => exact Iff.rfl
  | wait elapsed => exact Iff.rfl
  | complete ticket status errorMessage =>
      simp only [LeavesRow, CompletesOwnClaim]
      refine forall₃_congr fun claim hclaim _ => ?_
      rcases complete_cases s.now s.jobs claim.jobId status errorMessage with
        ⟨hlacks, hnone⟩ | ⟨hlacks, row, completed, hrow, hrunning, hmodify, hcall⟩ |
          ⟨hother, hcall⟩
      · simp only [RefreshState.step, hclaim, hnone, hlacks]
        simp
      · simp only [RefreshState.step, hclaim, hcall]
        rw [IndexedTable.find_modify_self hmodify hrow, hrow]
        have hstatus : row.status = .running := of_decide_eq_true hrunning
        constructor
        · intro hsame
          have hterminal := row.complete_isTerminal s.now status errorMessage
          rw [Option.some.inj hsame] at hterminal
          simp [ProfileRefreshRow.isTerminal, ProfileRefreshRow.isActive, hstatus] at hterminal
        · intro hidle
          exact absurd hstatus (hidle hlacks row rfl)
      · simp only [RefreshState.step, hclaim, hcall]
        refine iff_of_true trivial ?_
        intro _ row hrow
        exact of_decide_eq_false (hother row hrow)

/-! ### Runs -/

/-- The run keeps every job in sight and superseded claims change no row,
exactly when no last lease is let run out and no superseded claim completes a
job that another worker holds. -/
theorem refresh_jobs_kept_iff (start : ℤ) (actions : List RefreshAction) :
    ((∀ s ∈ trajectory RefreshState.step (.empty start) actions,
          ∀ row ∈ s.jobs, Kept s.now row) ∧
        Along RefreshState.step LeavesRow (.empty start) actions) ↔
      Along RefreshState.step KeepsLastLeases (.empty start) actions ∧
        Along RefreshState.step CompletesOwnClaim (.empty start) actions := by
  have hleased : AllLeased (.empty start) := fun row hrow =>
    absurd hrow (IndexedTable.not_mem_empty row)
  have hnone : NoneLost (.empty start) := fun row hrow =>
    absurd hrow (IndexedTable.not_mem_empty row)
  have hreached : ∀ s ∈ trajectory RefreshState.step (.empty start) actions, AllLeased s :=
    trajectory_invariant allLeased_step hleased
  have hkept : (∀ s ∈ trajectory RefreshState.step (.empty start) actions,
      ∀ row ∈ s.jobs, Kept s.now row) ↔
      ∀ s ∈ trajectory RefreshState.step (.empty start) actions, NoneLost s := by
    refine forall₂_congr fun s hs => ?_
    exact forall₂_congr fun row hrow => kept_iff (hreached s hs row hrow)
  rw [hkept, trajectory_forall_iff_along (fun _ _ (_ : True) => trivial)
    (fun s action _ => noneLost_step_iff s action) trivial hnone]
  rw [along_congr (fun _ _ (_ : True) => trivial) (fun s action _ => leavesRow_iff s action)
    trivial]

/-- The worker of the third and last attempt dies. -/
def deadWorkerActions : List RefreshAction :=
  [.enqueue { profileKind := .riskGrid, profileKey := "8:21:13" } 1,
    .claim "worker-a" 1 300 [], .wait 300000000, .claim "worker-a" 1 300 [], .wait 300000000,
    .claim "worker-a" 1 300 [], .wait 300000000]

theorem job_of_last_attempt_is_lost :
    ∃ s ∈ trajectory RefreshState.step (.empty 0) deadWorkerActions,
      ∃ row ∈ s.jobs, ¬ Kept s.now row := by
  have hfind : (run RefreshState.step (.empty 0) deadWorkerActions).jobs.find 1 =
      some (((run RefreshState.step (.empty 0) deadWorkerActions).jobs.find 1).get
        (by decide +kernel)) := (Option.some_get _).symm
  have hrow := (IndexedTable.find_eq_some_iff.mp hfind).1
  have hleased : AllLeased (run RefreshState.step (.empty 0) deadWorkerActions) :=
    run_invariant allLeased_step (fun row hrow => absurd hrow (IndexedTable.not_mem_empty row)) _
  refine ⟨_, run_mem_trajectory (by simp [deadWorkerActions]), _, hrow, ?_⟩
  rw [kept_iff (hleased _ hrow), not_not]
  exact ⟨by decide +kernel, by decide +kernel, 900000000, by decide +kernel, by decide +kernel⟩

end FloodRisk.Profiles
