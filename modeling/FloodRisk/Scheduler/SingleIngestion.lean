import FloodRisk.Scheduler.BaselineLoop

/-!
# One ingesting scheduler

The lease alone does not keep two processes out of the tick: a renewal that
raises is ignored, so the lease of a process in its tick can run out and be
taken.  Where that does not happen, the process in the tick is the one whose
call wrote the lease.
-/

namespace FloodRisk.Scheduler
open Transition

/-- Between the granted lease and the end of `_run_v1_baseline_tick`. -/
def SchedulerProcess.ingesting (process : SchedulerProcess) : Prop :=
  process.point = .entering ∨ process.point = .inTick

instance (process : SchedulerProcess) : Decidable process.ingesting :=
  inferInstanceAs (Decidable (_ ∨ _))

def SingleTick (s : SchedulerState) : Prop :=
  ∀ p q, (s.process p).point = .inTick → (s.process q).point = .inTick → p = q

/-- The lease row is the one that `acquiredBy` wrote. -/
def Recorded (config : SchedulerConfig) (s : SchedulerState) : Prop :=
  s.lease.map Lease.holder = s.acquiredBy.map config.leaseHolder

structure OneHolder (config : SchedulerConfig) (s : SchedulerState) : Prop where
  holder : Recorded config s
  ingests : ∀ p, (s.process p).ingesting → s.acquiredBy = some p

/-- The process whose statement on the lease the database runs in this step. -/
def acquiring (config : SchedulerConfig) (s : SchedulerState) : SchedulerAction → Option ℕ
  | .proceed p outcome =>
      if outcome.applied && ((s.process p).point = .renewing ||
          ((s.process p).point = .top && !s.limitReached config p)) then some p
      else none
  | .heartbeat p outcome =>
      if outcome.applied && SchedulerState.heartbeatRuns (s.process p) then some p else none
  | _ => none

/-- A process that finds the lease run out does not take it from one that
still ingests. -/
def SparesIngesting (config : SchedulerConfig) (s : SchedulerState) (action : SchedulerAction) :
    Prop :=
  ∀ p q lease, acquiring config s action = some p → s.lease = some lease →
    lease.expiresAt ≤ s.now → s.acquiredBy = some q → q ≠ p → ¬ (s.process q).ingesting

instance (config : SchedulerConfig) (s : SchedulerState) (action : SchedulerAction) :
    Decidable (SparesIngesting config s action) :=
  decidable_of_iff
    (∀ p ∈ acquiring config s action, ∀ lease ∈ s.lease, ∀ q ∈ s.acquiredBy,
      lease.expiresAt ≤ s.now → q ≠ p → ¬ (s.process q).ingesting)
    ⟨fun h p q lease hp hlease hexpired hq => h p hp lease hlease q hq hexpired,
      fun h p hp lease hlease q hq hexpired => h p q lease hp hlease hexpired hq⟩

/-! ### What one step does -/

/-- A step of the main thread moves the process, after a call on the lease at
two points and after its release at a third. -/
theorem proceed_cases (config : SchedulerConfig) (s : SchedulerState) (p : ℕ)
    (outcome : CallOutcome) :
    (∃ process, s.proceed config p outcome = s.setProcess p process ∧
        (process.ingesting → (s.process p).ingesting)) ∨
      (∃ process, s.proceed config p outcome =
          (s.acquireOrRenewLease config p outcome).1.setProcess p process ∧
        (outcome.applied = true → acquiring config s (.proceed p outcome) = some p) ∧
        (process.ingesting → (s.acquireOrRenewLease config p outcome).2 = some true)) ∨
      (∃ process, s.proceed config p outcome =
          (s.releaseSchedulerLease config p outcome).setProcess p process ∧
        ¬ process.ingesting ∧ ¬ (s.process p).ingesting) := by
  cases hpoint : (s.process p).point with
  | top =>
      simp only [SchedulerState.proceed, hpoint]
      by_cases hlimit : s.limitReached config p = true
      · rw [if_pos hlimit]
        exact Or.inl ⟨_, rfl, by simp [SchedulerProcess.ingesting]⟩
      · rw [if_neg hlimit]
        have hcall : outcome.applied = true → acquiring config s (.proceed p outcome) = some p :=
          fun happlied => by simp [acquiring, happlied, hpoint, hlimit]
        right
        left
        by_cases hanswer : (s.acquireOrRenewLease config p outcome).2 = some true
        · rw [if_pos hanswer]
          exact ⟨_, rfl, hcall, fun _ => hanswer⟩
        · rw [if_neg hanswer]
          split
          · exact ⟨_, rfl, hcall, by simp [SchedulerProcess.ingesting]⟩
          · refine ⟨_, rfl, hcall, ?_⟩
            split <;> simp [SchedulerProcess.ingesting]
  | waiting =>
      simp only [SchedulerState.proceed, hpoint]
      exact Or.inl ⟨_, rfl, by simp [SchedulerProcess.ingesting]⟩
  | entering =>
      simp only [SchedulerState.proceed, hpoint]
      exact Or.inl ⟨_, rfl, fun _ => Or.inl hpoint⟩
  | inTick =>
      simp only [SchedulerState.proceed, hpoint]
      exact Or.inl ⟨_, rfl, by simp [SchedulerProcess.ingesting]⟩
  | maintenance =>
      simp only [SchedulerState.proceed, hpoint]
      refine Or.inl ⟨_, rfl, ?_⟩
      split <;> simp [SchedulerProcess.ingesting]
  | renewing =>
      simp only [SchedulerState.proceed, hpoint]
      have hcall : outcome.applied = true → acquiring config s (.proceed p outcome) = some p :=
        fun happlied => by simp [acquiring, happlied, hpoint]
      right
      left
      split <;> exact ⟨_, rfl, hcall, by simp [SchedulerProcess.ingesting]⟩
  | sleeping =>
      simp only [SchedulerState.proceed, hpoint]
      exact Or.inl ⟨_, rfl, by simp [SchedulerProcess.ingesting]⟩
  | releasing =>
      simp only [SchedulerState.proceed, hpoint]
      split
      · exact Or.inr (Or.inr ⟨_, rfl, by simp [SchedulerProcess.ingesting],
          by simp [SchedulerProcess.ingesting, hpoint]⟩)
      · exact Or.inl ⟨_, rfl, by simp [SchedulerProcess.ingesting]⟩
  | stopped =>
      simp only [SchedulerState.proceed, hpoint]
      refine Or.inl ⟨s.process p, ?_, id⟩
      simp only [SchedulerState.setProcess, Function.update_eq_self]

theorem heartbeat_cases (config : SchedulerConfig) (s : SchedulerState) (p : ℕ)
    (outcome : CallOutcome) :
    s.heartbeat config p outcome = s ∨
      ∃ process, s.heartbeat config p outcome =
          (s.acquireOrRenewLease config p outcome).1.setProcess p process ∧
        (outcome.applied = true → acquiring config s (.heartbeat p outcome) = some p) ∧
        (process.ingesting → (s.process p).ingesting) := by
  unfold SchedulerState.heartbeat
  by_cases hruns : SchedulerState.heartbeatRuns (s.process p) = true
  · rw [if_pos hruns]
    have hcall : outcome.applied = true → acquiring config s (.heartbeat p outcome) = some p :=
      fun happlied => by simp [acquiring, happlied, hruns]
    have hsame : (s.acquireOrRenewLease config p outcome).1.process = s.process := by
      rcases acquireOrRenewLease_cases config s p outcome with ⟨-, -, -, hstate⟩ | ⟨-, hstate⟩
      · rw [hstate]
      · rw [hstate]
    right
    simp only
    split
    · exact ⟨_, rfl, hcall, id⟩
    · refine ⟨s.process p, ?_, hcall, id⟩
      rw [← hsame]
      simp only [SchedulerState.setProcess, Function.update_eq_self]
  · exact Or.inl (if_neg hruns)

section
variable {config : SchedulerConfig} {s : SchedulerState} {p : ℕ}

/-! ### Who holds the lease -/

theorem recorded_call (h : Recorded config s) (p : ℕ) (outcome : CallOutcome) :
    Recorded config (s.acquireOrRenewLease config p outcome).1 ∧
      (s.lease ≠ none → (s.acquireOrRenewLease config p outcome).1.lease ≠ none) := by
  rcases acquireOrRenewLease_cases config s p outcome with ⟨-, -, -, hstate⟩ | ⟨-, hstate⟩
  · rw [hstate]
    exact ⟨rfl, by simp⟩
  · rw [hstate]
    exact ⟨h, id⟩

theorem recorded_release (h : Recorded config s) (p : ℕ) (outcome : CallOutcome) :
    s.releaseSchedulerLease config p outcome = s ∨
      s.acquiredBy = some p ∧
        s.releaseSchedulerLease config p outcome = { s with lease := none, acquiredBy := none } := by
  unfold SchedulerState.releaseSchedulerLease
  by_cases happlied : outcome.applied = true
  · rw [if_pos happlied]
    unfold Recorded at h
    rcases Lease.release_cases (config.leaseHolder p) s.lease with
      hkept | ⟨current, hcurrent, hown, hgone⟩
    · left
      simp only [hkept]
      cases hlease : s.lease with
      | none =>
          rw [hlease] at h
          have hnobody : s.acquiredBy = none := by simpa using h.symm
          simp only [Option.isSome_none, Bool.false_eq_true, if_false]
          rw [← hnobody, ← hlease]
      | some lease =>
          simp only [Option.isSome_some, if_true]
          rw [← hlease]
    · right
      rw [hcurrent, Option.map_some] at h
      obtain ⟨q, hq, hname⟩ := Option.map_eq_some_iff.mp h.symm
      have hqp : q = p := config.distinct (hname.trans hown)
      refine ⟨hqp ▸ hq, ?_⟩
      simp only [hgone]
      rfl
  · exact Or.inl (if_neg happlied)

/-- A lease that a step takes away was acquired by the process of the step. -/
def ReleasesOwn (config : SchedulerConfig) (s : SchedulerState) (action : SchedulerAction) :
    Prop :=
  s.lease ≠ none → (s.step config action).lease = none →
    ∃ p outcome, action = .proceed p outcome ∧ s.acquiredBy = some p

theorem recorded_step (action : SchedulerAction) (h : Recorded config s) :
    Recorded config (s.step config action) ∧ ReleasesOwn config s action := by
  cases action with
  | wait elapsed => exact ⟨h, fun hsome hnone => absurd hnone hsome⟩
  | proceed p outcome =>
      show Recorded config (s.proceed config p outcome) ∧ _
      rcases proceed_cases config s p outcome with
        ⟨process, hstate, -⟩ | ⟨process, hstate, -, -⟩ | ⟨process, hstate, -, -⟩
      · refine ⟨by rw [hstate]; exact h, fun hsome hnone => ?_⟩
        have hlease : (s.proceed config p outcome).lease = none := hnone
        rw [hstate] at hlease
        exact absurd hlease hsome
      · obtain ⟨hcalled, hkept⟩ := recorded_call h p outcome
        refine ⟨by rw [hstate]; exact hcalled, fun hsome hnone => ?_⟩
        have hlease : (s.proceed config p outcome).lease = none := hnone
        rw [hstate] at hlease
        exact absurd hlease (hkept hsome)
      · rcases recorded_release h p outcome with hsame | ⟨hown, hreleased⟩
        · rw [hsame] at hstate
          refine ⟨by rw [hstate]; exact h, fun hsome hnone => ?_⟩
          have hlease : (s.proceed config p outcome).lease = none := hnone
          rw [hstate] at hlease
          exact absurd hlease hsome
        · rw [hreleased] at hstate
          exact ⟨by rw [hstate]; rfl, fun _ _ => ⟨p, outcome, rfl, hown⟩⟩
  | heartbeat p outcome =>
      show Recorded config (s.heartbeat config p outcome) ∧ _
      rcases heartbeat_cases config s p outcome with hsame | ⟨process, hstate, -, -⟩
      · refine ⟨by rw [hsame]; exact h, fun hsome hnone => ?_⟩
        have hlease : (s.heartbeat config p outcome).lease = none := hnone
        rw [hsame] at hlease
        exact absurd hlease hsome
      · obtain ⟨hcalled, hkept⟩ := recorded_call h p outcome
        refine ⟨by rw [hstate]; exact hcalled, fun hsome hnone => ?_⟩
        have hlease : (s.heartbeat config p outcome).lease = none := hnone
        rw [hstate] at hlease
        exact absurd hlease (hkept hsome)
  | interrupt p =>
      have hlease : (s.interrupt p).lease = s.lease := by
        unfold SchedulerState.interrupt
        split <;> rfl
      have hby : (s.interrupt p).acquiredBy = s.acquiredBy := by
        unfold SchedulerState.interrupt
        split <;> rfl
      refine ⟨?_, fun hsome hnone => absurd (hlease.symm.trans hnone) hsome⟩
      show (s.interrupt p).lease.map Lease.holder = (s.interrupt p).acquiredBy.map _
      rw [hlease, hby]
      exact h
  | kill p => exact ⟨h, fun hsome hnone => absurd hnone hsome⟩

/-! ### Who ingests -/

theorem oneHolder_setProcess (h : OneHolder config s) {process : SchedulerProcess}
    (hprocess : process.ingesting → s.acquiredBy = some p) :
    OneHolder config (s.setProcess p process) := by
  refine ⟨h.holder, fun q hq => ?_⟩
  by_cases hqp : q = p
  · subst hqp
    rw [setProcess_self] at hq
    exact hprocess hq
  · rw [setProcess_of_ne hqp] at hq
    exact h.ingests q hq

theorem oneHolder_call (h : OneHolder config s) {outcome : CallOutcome}
    (hspares : outcome.applied = true → ∀ q lease, s.lease = some lease →
      lease.expiresAt ≤ s.now → s.acquiredBy = some q → q ≠ p → ¬ (s.process q).ingesting) :
    OneHolder config (s.acquireOrRenewLease config p outcome).1 ∧
      ((s.acquireOrRenewLease config p outcome).2 = some true ∨ (s.process p).ingesting →
        (s.acquireOrRenewLease config p outcome).1.acquiredBy = some p) := by
  rcases acquireOrRenewLease_cases config s p outcome with
    ⟨happlied, -, hfree, hstate⟩ | ⟨hrefused, hstate⟩
  · rw [hstate]
    refine ⟨⟨rfl, fun q hq => ?_⟩, fun _ => rfl⟩
    -- any other ingesting process held a lease that was neither free nor the caller's
    have hheld := h.ingests q hq
    have hholder : s.lease.map Lease.holder = s.acquiredBy.map config.leaseHolder := h.holder
    rw [hheld] at hholder
    obtain ⟨current, hcurrent, hname⟩ := Option.map_eq_some_iff.mp hholder
    by_contra hne
    have hqp : q ≠ p := fun heq => hne (heq ▸ rfl)
    rcases hfree current hcurrent with hexpired | hown
    · exact hspares happlied q current hcurrent hexpired hheld hqp hq
    · exact hqp (config.distinct (hname.symm.trans hown))
  · rw [hstate]
    refine ⟨h, ?_⟩
    rintro (hgranted | hingests)
    · exact absurd hgranted hrefused
    · exact h.ingests p hingests

theorem oneHolder_release (h : OneHolder config s) (outcome : CallOutcome)
    (hp : ¬ (s.process p).ingesting) :
    OneHolder config (s.releaseSchedulerLease config p outcome) := by
  rcases recorded_release h.holder p outcome with hsame | ⟨hown, hreleased⟩
  · rw [hsame]
    exact h
  · rw [hreleased]
    refine ⟨rfl, fun q hq => ?_⟩
    have hheld := h.ingests q hq
    rw [hown] at hheld
    obtain rfl := Option.some.inj hheld
    exact absurd hq hp

theorem oneHolder_step (action : SchedulerAction) (h : OneHolder config s)
    (hspares : SparesIngesting config s action) : OneHolder config (s.step config action) := by
  cases action with
  | wait elapsed => exact ⟨h.holder, h.ingests⟩
  | proceed p outcome =>
      show OneHolder config (s.proceed config p outcome)
      rcases proceed_cases config s p outcome with
        ⟨process, hstate, hkept⟩ | ⟨process, hstate, hcall, hgranted⟩ | ⟨process, hstate, hout, hidle⟩
      · rw [hstate]
        exact oneHolder_setProcess h (fun hp => h.ingests p (hkept hp))
      · obtain ⟨hcalled, hholds⟩ := oneHolder_call h
          (fun happlied q lease => hspares p q lease (hcall happlied))
        rw [hstate]
        exact oneHolder_setProcess hcalled (fun hp => hholds (Or.inl (hgranted hp)))
      · rw [hstate]
        exact oneHolder_setProcess (oneHolder_release h outcome hidle) (fun hp => absurd hp hout)
  | heartbeat p outcome =>
      show OneHolder config (s.heartbeat config p outcome)
      rcases heartbeat_cases config s p outcome with hsame | ⟨process, hstate, hcall, hkept⟩
      · rw [hsame]
        exact h
      · obtain ⟨hcalled, hholds⟩ := oneHolder_call h
          (fun happlied q lease => hspares p q lease (hcall happlied))
        rw [hstate]
        exact oneHolder_setProcess hcalled (fun hp => hholds (Or.inr (hkept hp)))
  | interrupt p =>
      show OneHolder config (s.interrupt p)
      unfold SchedulerState.interrupt
      split
      · exact h
      · exact oneHolder_setProcess h (by simp [SchedulerProcess.ingesting])
  | kill p => exact oneHolder_setProcess h (by simp [SchedulerProcess.ingesting])

theorem OneHolder.singleTick (h : OneHolder config s) : SingleTick s := by
  intro p q hp hq
  have hboth := (h.ingests p (Or.inr hp)).symm.trans (h.ingests q (Or.inr hq))
  exact Option.some.inj hboth

end

theorem oneHolder_init (config : SchedulerConfig) (start : ℤ) :
    OneHolder config (.init config start) := by
  refine ⟨rfl, fun p hp => ?_⟩
  simp only [SchedulerProcess.ingesting, SchedulerState.init] at hp
  split at hp <;> simp at hp

/-! ### Runs -/

/-- At most one process ingests in every state of a run in which no process
takes an expired lease from one that still ingests; and in every run a release
takes away the lease of the releasing process only. -/
theorem one_process_ingests (config : SchedulerConfig) (start : ℤ)
    (actions : List SchedulerAction) :
    (Along (SchedulerState.step config) (SparesIngesting config) (.init config start) actions →
        ∀ s ∈ trajectory (SchedulerState.step config) (.init config start) actions,
          SingleTick s) ∧
      Along (SchedulerState.step config) (ReleasesOwn config) (.init config start) actions := by
  have hstart := oneHolder_init config start
  constructor
  · intro halong s hs
    have hholder : OneHolder config s :=
      trajectory_invariant_of_along (fun s a hs hspares => oneHolder_step a hs hspares) hstart
        halong s hs
    exact hholder.singleTick
  · have hrecorded : Recorded config (.init config start) := hstart.holder
    exact along_of_invariant (fun s a (hs : Recorded config s) => (recorded_step a hs).1)
      (fun s a hs => (recorded_step a hs).2) hrecorded actions

/-- Conversely, a process that takes the lease of one in its tick goes on to
its own tick. -/
theorem takeover_overlaps {config : SchedulerConfig} {s : SchedulerState} {p q : ℕ}
    {lease : Lease String} (hp : (s.process p).point = .top)
    (hlimit : s.limitReached config p = false) (hlease : s.lease = some lease)
    (hexpired : lease.expiresAt ≤ s.now) (hq : (s.process q).point = .inTick) :
    ¬ SingleTick (run (SchedulerState.step config) s
      [.proceed p .answered, .proceed p .answered]) := by
  have hne : q ≠ p := by
    rintro rfl
    rw [hp] at hq
    exact absurd hq (by decide)
  have hanswer : (s.acquireOrRenewLease config p .answered).2 = some true := by
    simp [SchedulerState.acquireOrRenewLease, Lease.acquire, hlease, hexpired]
  obtain ⟨called, hcalled⟩ : ∃ called, called = (s.acquireOrRenewLease config p .answered).1 :=
    ⟨_, rfl⟩
  have hprocess : called.process = s.process := by
    rw [hcalled]
    rcases acquireOrRenewLease_cases config s p .answered with ⟨-, -, -, hstate⟩ | ⟨-, hstate⟩
    · rw [hstate]
    · rw [hstate]
  have hfirst : s.step config (.proceed p .answered) = called.setProcess p
      { s.process p with point := .entering, leaseAcquired := true, heartbeatLost := false } := by
    simp [SchedulerState.step, SchedulerState.proceed, hp, hlimit, hanswer, hcalled]
  intro hsingle
  rw [run_cons, run_cons, run_nil, hfirst] at hsingle
  have hsame := hsingle p q (by simp [SchedulerState.step, SchedulerState.proceed]) (by
    simp [SchedulerState.step, SchedulerState.proceed, setProcess_of_ne hne, hprocess, hq])
  exact hne hsame.symm

/-! ### Two schedulers -/

theorem replicate_injective : Function.Injective fun p => String.ofList (List.replicate p 'i') := by
  intro p q heq
  have hlists := String.ofList_injective heq
  have hlengths := congrArg List.length hlists
  simpa using hlengths

def minuteConfig : SchedulerConfig where
  settings := fun _ => ⟨60, false, none, none⟩
  leaseHolder := fun p => String.ofList (List.replicate p 'i')
  distinct := replicate_injective

def proceeds (p n : ℕ) : List SchedulerAction := List.replicate n (.proceed p .answered)

/-- The first process ends its tick and is killed; the second takes over. -/
def handoverActions : List SchedulerAction :=
  proceeds 0 3 ++ [.kill 0, .wait 60000000] ++ proceeds 1 2

theorem handover_has_one_process :
    ∀ s ∈ trajectory (SchedulerState.step minuteConfig) (.init minuteConfig 0) handoverActions,
      SingleTick s := by
  refine (one_process_ingests minuteConfig 0 handoverActions).1 ?_
  decide +kernel

/-- The database is away while the first process ingests: its renewal raises,
its lease runs out, and the second process is granted it. -/
def outageActions : List SchedulerAction :=
  proceeds 0 2 ++ [.heartbeat 0 (.unavailable false), .wait 60000000] ++ proceeds 1 2

theorem outage_lets_two_ingest :
    run (SchedulerState.step minuteConfig) (.init minuteConfig 0) outageActions ∈
        trajectory (SchedulerState.step minuteConfig) (.init minuteConfig 0) outageActions ∧
      ¬ SingleTick (run (SchedulerState.step minuteConfig) (.init minuteConfig 0)
        outageActions) := by
  refine ⟨run_mem_trajectory (by simp [outageActions, proceeds]), fun hsingle => ?_⟩
  have hsame := hsingle 0 1 (by decide +kernel) (by decide +kernel)
  exact absurd hsame (by decide)

end FloodRisk.Scheduler
