import FloodRisk.Queue.Runs

/-!
# The trail of an audited requeue

What the commit of `requeue_failed_job_with_audit` on an existing job adds to
the audit table.
-/

namespace FloodRisk.Queue
open Transition

/-- The requeue would give the job a dedupe key that an active job holds. -/
def BlockedByActiveJob (db : QueueDatabase) (row : RuntimeJob) : Prop :=
  row.status = .failed ∧ hasActivePoisonQuarantine db row.id = false ∧
    ∃ other ∈ db.jobs, other.id ≠ row.id ∧ other.isActive = true ∧ row.dedupeKey ≠ none ∧
      other.dedupeKey = row.dedupeKey ∧ other.queueName = row.queueName ∧
      other.jobKey = row.jobKey ∧ other.adapterKey.getD "" = row.adapterKey.getD ""

/-! ### The trail -/

/-- What the commit of one call on the job leaves behind. -/
structure CompleteTrail (before after : QueueDatabase) (row : RuntimeJob)
    (requested outcome : ReplayAudit) : Prop where
  appended : after.audit.rows = before.audit.rows ++ [requested, outcome]
  request : requested.status = .requested ∧ requested.jobId = row.id
  outcomeJob : outcome.jobId = row.id
  refers : outcome.metadata.requestedAuditId = some requested.id
  completed : outcome.status = .completed ↔
    row.status = .failed ∧ ∃ updated, after.jobs.find row.id = some updated ∧
      updated.status = .queued
  counters : outcome.status = .completed → outcome.attemptsBefore = some row.attempts ∧
    ∃ updated, after.jobs.find row.id = some updated ∧
      outcome.attemptsAfter = some updated.attempts
  refused : outcome.status ≠ .completed →
    outcome.status = .failed ∧ after.jobs.find row.id = some row

theorem audit_rows_append (db : QueueDatabase) (draft : ReplayAuditDraft) :
    (db.insertReplayAudit draft).audit.rows =
      db.audit.rows ++ [draft.row db.now db.audit.freshKey] := rfl

theorem refuseReplay_trail {before : QueueDatabase} {row : RuntimeJob}
    (hrow : before.jobs.find row.id = some row) {requestedBy reason : String}
    {resetAttempts : Bool} {outcomeReason : String} {status : Option RuntimeJobStatus} :
    ∃ requested outcome, CompleteTrail before
      (refuseReplay (withRequest before row requestedBy reason resetAttempts) row requestedBy
        reason resetAttempts before.audit.freshKey outcomeReason status).2 row requested outcome := by
  let requested := (requestedDraft row requestedBy reason resetAttempts).row before.now
    before.audit.freshKey
  let outcome := (refusedDraft row requestedBy reason resetAttempts before.audit.freshKey
    outcomeReason status).row before.now
    (withRequest before row requestedBy reason resetAttempts).audit.freshKey
  have hrefused : outcome.status = .failed := rfl
  refine ⟨requested, outcome, ⟨?_, ⟨rfl, rfl⟩, rfl, rfl, ?_, ?_, ?_⟩⟩
  · rw [refuseReplay, audit_rows_append, withRequest, audit_rows_append, List.append_assoc]
    rfl
  · refine ⟨fun h => absurd (hrefused.symm.trans h) (by decide), ?_⟩
    rintro ⟨hfailed, updated, hupdated, hqueued⟩
    have hsame : some row = some updated := hrow.symm.trans hupdated
    rw [← Option.some.inj hsame, hfailed] at hqueued
    exact absurd hqueued (by decide)
  · exact fun h => absurd (hrefused.symm.trans h) (by decide)
  · exact fun _ => ⟨rfl, hrow⟩

theorem completed_trail {before : QueueDatabase} {row : RuntimeJob} {jobs : RuntimeJobs}
    (hrow : before.jobs.find row.id = some row) (hstatus : row.status = .failed)
    {requestedBy reason : String} {resetAttempts : Bool}
    (hmodify : before.jobs.modify row.id
      (RuntimeJob.requeue before.now resetAttempts before.now) (fun _ => rfl) = some jobs) :
    ∃ requested outcome, CompleteTrail before
      ({ withRequest before row requestedBy reason resetAttempts with
          jobs := jobs }.insertReplayAudit
        (completedDraft row (row.requeue before.now resetAttempts before.now) requestedBy reason
          before.audit.freshKey)) row requested outcome := by
  have hfind := IndexedTable.find_modify_self hmodify hrow
  let requested := (requestedDraft row requestedBy reason resetAttempts).row before.now
    before.audit.freshKey
  let outcome := (completedDraft row (row.requeue before.now resetAttempts before.now) requestedBy
    reason before.audit.freshKey).row before.now
    (withRequest before row requestedBy reason resetAttempts).audit.freshKey
  refine ⟨requested, outcome, ⟨?_, ⟨rfl, rfl⟩, rfl, rfl, ?_, ?_, ?_⟩⟩
  · rw [audit_rows_append, withRequest, audit_rows_append, List.append_assoc]
    rfl
  · exact ⟨fun _ => ⟨hstatus, _, hfind, rfl⟩, fun _ => rfl⟩
  · exact fun _ => ⟨rfl, _, hfind, rfl⟩
  · exact fun h => absurd rfl h

/-- The call on an existing job leaves its trail, and never touches a
quarantined job, unless an active job blocks the requeue: then the index
violation undoes the whole transaction, the audit rows included. -/
theorem audited_requeue_leaves_trail_iff (before : QueueDatabase) (row : RuntimeJob)
    (hrow : row ∈ before.jobs) (requestedBy reason : String) (resetAttempts : Bool) :
    ((∃ result after requested outcome,
        requeueFailedJobWithAudit before row.id requestedBy reason resetAttempts =
          some (result, after) ∧ CompleteTrail before after row requested outcome) ∧
      (hasActivePoisonQuarantine before row.id = true → ∀ result after,
        requeueFailedJobWithAudit before row.id requestedBy reason resetAttempts =
          some (result, after) → after.jobs = before.jobs)) ↔
      ¬ BlockedByActiveJob before row := by
  have hfind := mem_jobs_iff_find.mp hrow
  cases hactive : hasActivePoisonQuarantine before row.id with
  | true =>
      have hcall := replay_of_quarantined requestedBy reason resetAttempts hfind hactive
      refine ⟨fun _ hblocked => absurd hblocked.2.1 (by simp [hactive]), fun _ => ⟨?_, ?_⟩⟩
      · obtain ⟨requested, outcome, htrail⟩ := refuseReplay_trail hfind
        exact ⟨_, _, requested, outcome, hcall, htrail⟩
      · intro _ result after hafter
        rw [hcall] at hafter
        obtain ⟨-, rfl⟩ := Prod.mk.inj (Option.some.inj hafter)
        rfl
  | false =>
      refine Iff.trans ⟨fun h => h.1, fun h => ⟨h, fun hno => absurd hno (by simp)⟩⟩ ?_
      by_cases hstatus : row.status = .failed
      · cases hentry : before.jobs.taken
          (row.requeue before.now resetAttempts before.now).activeDedupe row.id with
        | true =>
            have hcall := replay_of_taken requestedBy reason resetAttempts hfind hactive hstatus
              hentry
            have hblocked : BlockedByActiveJob before row :=
              ⟨hstatus, hactive, taken_requeue_iff.mp hentry⟩
            refine ⟨?_, fun hfree => absurd hblocked hfree⟩
            rintro ⟨result, after, -, -, hafter, -⟩
            rw [hcall] at hafter
            exact absurd hafter (by simp)
        | false =>
            obtain ⟨jobs, result, hmodify, -, hcall⟩ :=
              replay_of_free requestedBy reason resetAttempts hfind hactive hstatus hentry
            have hfree : ¬ BlockedByActiveJob before row := by
              rintro ⟨-, -, hother⟩
              have htaken : before.jobs.taken
                  (row.requeue before.now resetAttempts before.now).activeDedupe row.id = true :=
                taken_requeue_iff.mpr hother
              rw [hentry] at htaken
              exact absurd htaken (by simp)
            refine ⟨fun _ => hfree, fun _ => ?_⟩
            obtain ⟨requested, outcome, htrail⟩ := completed_trail hfind hstatus hmodify
            exact ⟨result, _, requested, outcome, hcall, htrail⟩
      · have hcall := replay_of_not_failed requestedBy reason resetAttempts hfind hactive hstatus
        refine ⟨fun _ hblocked => hstatus hblocked.1, fun _ => ?_⟩
        obtain ⟨requested, outcome, htrail⟩ := refuseReplay_trail hfind
        exact ⟨_, _, requested, outcome, hcall, htrail⟩

/-! ### A failed job and its successor -/

def failedJob : QueueDatabase :=
  run QueueDatabase.step (.empty 0)
    [.operator (.enqueue waterLevelRequest 1), .dequeue "runtime-adapters" "worker-a" 300 [],
      .fail 1 "worker-a" "TimeoutError" 60]

/-- The producer enqueued the adapter again while the failed job is kept. -/
def supersededFailedJob : QueueDatabase :=
  run QueueDatabase.step failedJob [.operator (.enqueue waterLevelRequest 2)]

theorem failed_job_replay_leaves_trail :
    ∃ row ∈ failedJob.jobs, row.status = .failed ∧ ∃ result after requested outcome,
      requeueFailedJobWithAudit failedJob row.id "operator" "upstream is back" true =
        some (result, after) ∧ CompleteTrail failedJob after row requested outcome := by
  have hfind : failedJob.jobs.find 1 =
      some ((failedJob.jobs.find 1).get (by decide +kernel)) := (Option.some_get _).symm
  have hrow := (IndexedTable.find_eq_some_iff.mp hfind).1
  refine ⟨_, hrow, by decide +kernel, ?_⟩
  refine ((audited_requeue_leaves_trail_iff failedJob _ hrow "operator" "upstream is back"
    true).mpr ?_).1
  rintro ⟨-, -, other, hother, hne, -⟩
  have hall : ∀ other ∈ failedJob.jobs,
      other.id = ((failedJob.jobs.find 1).get (by decide +kernel)).id := by decide +kernel
  exact hne (hall other hother)

/-- The requeue of the kept job breaks the active dedupe index, and no audit
row is committed. -/
theorem superseded_failed_job_replay_leaves_no_trail :
    (supersededFailedJob.jobs.find 1).map RuntimeJob.status = some .failed ∧
      requeueFailedJobWithAudit supersededFailedJob 1 "operator" "upstream is back" true = none ∧
      (supersededFailedJob.step (.operator
        (.requeueWithAudit 1 "operator" "upstream is back" true))).audit.rows = [] := by
  have hnone : (requeueFailedJobWithAudit supersededFailedJob 1 "operator" "upstream is back"
      true).isNone = true := by decide +kernel
  refine ⟨by decide +kernel, Option.isNone_iff_eq_none.mp hnone, by decide +kernel⟩

end FloodRisk.Queue
