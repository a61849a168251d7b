import FloodRisk.Lib.Transition
import FloodRisk.Reports.UserReports

/-!
# Runs of reporters, moderators and privacy operators

`docs/runbooks/public-reports-governance.md`: a redaction tombstones the report
as `deleted`.
-/

namespace FloodRisk.Reports
open Transition

inductive ReportCall where
  | create (newId : ℕ) (lat lng : ℚ) (summary : String)
  | moderate (reportId : ℕ) (status : UserReportModerationStatus)
      (reasonCode : UserReportModerationReason) (actorRef : String)
  | redact (reportId : ℕ) (reasonCode : UserReportPrivacyRedactionReason) (actorRef : String)

structure ReportRequest where
  now : ℤ
  call : ReportCall

/-- The tables after a call; one that raises leaves them as they are. -/
def reportStep (db : ReportsDatabase) (request : ReportRequest) : ReportsDatabase :=
  match request.call with
  | .create newId lat lng summary =>
      match createPendingUserReport request.now db newId lat lng summary with
      | .ok (_, after) => after
      | .error _ => db
  | .moderate reportId status reasonCode actorRef =>
      match moderateUserReport request.now db reportId status reasonCode actorRef with
      | .ok (_, after) => after
      | .error _ => db
  | .redact reportId reasonCode actorRef =>
      (redactUserReportPrivacy request.now db reportId reasonCode actorRef).2

def AuditLog.isModeration (row : AuditLog) : Bool := row.action = "user_report.moderated"

def AuditLog.isRedaction (row : AuditLog) : Bool := row.action = "user_report.privacy_redacted"

/-- The request is a moderation with a reason allowed for its status, and its
report is redacted. -/
def ModeratesRedacted (db : ReportsDatabase) (request : ReportRequest) : Prop :=
  match request.call with
  | .moderate reportId status reasonCode _ =>
      reasonCode ∈ moderationReasonsByStatus status ∧
        ∃ row ∈ db.userReports, row.id = reportId ∧ row.redactedAt ≠ none
  | _ => False

/-! ### The two promises -/

structure StaysDeleted (db : ReportsDatabase) (report : UserReport) : Prop where
  status : report.redactedAt ≠ none → report.status = .deleted
  summary : report.redactedAt ≠ none → report.summary = "[redacted]"
  unlisted : report.redactedAt ≠ none →
    ∀ limit, ∀ listed ∈ listPendingUserReports db limit, listed.id ≠ report.id
  unmoderated : (db.auditTrail report.id).Pairwise fun earlier later =>
    earlier.isRedaction = true → later.isModeration = false

structure AuditChain (db : ReportsDatabase) (report : UserReport) : Prop where
  submitted : ∃ first, (db.auditTrail report.id).head? = some first ∧
    first.action = "user_report.submitted" ∧ first.status = .pending
  linked : (db.auditTrail report.id).IsChain fun earlier later =>
    later.previousStatus = some earlier.status
  current : (db.auditTrail report.id).getLast?.map AuditLog.status = some report.status

/-! ### What holds whoever calls -/

/-- Every trail tells its report's history, and a report that its trail does
not call redacted is not. -/
structure Recorded (db : ReportsDatabase) : Prop where
  subjects : ∀ entry ∈ db.auditLogs, ∃ report ∈ db.userReports, report.id = entry.subjectId
  tells : ∀ report ∈ db.userReports, Journal.Tells AuditLog.previousStatus AuditLog.status
    (db.auditTrail report.id) report.status
  opens : ∀ report ∈ db.userReports, ∃ first, (db.auditTrail report.id).head? = some first ∧
    first.action = "user_report.submitted" ∧ first.status = .pending
  redactions : ∀ report ∈ db.userReports,
    (∃ entry ∈ db.auditTrail report.id, entry.isRedaction = true) → report.redactedAt ≠ none

theorem recorded_empty : Recorded ReportsDatabase.empty :=
  ⟨fun _ h => absurd h List.not_mem_nil, fun _ h => absurd h (Table.not_mem_empty _),
    fun _ h => absurd h (Table.not_mem_empty _), fun _ h => absurd h (Table.not_mem_empty _)⟩

theorem Recorded.chain {db : ReportsDatabase} (h : Recorded db) {report : UserReport}
    (hreport : report ∈ db.userReports) : AuditChain db report :=
  ⟨h.opens report hreport, (h.tells report hreport).linked, (h.tells report hreport).current⟩

theorem head?_append_of_some {α : Type*} {l : List α} {first : α} (h : l.head? = some first)
    (rest : List α) : (l ++ rest).head? = some first := by
  cases l with
  | nil => exact absurd h (by simp)
  | cons x xs => exact h

section Rewrites

variable {before after : ReportsDatabase} {row updated : UserReport} {entry : AuditLog}

theorem Rewrites.trail_self (h : Rewrites before after row updated entry) :
    after.auditTrail row.id = before.auditTrail row.id ++ [entry] := by
  rw [ReportsDatabase.auditTrail, h.audited, ← h.subject]
  exact Journal.trail_append_self _ _ _

theorem Rewrites.trail_other (h : Rewrites before after row updated entry) {k : ℕ}
    (hk : k ≠ row.id) : after.auditTrail k = before.auditTrail k := by
  rw [ReportsDatabase.auditTrail, h.audited]
  exact Journal.trail_append_of_ne _ (fun heq => hk (heq.symm.trans h.subject))

theorem Rewrites.recorded (h : Rewrites before after row updated entry) (recorded : Recorded before)
    (redacts : entry.isRedaction = true → updated.redactedAt ≠ none)
    (keeps : row.redactedAt ≠ none → updated.redactedAt ≠ none) : Recorded after := by
  have hself : after.auditTrail updated.id = before.auditTrail row.id ++ [entry] := by
    rw [h.sameId]
    exact h.trail_self
  refine ⟨?_, ?_, ?_, ?_⟩
  · intro other hother
    rw [h.audited] at hother
    rcases List.mem_append.mp hother with hold | hnew
    · obtain ⟨report, hreport, hid⟩ := recorded.subjects other hold
      by_cases hrow : report.id = row.id
      · exact ⟨updated, (h.stored updated).mpr (Or.inl rfl),
          h.sameId.trans (hrow.symm.trans hid)⟩
      · exact ⟨report, (h.stored report).mpr (Or.inr ⟨hreport, hrow⟩), hid⟩
    · rw [List.mem_singleton.mp hnew, h.subject]
      exact ⟨updated, (h.stored updated).mpr (Or.inl rfl), h.sameId⟩
  · intro report hreport
    rcases (h.stored report).mp hreport with rfl | ⟨hold, hid⟩
    · rw [hself, ← h.status]
      exact (recorded.tells row h.mem).append h.previous
    · rw [h.trail_other hid]
      exact recorded.tells report hold
  · intro report hreport
    rcases (h.stored report).mp hreport with rfl | ⟨hold, hid⟩
    · obtain ⟨first, hfirst, hopens⟩ := recorded.opens row h.mem
      exact ⟨first, hself ▸ head?_append_of_some hfirst _, hopens⟩
    · rw [h.trail_other hid]
      exact recorded.opens report hold
  · intro report hreport
    rcases (h.stored report).mp hreport with rfl | ⟨hold, hid⟩
    · rw [hself]
      rintro ⟨other, hother, hredaction⟩
      rcases List.mem_append.mp hother with hearlier | hlast
      · exact keeps (recorded.redactions row h.mem ⟨other, hearlier, hredaction⟩)
      · rw [List.mem_singleton.mp hlast] at hredaction
        exact redacts hredaction
    · rw [h.trail_other hid]
      exact recorded.redactions report hold

end Rewrites

section Submits

variable {before after : ReportsDatabase} {created : UserReport} {entry : AuditLog}

theorem Submits.trail_self (h : Submits before after created entry) (recorded : Recorded before) :
    after.auditTrail created.id = [entry] := by
  have hold : before.auditTrail created.id = [] := by
    refine Journal.trail_eq_nil ?_
    intro other hother heq
    obtain ⟨report, hreport, hid⟩ := recorded.subjects other hother
    exact h.fresh report hreport (hid.trans heq)
  have hnew : after.auditTrail created.id = before.auditTrail created.id ++ [entry] := by
    rw [ReportsDatabase.auditTrail, h.audited, ← h.subject]
    exact Journal.trail_append_self _ _ _
  rw [hnew, hold, List.nil_append]

theorem Submits.trail_other (h : Submits before after created entry) {report : UserReport}
    (hreport : report ∈ before.userReports) :
    after.auditTrail report.id = before.auditTrail report.id := by
  rw [ReportsDatabase.auditTrail, h.audited]
  exact Journal.trail_append_of_ne _
    (fun heq => h.fresh report hreport (heq.symm.trans h.subject))

theorem Submits.recorded (h : Submits before after created entry) (recorded : Recorded before) :
    Recorded after := by
  have hself := h.trail_self recorded
  refine ⟨?_, ?_, ?_, ?_⟩
  · intro other hother
    rw [h.audited] at hother
    rcases List.mem_append.mp hother with hold | hnew
    · obtain ⟨report, hreport, hid⟩ := recorded.subjects other hold
      exact ⟨report, (h.stored report).mpr (Or.inl hreport), hid⟩
    · rw [List.mem_singleton.mp hnew, h.subject]
      exact ⟨created, (h.stored created).mpr (Or.inr rfl), rfl⟩
  · intro report hreport
    rcases (h.stored report).mp hreport with hold | rfl
    · rw [h.trail_other hold]
      exact recorded.tells report hold
    · rw [hself, h.status.2, ← h.status.1]
      exact Journal.tells_singleton h.previous
  · intro report hreport
    rcases (h.stored report).mp hreport with hold | rfl
    · rw [h.trail_other hold]
      exact recorded.opens report hold
    · rw [hself]
      exact ⟨entry, rfl, h.action, h.status.1⟩
  · intro report hreport
    rcases (h.stored report).mp hreport with hold | rfl
    · rw [h.trail_other hold]
      exact recorded.redactions report hold
    · rw [hself]
      rintro ⟨other, hother, hredaction⟩
      rw [List.mem_singleton.mp hother, AuditLog.isRedaction, h.action] at hredaction
      exact absurd hredaction (by decide)

end Submits

/-! ### One request -/

/-- What a request does to the tables, and whether it moderates a redacted
report. -/
theorem reportStep_cases (db : ReportsDatabase) (request : ReportRequest) :
    (reportStep db request = db ∧ ¬ ModeratesRedacted db request) ∨
      (∃ created entry, Submits db (reportStep db request) created entry ∧
        ¬ ModeratesRedacted db request) ∨
      (∃ row status reasonCode actorRef,
        Rewrites db (reportStep db request) row (moderatedReport request.now status row)
          (moderatedAudit request.now status reasonCode actorRef row) ∧
        (ModeratesRedacted db request ↔ row.redactedAt ≠ none)) ∨
      (∃ row reasonCode actorRef,
        Rewrites db (reportStep db request) row (redactedReport request.now reasonCode row)
          (redactedAudit request.now reasonCode actorRef row) ∧
        ¬ ModeratesRedacted db request) := by
  obtain ⟨now, call⟩ := request
  cases call with
  | create newId lat lng summary =>
      cases hcall : createPendingUserReport now db newId lat lng summary with
      | error _ =>
          refine Or.inl ⟨?_, id⟩
          simp only [reportStep, hcall]
      | ok answer =>
          have hsubmits : Submits db
              (reportStep db ⟨now, .create newId lat lng summary⟩)
              (submittedReport now newId lat lng summary) (submittedAudit now newId) := by
            simp only [reportStep, hcall]
            exact create_cases hcall
          exact Or.inr (Or.inl ⟨_, _, hsubmits, id⟩)
  | moderate reportId status reasonCode actorRef =>
      cases hcall : moderateUserReport now db reportId status reasonCode actorRef with
      | error _ =>
          have hreason : reasonCode ∉ moderationReasonsByStatus status := by
            intro hallowed
            unfold moderateUserReport at hcall
            rw [if_pos hallowed] at hcall
            split at hcall <;> exact absurd hcall (by simp)
          refine Or.inl ⟨?_, fun hmoderates => hreason hmoderates.1⟩
          simp only [reportStep, hcall]
      | ok answer =>
          have hafter : reportStep db ⟨now, .moderate reportId status reasonCode actorRef⟩ =
              answer.2 := by
            simp only [reportStep, hcall]
          obtain ⟨hreason, ⟨hmissing, hsame⟩ | ⟨row, hrow, hrewrites⟩⟩ := moderate_cases hcall
          · refine Or.inl ⟨hafter.trans hsame, ?_⟩
            rintro ⟨-, row, hrow, hid, -⟩
            exact Table.find_eq_none_iff.mp hmissing row hrow hid
          · refine Or.inr (Or.inr (Or.inl ⟨row, status, reasonCode, actorRef, ?_, ?_⟩))
            · rw [hafter]
              exact hrewrites
            · obtain ⟨hmem, hid⟩ := Table.find_eq_some_iff.mp hrow
              constructor
              · rintro ⟨-, other, hother, hotherId, hredacted⟩
                rw [Table.eq_of_key_eq hmem hother (hid.trans hotherId.symm)]
                exact hredacted
              · exact fun hredacted => ⟨hreason, row, hmem, hid, hredacted⟩
  | redact reportId reasonCode actorRef =>
      rcases redact_cases now db reportId reasonCode actorRef with
        ⟨-, hsame⟩ | ⟨row, -, hrewrites⟩
      · exact Or.inl ⟨hsame, id⟩
      · exact Or.inr (Or.inr (Or.inr ⟨row, reasonCode, actorRef, hrewrites, id⟩))

theorem reportStep_recorded (db : ReportsDatabase) (request : ReportRequest)
    (recorded : Recorded db) : Recorded (reportStep db request) := by
  rcases reportStep_cases db request with ⟨hsame, -⟩ | ⟨_, _, hsubmits, -⟩ |
    ⟨row, _, _, _, hrewrites, -⟩ | ⟨row, _, _, hrewrites, -⟩
  · rw [hsame]
    exact recorded
  · exact hsubmits.recorded recorded
  · refine hrewrites.recorded recorded ?_ id
    exact fun hredaction => absurd hredaction (by simp [AuditLog.isRedaction, moderatedAudit])
  · refine hrewrites.recorded recorded ?_ ?_
    · exact fun _ => by simp [redactedReport]
    · exact fun _ => by simp [redactedReport]

/-! ### Redacted reports -/

theorem unlisted_of_deleted {db : ReportsDatabase} {report : UserReport}
    (hreport : report ∈ db.userReports) (hstatus : report.status = .deleted) (limit : ℕ) :
    ∀ listed ∈ listPendingUserReports db limit, listed.id ≠ report.id := by
  intro listed hlisted hid
  obtain ⟨row, hrow, hpending, hrowId⟩ := pending_of_listed hlisted
  rw [Table.eq_of_key_eq hrow hreport (hrowId.symm.trans hid), hstatus] at hpending
  exact absurd hpending (by decide)

theorem staysDeleted_of {db : ReportsDatabase} {report : UserReport}
    (hreport : report ∈ db.userReports)
    (hdeleted : report.redactedAt ≠ none →
      report.status = .deleted ∧ report.summary = "[redacted]")
    (unmoderated : (db.auditTrail report.id).Pairwise fun earlier later =>
      earlier.isRedaction = true → later.isModeration = false) : StaysDeleted db report :=
  ⟨fun h => (hdeleted h).1, fun h => (hdeleted h).2,
    fun h limit => unlisted_of_deleted hreport (hdeleted h).1 limit, unmoderated⟩

theorem Rewrites.staysDeleted {before after : ReportsDatabase} {row updated : UserReport}
    {entry : AuditLog} (h : Rewrites before after row updated entry) (recorded : Recorded before)
    (stays : ∀ report ∈ before.userReports, StaysDeleted before report)
    (hdeleted : updated.redactedAt ≠ none →
      updated.status = .deleted ∧ updated.summary = "[redacted]")
    (admitted : entry.isModeration = true → row.redactedAt = none) :
    ∀ report ∈ after.userReports, StaysDeleted after report := by
  intro report hreport
  rcases (h.stored report).mp hreport with rfl | ⟨hold, hid⟩
  · refine staysDeleted_of hreport hdeleted ?_
    rw [h.sameId, h.trail_self, List.pairwise_append]
    refine ⟨(stays row h.mem).unmoderated, List.pairwise_singleton _ _, ?_⟩
    intro earlier hearlier later hlater hredaction
    rw [List.mem_singleton.mp hlater, Bool.eq_false_iff]
    intro hmoderation
    exact recorded.redactions row h.mem ⟨earlier, hearlier, hredaction⟩ (admitted hmoderation)
  · have hstays := stays report hold
    refine staysDeleted_of hreport (fun hredacted => ⟨hstays.status hredacted,
      hstays.summary hredacted⟩) ?_
    rw [h.trail_other hid]
    exact hstays.unmoderated

theorem Submits.staysDeleted {before after : ReportsDatabase} {created : UserReport}
    {entry : AuditLog} (h : Submits before after created entry) (recorded : Recorded before)
    (stays : ∀ report ∈ before.userReports, StaysDeleted before report) :
    ∀ report ∈ after.userReports, StaysDeleted after report := by
  intro report hreport
  rcases (h.stored report).mp hreport with hold | rfl
  · have hstays := stays report hold
    refine staysDeleted_of hreport (fun hredacted => ⟨hstays.status hredacted,
      hstays.summary hredacted⟩) ?_
    rw [h.trail_other hold]
    exact hstays.unmoderated
  · refine staysDeleted_of hreport (fun hredacted => absurd h.unredacted hredacted) ?_
    rw [h.trail_self recorded]
    exact List.pairwise_singleton _ _

theorem reportStep_staysDeleted_iff (db : ReportsDatabase) (request : ReportRequest)
    (recorded : Recorded db) (stays : ∀ report ∈ db.userReports, StaysDeleted db report) :
    (∀ report ∈ (reportStep db request).userReports, StaysDeleted (reportStep db request) report) ↔
      ¬ ModeratesRedacted db request := by
  rcases reportStep_cases db request with ⟨hsame, hfree⟩ | ⟨_, _, hsubmits, hfree⟩ |
    ⟨row, status, _, _, hrewrites, hiff⟩ | ⟨row, _, _, hrewrites, hfree⟩
  · rw [hsame]
    exact ⟨fun _ => hfree, fun _ => stays⟩
  · exact ⟨fun _ => hfree, fun _ => hsubmits.staysDeleted recorded stays⟩
  · rw [hiff]
    constructor
    · intro hafter hredacted
      have hupdated := hafter _ ((hrewrites.stored _).mpr (Or.inl rfl))
      exact status.toStatus_ne_deleted (hupdated.status hredacted)
    · intro hnot
      have hnone : row.redactedAt = none := not_not.mp hnot
      refine hrewrites.staysDeleted recorded stays ?_ (fun _ => hnone)
      exact fun hredacted => absurd hnone hredacted
  · refine ⟨fun _ => hfree, fun _ => ?_⟩
    refine hrewrites.staysDeleted recorded stays (fun _ => ⟨rfl, rfl⟩) ?_
    exact fun hmoderation => absurd hmoderation (by simp [AuditLog.isModeration, redactedAudit])

/-! ### Runs -/

/-- Whatever the order of the requests, every report's audit rows form one
chain; and redacted reports stay deleted, unlisted and unmoderated in every
state exactly when no accepted moderation addresses a redacted report. -/
theorem redaction_is_final_iff (requests : List ReportRequest) :
    (∀ db ∈ trajectory reportStep ReportsDatabase.empty requests, ∀ report ∈ db.userReports,
        StaysDeleted db report ∧ AuditChain db report) ↔
      Along reportStep (fun db request => ¬ ModeratesRedacted db request) ReportsDatabase.empty
        requests := by
  have hchain : ∀ db ∈ trajectory reportStep ReportsDatabase.empty requests, Recorded db :=
    trajectory_invariant reportStep_recorded recorded_empty
  have hstays : (∀ db ∈ trajectory reportStep ReportsDatabase.empty requests,
      ∀ report ∈ db.userReports, StaysDeleted db report) ↔
        Along reportStep (fun db request => ¬ ModeratesRedacted db request) ReportsDatabase.empty
          requests :=
    trajectory_forall_iff_along reportStep_recorded (fun db request recorded stays =>
      reportStep_staysDeleted_iff db request recorded stays) recorded_empty
      (fun report hreport => absurd hreport (Table.not_mem_empty report))
  rw [← hstays]
  constructor
  · exact fun h db hdb report hreport => (h db hdb report hreport).1
  · exact fun h db hdb report hreport => ⟨h db hdb report hreport, (hchain db hdb).chain hreport⟩

/-- A moderator approves a report that the privacy operator has redacted: it
is approved and still marked as redacted. -/
theorem redacted_report_is_approved :
    ¬ ∀ requests : List ReportRequest,
      ∀ db ∈ trajectory reportStep ReportsDatabase.empty requests, ∀ report ∈ db.userReports,
        StaysDeleted db report ∧ AuditChain db report := by
  intro h
  let requests : List ReportRequest := [⟨0, .create 1 25 121 "flooded underpass"⟩,
    ⟨1, .redact 1 .reporterRequest "privacy"⟩,
    ⟨2, .moderate 1 .approved .verifiedFloodSignal "moderator"⟩]
  let report := moderatedReport 2 .approved
    (redactedReport 1 .reporterRequest (submittedReport 0 1 25 121 "flooded underpass"))
  have hstored : report ∈ (run reportStep ReportsDatabase.empty requests).userReports.rows := by
    decide +kernel
  have hstays := h requests _ (run_mem_trajectory (List.cons_ne_nil _ _)) report hstored
  exact absurd (hstays.1.status (by decide)) (by decide)

end FloodRisk.Reports
