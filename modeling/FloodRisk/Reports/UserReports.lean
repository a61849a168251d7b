import FloodRisk.Lib.Journal
import FloodRisk.Lib.OrderBy
import FloodRisk.Lib.Table
import Mathlib.Data.Rat.Defs

/-!
# Public user reports (api domain/reports/repository.py)

The rows of `user_reports`, the rows of `audit_logs` about them, and the
statements of the repository.  Each call is one statement, so it takes effect
as a whole or not at all; `now` is its `now()`.
-/

namespace FloodRisk.Reports

inductive UserReportStatus where
  | pending | approved | rejected | spam | deleted
  deriving DecidableEq, Repr

inductive UserReportModerationStatus where
  | approved | rejected | spam
  deriving DecidableEq, Repr

inductive UserReportModerationReason where
  | verifiedFloodSignal | duplicate | notFloodRelated | insufficientDetail | abuseOrSpam | outOfScope
  deriving DecidableEq, Repr

inductive UserReportPrivacyRedactionReason where
  | reporterRequest | affectedPersonRequest | privateDataExposure | retentionExpiry | operatorError
  deriving DecidableEq, Repr

inductive PrivacyLevel where
  | «public» | aggregated | redacted
  deriving DecidableEq, Repr

namespace UserReportModerationStatus

def toStatus : UserReportModerationStatus → UserReportStatus
  | approved => .approved
  | rejected => .rejected
  | spam => .spam

def text : UserReportModerationStatus → String
  | approved => "approved"
  | rejected => "rejected"
  | spam => "spam"

theorem toStatus_ne_deleted (status : UserReportModerationStatus) : status.toStatus ≠ .deleted := by
  cases status <;> decide

end UserReportModerationStatus

def UserReportModerationReason.text : UserReportModerationReason → String
  | verifiedFloodSignal => "verified_flood_signal"
  | duplicate => "duplicate"
  | notFloodRelated => "not_flood_related"
  | insufficientDetail => "insufficient_detail"
  | abuseOrSpam => "abuse_or_spam"
  | outOfScope => "out_of_scope"

/-- `MODERATION_REASONS_BY_STATUS`. -/
def moderationReasonsByStatus : UserReportModerationStatus → List UserReportModerationReason
  | .approved => [.verifiedFloodSignal]
  | .rejected => [.duplicate, .notFloodRelated, .insufficientDetail, .outOfScope]
  | .spam => [.abuseOrSpam]

structure UserReport where
  id : ℕ
  lat : ℚ
  lng : ℚ
  summary : String
  mediaRef : Option String
  status : UserReportStatus
  privacyLevel : PrivacyLevel
  createdAt : ℤ
  reviewedAt : Option ℤ
  redactedAt : Option ℤ
  redactionReason : Option UserReportPrivacyRedactionReason
  deriving DecidableEq

inductive AuditMetadata where
  | submitted (status : UserReportStatus) (privacyLevel : PrivacyLevel) (mediaRef : Option String)
  | moderated (previousStatus status : UserReportStatus) (reasonCode : UserReportModerationReason)
      (reviewedBy : String)
  | privacyRedacted (previousStatus status : UserReportStatus)
      (previousPrivacyLevel privacyLevel : PrivacyLevel)
      (reasonCode : UserReportPrivacyRedactionReason) (redactedBy : String) (mediaRefCleared : Bool)
  deriving DecidableEq

structure AuditLog where
  actorRef : Option String
  action : String
  subjectType : String
  subjectId : ℕ
  metadata : AuditMetadata
  createdAt : ℤ
  deriving DecidableEq

namespace AuditLog

def previousStatus (row : AuditLog) : Option UserReportStatus :=
  match row.metadata with
  | .submitted _ _ _ => none
  | .moderated previousStatus _ _ _ => some previousStatus
  | .privacyRedacted previousStatus _ _ _ _ _ _ => some previousStatus

def status (row : AuditLog) : UserReportStatus :=
  match row.metadata with
  | .submitted status _ _ => status
  | .moderated _ status _ _ => status
  | .privacyRedacted _ status _ _ _ _ _ => status

end AuditLog

structure ReportsDatabase where
  userReports : Table UserReport.id
  auditLogs : List AuditLog

namespace ReportsDatabase

def empty : ReportsDatabase := ⟨Table.empty, []⟩

def auditTrail (db : ReportsDatabase) (reportId : ℕ) : List AuditLog :=
  Journal.trail AuditLog.subjectId reportId db.auditLogs

end ReportsDatabase

structure PendingUserReport where
  id : ℕ
  status : UserReportStatus
  deriving DecidableEq

structure UserReportModerationRecord where
  id : ℕ
  status : UserReportStatus
  summary : String
  lat : ℚ
  lng : ℚ
  createdAt : ℤ
  reviewedAt : Option ℤ
  deriving DecidableEq

structure UserReportPrivacyRedactionRecord where
  id : ℕ
  status : UserReportStatus
  privacyLevel : PrivacyLevel
  redactedAt : Option ℤ
  deriving DecidableEq

inductive ReportError where
  | valueError (message : String)
  | repositoryUnavailable
  deriving DecidableEq

/-! ### `create_pending_user_report` -/

def submittedReport (now : ℤ) (newId : ℕ) (lat lng : ℚ) (summary : String) : UserReport where
  id := newId
  lat := lat
  lng := lng
  summary := summary
  mediaRef := none
  status := .pending
  privacyLevel := .redacted
  createdAt := now
  reviewedAt := none
  redactedAt := none
  redactionReason := none

def submittedAudit (now : ℤ) (reportId : ℕ) : AuditLog where
  actorRef := none
  action := "user_report.submitted"
  subjectType := "user_report"
  subjectId := reportId
  metadata := .submitted .pending .redacted none
  createdAt := now

/-- `newId` is the value of `gen_random_uuid()`; one that is taken violates the
primary key. -/
def createPendingUserReport (now : ℤ) (db : ReportsDatabase) (newId : ℕ) (lat lng : ℚ)
    (summary : String) : Except ReportError (PendingUserReport × ReportsDatabase) :=
  match db.userReports.insertNew (submittedReport now newId lat lng summary) with
  | none => .error .repositoryUnavailable
  | some userReports =>
      .ok (⟨newId, .pending⟩, ⟨userReports, db.auditLogs ++ [submittedAudit now newId]⟩)

/-! ### `list_pending_user_reports` -/

def moderationRecordFromRow (row : UserReport) : UserReportModerationRecord where
  id := row.id
  status := row.status
  summary := row.summary
  lat := row.lat
  lng := row.lng
  createdAt := row.createdAt
  reviewedAt := row.reviewedAt

def listPendingUserReports (db : ReportsDatabase) (limit : ℕ) : List UserReportModerationRecord :=
  (limitBy (fun a b => a.createdAt < b.createdAt || a.createdAt = b.createdAt && a.id ≤ b.id) limit
    (db.userReports.rows.filter fun row => row.status = .pending)).map moderationRecordFromRow

theorem pending_of_listed {db : ReportsDatabase} {limit : ℕ} {listed : UserReportModerationRecord}
    (h : listed ∈ listPendingUserReports db limit) :
    ∃ row ∈ db.userReports, row.status = .pending ∧ listed.id = row.id := by
  obtain ⟨row, hrow, rfl⟩ := List.mem_map.mp h
  have hfilter := List.mem_filter.mp (mem_of_limitBy hrow)
  exact ⟨row, hfilter.1, of_decide_eq_true hfilter.2, rfl⟩

/-! ### `moderate_user_report` -/

/-- The `UPDATE` of the row that `FOR UPDATE` locked. -/
def updateReport (db : ReportsDatabase) (reportId : ℕ) (f : UserReport → UserReport)
    (keeps : ∀ row, (f row).id = row.id) : Table UserReport.id :=
  db.userReports.update (fun row => if row.id = reportId then f row else row) (by
    intro row
    split
    · exact keeps row
    · rfl)

def moderatedReport (now : ℤ) (status : UserReportModerationStatus) (row : UserReport) :
    UserReport :=
  { row with status := status.toStatus, reviewedAt := some now }

def moderatedAudit (now : ℤ) (status : UserReportModerationStatus)
    (reasonCode : UserReportModerationReason) (actorRef : String) (row : UserReport) : AuditLog where
  actorRef := some actorRef
  action := "user_report.moderated"
  subjectType := "user_report"
  subjectId := row.id
  metadata := .moderated row.status status.toStatus reasonCode actorRef
  createdAt := now

def moderateUserReport (now : ℤ) (db : ReportsDatabase) (reportId : ℕ)
    (status : UserReportModerationStatus) (reasonCode : UserReportModerationReason)
    (actorRef : String) :
    Except ReportError (Option UserReportModerationRecord × ReportsDatabase) :=
  if reasonCode ∈ moderationReasonsByStatus status then
    match db.userReports.find reportId with
    | none => .ok (none, db)
    | some row =>
        .ok (some (moderationRecordFromRow (moderatedReport now status row)),
          ⟨updateReport db reportId (moderatedReport now status) (fun _ => rfl),
            db.auditLogs ++ [moderatedAudit now status reasonCode actorRef row]⟩)
  else
    .error (.valueError ("moderation reason_code " ++ reasonCode.text ++
      " is not allowed for status " ++ status.text))

/-! ### `redact_user_report_privacy` -/

def redactedReport (now : ℤ) (reasonCode : UserReportPrivacyRedactionReason) (row : UserReport) :
    UserReport :=
  { row with
    summary := "[redacted]"
    mediaRef := none
    status := .deleted
    privacyLevel := .redacted
    reviewedAt := some (row.reviewedAt.getD now)
    redactedAt := some now
    redactionReason := some reasonCode }

def redactedAudit (now : ℤ) (reasonCode : UserReportPrivacyRedactionReason) (actorRef : String)
    (row : UserReport) : AuditLog where
  actorRef := some actorRef
  action := "user_report.privacy_redacted"
  subjectType := "user_report"
  subjectId := row.id
  metadata := .privacyRedacted row.status .deleted row.privacyLevel .redacted reasonCode actorRef
    row.mediaRef.isSome
  createdAt := now

def privacyRedactionRecordFromRow (row : UserReport) : UserReportPrivacyRedactionRecord where
  id := row.id
  status := row.status
  privacyLevel := row.privacyLevel
  redactedAt := row.redactedAt

def redactUserReportPrivacy (now : ℤ) (db : ReportsDatabase) (reportId : ℕ)
    (reasonCode : UserReportPrivacyRedactionReason) (actorRef : String) :
    Option UserReportPrivacyRedactionRecord × ReportsDatabase :=
  match db.userReports.find reportId with
  | none => (none, db)
  | some row =>
      (some (privacyRedactionRecordFromRow (redactedReport now reasonCode row)),
        ⟨updateReport db reportId (redactedReport now reasonCode) (fun _ => rfl),
          db.auditLogs ++ [redactedAudit now reasonCode actorRef row]⟩)

/-! ### What a call changes -/

/-- A call rewrites one report and appends the audit row of the change. -/
structure Rewrites (before after : ReportsDatabase) (row updated : UserReport) (entry : AuditLog) :
    Prop where
  mem : row ∈ before.userReports
  sameId : updated.id = row.id
  stored : ∀ other, other ∈ after.userReports ↔
    other = updated ∨ (other ∈ before.userReports ∧ other.id ≠ row.id)
  audited : after.auditLogs = before.auditLogs ++ [entry]
  subject : entry.subjectId = row.id
  previous : entry.previousStatus = some row.status
  status : entry.status = updated.status

/-- A call stores one pending report and appends the audit row that opens its
trail. -/
structure Submits (before after : ReportsDatabase) (created : UserReport) (entry : AuditLog) :
    Prop where
  fresh : ∀ report ∈ before.userReports, report.id ≠ created.id
  stored : ∀ other, other ∈ after.userReports ↔ other ∈ before.userReports ∨ other = created
  audited : after.auditLogs = before.auditLogs ++ [entry]
  subject : entry.subjectId = created.id
  action : entry.action = "user_report.submitted"
  previous : entry.previousStatus = none
  status : entry.status = .pending ∧ created.status = .pending
  unredacted : created.redactedAt = none

theorem create_cases {now : ℤ} {db after : ReportsDatabase} {newId : ℕ} {lat lng : ℚ}
    {summary : String} {result : PendingUserReport}
    (h : createPendingUserReport now db newId lat lng summary = .ok (result, after)) :
    Submits db after (submittedReport now newId lat lng summary) (submittedAudit now newId) := by
  unfold createPendingUserReport at h
  cases hinsert : db.userReports.insertNew (submittedReport now newId lat lng summary) with
  | none =>
      rw [hinsert] at h
      exact absurd h (by simp)
  | some userReports =>
      rw [hinsert] at h
      obtain ⟨-, rfl⟩ := Prod.mk.inj (Except.ok.inj h)
      refine ⟨?_, fun _ => Table.mem_of_insertNew hinsert, rfl, rfl, rfl, rfl, ⟨rfl, rfl⟩, rfl⟩
      intro report hreport hid
      rw [Table.insertNew_eq_none_iff.mpr ⟨report, hreport, hid⟩] at hinsert
      exact absurd hinsert (by simp)

theorem mem_updateReport {db : ReportsDatabase} {row : UserReport} (hrow : row ∈ db.userReports)
    (f : UserReport → UserReport) (keeps : ∀ row, (f row).id = row.id) (other : UserReport) :
    other ∈ updateReport db row.id f keeps ↔
      other = f row ∨ (other ∈ db.userReports ∧ other.id ≠ row.id) := by
  rw [updateReport, Table.mem_update]
  constructor
  · rintro ⟨source, hsource, rfl⟩
    by_cases hid : source.id = row.id
    · rw [if_pos hid, Table.eq_of_key_eq hsource hrow hid]
      exact Or.inl rfl
    · rw [if_neg hid]
      exact Or.inr ⟨hsource, hid⟩
  · rintro (rfl | ⟨hother, hid⟩)
    · exact ⟨row, hrow, if_pos rfl⟩
    · exact ⟨other, hother, if_neg hid⟩

theorem moderate_cases {now : ℤ} {db after : ReportsDatabase} {reportId : ℕ}
    {status : UserReportModerationStatus} {reasonCode : UserReportModerationReason}
    {actorRef : String} {result : Option UserReportModerationRecord}
    (h : moderateUserReport now db reportId status reasonCode actorRef = .ok (result, after)) :
    reasonCode ∈ moderationReasonsByStatus status ∧
      ((db.userReports.find reportId = none ∧ after = db) ∨
        ∃ row, db.userReports.find reportId = some row ∧
          Rewrites db after row (moderatedReport now status row)
            (moderatedAudit now status reasonCode actorRef row)) := by
  unfold moderateUserReport at h
  by_cases hreason : reasonCode ∈ moderationReasonsByStatus status
  · rw [if_pos hreason] at h
    refine ⟨hreason, ?_⟩
    cases hfind : db.userReports.find reportId with
    | none =>
        rw [hfind] at h
        obtain ⟨-, rfl⟩ := Prod.mk.inj (Except.ok.inj h)
        exact Or.inl ⟨rfl, rfl⟩
    | some row =>
        rw [hfind] at h
        obtain ⟨-, rfl⟩ := Prod.mk.inj (Except.ok.inj h)
        obtain ⟨hrow, rfl⟩ := Table.find_eq_some_iff.mp hfind
        exact Or.inr ⟨row, rfl, hrow, rfl,
          mem_updateReport hrow (moderatedReport now status) (fun _ => rfl), rfl, rfl, rfl, rfl⟩
  · rw [if_neg hreason] at h
    exact absurd h (by simp)

theorem redact_cases (now : ℤ) (db : ReportsDatabase) (reportId : ℕ)
    (reasonCode : UserReportPrivacyRedactionReason) (actorRef : String) :
    (db.userReports.find reportId = none ∧
        (redactUserReportPrivacy now db reportId reasonCode actorRef).2 = db) ∨
      ∃ row, db.userReports.find reportId = some row ∧
        Rewrites db (redactUserReportPrivacy now db reportId reasonCode actorRef).2 row
          (redactedReport now reasonCode row) (redactedAudit now reasonCode actorRef row) := by
  unfold redactUserReportPrivacy
  cases hfind : db.userReports.find reportId with
  | none => exact Or.inl ⟨rfl, rfl⟩
  | some row =>
      obtain ⟨hrow, rfl⟩ := Table.find_eq_some_iff.mp hfind
      exact Or.inr ⟨row, rfl, hrow, rfl,
        mem_updateReport hrow (redactedReport now reasonCode) (fun _ => rfl), rfl, rfl, rfl, rfl⟩

end FloodRisk.Reports
