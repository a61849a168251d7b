import FloodRisk.Ncdr.AlertAdapter
import FloodRisk.Lib.FirstSeen

/-!
# What the audit loop has kept

The loop of `_fetch_audited_rows` keeps the first row of each source id over
all documents; a failed dump leaves a rejection.
-/

namespace FloodRisk.Ncdr
open OrderBy

abbrev AuditRow := RawSourceItem × Option String

/-! ### Texts of digits -/

theorem not_isWhitespace_of_digit {c : Char} (h : '0' ≤ c ∧ c ≤ '9') : isWhitespace c = false := by
  have hlow : 48 ≤ c.toNat := h.1
  have hhigh : c.toNat ≤ 57 := h.2
  rw [isWhitespace, decide_eq_false_iff_not]
  simp only [List.mem_cons, List.not_mem_nil, or_false]
  omega

theorem dropWhile_isWhitespace {l : List Char} (h : ∀ c ∈ l, '0' ≤ c ∧ c ≤ '9') :
    l.dropWhile isWhitespace = l := by
  cases l with
  | nil => rfl
  | cons c rest =>
      rw [List.dropWhile_cons, not_isWhitespace_of_digit (h c List.mem_cons_self)]
      rfl

theorem mem_digits {n : ℕ} {text : String} (h : fullmatchDigits n text = true) :
    text.toList.length = n ∧ ∀ c ∈ text.toList, '0' ≤ c ∧ c ≤ '9' := by
  obtain ⟨hlength, hall⟩ := Bool.and_eq_true_iff.mp h
  refine ⟨beq_iff_eq.mp hlength, ?_⟩
  intro c hc
  have hdigit := List.all_eq_true.mp hall c hc
  simpa using hdigit

theorem optionalText_digits {n : ℕ} {text : String} (h : fullmatchDigits (n + 1) text = true) :
    optionalText (some text) = some text := by
  obtain ⟨hlength, hdigits⟩ := mem_digits h
  have hstrip : strip text = text := by
    unfold strip
    rw [dropWhile_isWhitespace hdigits,
      dropWhile_isWhitespace fun c hc => hdigits c (List.mem_reverse.mp hc),
      List.reverse_reverse, String.ofList_toList]
  have hne : text ≠ "" := by
    intro hempty
    rw [hempty] at hlength
    exact absurd hlength (by simp)
  rw [optionalText, hstrip, if_neg hne]

theorem fullmatchDigits_append_zero {value : String} (h : fullmatchDigits 7 value = true) :
    fullmatchDigits 8 (value ++ "0") = true := by
  obtain ⟨hlength, hdigits⟩ := mem_digits h
  rw [fullmatchDigits, String.toList_append, List.length_append, hlength, List.all_append]
  have hall : value.toList.all (fun c => '0' ≤ c && c ≤ '9') = true :=
    List.all_eq_true.mpr fun c hc => by simpa using hdigits c hc
  rw [hall]
  rfl

theorem reviewed_digits {area : Option ParsedCapArea} {name value : String}
    (h : reviewedTownshipGeocode area = some (name, value)) : fullmatchDigits 7 value = true := by
  unfold reviewedTownshipGeocode at h
  cases area with
  | none => exact absurd h (by simp)
  | some area =>
      simp only at h
      split at h
      · split at h
        · rename_i hdigits
          obtain ⟨_, -, hpair⟩ := Option.map_eq_some_iff.mp h
          rw [← (Prod.mk.inj hpair).2]
          exact hdigits
        · exact absurd h (by simp)
      · exact absurd h (by simp)

/-! ### Prepared rows -/

section PreparedRows

variable {runtime : Runtime} {message : ParsedCapMessage} {area : Option ParsedCapArea}
  {transportCapid sourceUrl : String} {fetchedAt : ℤ} {rawSnapshotKey : Option String}
  {row : AuditRow}

/-- What a prepared row says of its message and area. -/
structure PreparedFrom (runtime : Runtime) (message : ParsedCapMessage)
    (area : Option ParsedCapArea) (fetchedAt : ℤ) (row : AuditRow) : Prop where
  sourceId : row.1.sourceId = auditSourceId runtime message area
  sender : getMember row.1.payload "cap_sender" = .text message.sender
  identifier : getMember row.1.payload "cap_identifier" = .text message.identifier
  sent : getMember row.1.payload "cap_sent" = .instant message.sent
  status : getMember row.1.payload "cap_status" = .text message.status
  messageType : getMember row.1.payload "cap_message_type" = .text message.messageType
  geocode : ∀ name value, reviewedTownshipGeocode area = some (name, value) →
    getMember row.1.payload "admin_code" = .text (value ++ "0") ∧
      getMember row.1.payload "ncdr_geocode" = .text value ∧
      getMember row.1.payload "ncdr_geocode_profile" = .text ncdrGeocodeProfile
  reason : ∃ activeFrom expires, messageLifecycle message = .ok (activeFrom, expires) ∧
    row.2 = auditRejectionReason message area activeFrom fetchedAt (reviewedTownshipGeocode area)

theorem prepareAuditRow_eq_ok
    (h : prepareAuditRow runtime message area transportCapid fetchedAt sourceUrl rawSnapshotKey =
      .ok row) : PreparedFrom runtime message area fetchedAt row := by
  obtain ⟨⟨activeFrom, expires⟩, hlifecycle, hrow⟩ := Outcome.bind_eq_ok.mp h
  obtain rfl := Except.ok.inj hrow
  refine ⟨rfl, rfl, rfl, rfl, rfl, rfl, ?_, activeFrom, expires, hlifecycle, rfl⟩
  intro name value hreviewed
  have hpayload : ∀ rest : RawPayload, ∀ key ∈ ["admin_code", "ncdr_geocode", "ncdr_geocode_profile"],
      getMember (messagePayload message area transportCapid activeFrom expires ++ rest) key =
        getMember rest key := by
    intro rest key hkey
    simp only [List.mem_cons, List.not_mem_nil, or_false] at hkey
    rcases hkey with rfl | rfl | rfl <;> rfl
  simp only [hreviewed, List.append_assoc, hpayload _ _ (List.mem_cons_self),
    hpayload _ "ncdr_geocode" (by simp), hpayload _ "ncdr_geocode_profile" (by simp)]
  exact ⟨rfl, rfl, rfl⟩

theorem isActualCancel_prepared (h : PreparedFrom runtime message area fetchedAt row) :
    Poll.isActualCancel row.1 = true ↔ message.status = "Actual" ∧ message.messageType = "Cancel" := by
  simp only [Poll.isActualCancel, h.status, h.messageType, PayloadValue.isText, Bool.and_eq_true,
    decide_eq_true_eq]

theorem messageType_of_lifecycle {times : ℤ × ℤ} (h : messageLifecycle message = .ok times) :
    message.messageType = "Alert" ∨ message.messageType = "Update" ∨
      message.messageType = "Cancel" := by
  unfold messageLifecycle at h
  split at h
  · exact absurd h (by simp)
  · rename_i hknown
    have hmem : message.messageType ∈ ["Alert", "Update", "Cancel"] := not_not.mp hknown
    simpa using hmem

theorem reviewed_of_accepted {activeFrom : ℤ} (htype : message.messageType ≠ "Cancel")
    (h : auditRejectionReason message area activeFrom fetchedAt (reviewedTownshipGeocode area) =
      none) :
    ∃ name value, reviewedTownshipGeocode area = some (name, value) := by
  unfold auditRejectionReason at h
  cases hreviewed : reviewedTownshipGeocode area with
  | some geocode => exact ⟨geocode.1, geocode.2, rfl⟩
  | none =>
      rw [hreviewed] at h
      cases area <;> simp only [htype, if_false, Option.isNone_none, if_true] at h <;>
        split_ifs at h

theorem actual_of_accepted {activeFrom : ℤ} {reviewed : Option (String × String)}
    (h : auditRejectionReason message area activeFrom fetchedAt reviewed = none) :
    message.status = "Actual" := by
  unfold auditRejectionReason at h
  split at h
  · exact absurd h (by simp)
  · rename_i hstatus
    exact not_not.mp hstatus

/-- An accepted row is normalized. -/
theorem normalize_accepted (h : PreparedFrom runtime message area fetchedAt row)
    (haccepted : row.2 = none) :
    ∃ evidence, normalizeReviewedRaw runtime row.1 = some evidence ∧
      evidence.sourceId = row.1.sourceId := by
  obtain ⟨activeFrom, expires, hlifecycle, hreason⟩ := h.reason
  rw [haccepted] at hreason
  have hstatus : optionalStr (getMember row.1.payload "cap_status") = some "Actual" := by
    rw [h.status, actual_of_accepted hreason.symm]
    rfl
  have hsent : awareDatetime runtime (getMember row.1.payload "cap_sent") = some message.sent := by
    rw [h.sent]
    rfl
  have hcode : message.messageType ≠ "Cancel" → hasReviewedCode row.1.payload = true := by
    intro htype
    obtain ⟨name, value, hreviewed⟩ := reviewed_of_accepted htype hreason.symm
    obtain ⟨hadmin, hgeocode, hprofile⟩ := h.geocode name value hreviewed
    have hdigits := reviewed_digits hreviewed
    have hcode := fullmatchDigits_append_zero hdigits
    simp only [hasReviewedCode, hadmin, hgeocode, hprofile, optionalStr, optionalText_digits hdigits,
      optionalText_digits hcode, Option.getD_some, hcode, hdigits]
    rfl
  unfold normalizeReviewedRaw
  simp only [hstatus, hsent, h.messageType]
  rcases messageType_of_lifecycle hlifecycle with htype | htype | htype
  · have htext : optionalStr (.text "Alert") = some "Alert" := rfl
    rw [htype] at hcode ⊢
    rw [htext, hcode (by decide)]
    exact ⟨_, rfl, rfl⟩
  · have htext : optionalStr (.text "Update") = some "Update" := rfl
    rw [htype] at hcode ⊢
    rw [htext, hcode (by decide)]
    exact ⟨_, rfl, rfl⟩
  · have htext : optionalStr (.text "Cancel") = some "Cancel" := rfl
    rw [htype, htext]
    exact ⟨_, rfl, rfl⟩

end PreparedRows

/-! ### The rows kept -/

/-- The rows that are the first of their source id. -/
def firstRows (rows : List AuditRow) : List AuditRow := distinctBy (fun row => row.1.sourceId) rows

def evidenceOf (runtime : Runtime) (row : AuditRow) : Option NormalizedEvidence :=
  match row.2 with
  | none => normalizeReviewedRaw runtime row.1
  | some _ => none

def rejectionOf (runtime : Runtime) (row : AuditRow) : Option SourceRejection :=
  match row.2 with
  | some reason => some ⟨row.1.sourceId, reason⟩
  | none =>
      match normalizeReviewedRaw runtime row.1 with
      | some _ => none
      | none => some ⟨row.1.sourceId, "ncdr_normalization_failed"⟩

theorem evidenceOf_sourceId {runtime : Runtime} {row : AuditRow} {evidence : NormalizedEvidence}
    (h : evidenceOf runtime row = some evidence) :
    row.2 = none ∧ evidence.sourceId = row.1.sourceId := by
  unfold evidenceOf at h
  split at h
  · rename_i hreason
    refine ⟨hreason, ?_⟩
    unfold normalizeReviewedRaw at h
    simp only at h
    split_ifs at h
    split at h
    · exact absurd h (by simp)
    · rw [← Option.some.inj h]
  · exact absurd h (by simp)

theorem rejectionOf_sourceId {runtime : Runtime} {row : AuditRow} {rejection : SourceRejection}
    (h : rejectionOf runtime row = some rejection) : rejection.sourceId = row.1.sourceId := by
  unfold rejectionOf at h
  split at h
  · rw [← Option.some.inj h]
  · split at h
    · exact absurd h (by simp)
    · rw [← Option.some.inj h]

/-- The lists after the prepared rows `done`. -/
structure Kept (runtime : Runtime) (done : List AuditRow) (rows : AuditedRows) : Prop where
  fetched : rows.fetched = (firstRows done).map Prod.fst
  normalized : rows.normalized = (firstRows done).filterMap (evidenceOf runtime)
  rejections : rows.rejections = (firstRows done).filterMap (rejectionOf runtime)
  seen : ∀ id, id ∈ rows.seenSourceIds ↔ id ∈ done.map fun row => row.1.sourceId

theorem kept_empty (runtime : Runtime) : Kept runtime [] {} :=
  ⟨rfl, rfl, rfl, fun _ => Iff.rfl⟩

variable {poll : Poll} {done : List AuditRow} {rows next : AuditedRows} {document : SelectedDocument}

theorem Kept.of_counters (h : Kept poll.runtime done rows) (successes audited : ℕ)
    (retryAfter : Option ℤ) :
    Kept poll.runtime done
      { rows with
        successfulDumpCount := successes
        auditedRowCount := audited
        maxRetryAfterSeconds := retryAfter } :=
  ⟨h.fetched, h.normalized, h.rejections, h.seen⟩

theorem Kept.keepRow (h : Kept poll.runtime done rows) (row : AuditRow) :
    Kept poll.runtime (done ++ [row]) (poll.keepRow rows row) := by
  have hseen := h.seen row.1.sourceId
  unfold Poll.keepRow
  by_cases hold : row.1.sourceId ∈ rows.seenSourceIds
  · have hfirst : firstRows (done ++ [row]) = firstRows done :=
      (distinctBy_concat _ done row).trans (if_pos (hseen.mp hold))
    rw [if_pos hold]
    refine ⟨hfirst ▸ h.fetched, hfirst ▸ h.normalized, hfirst ▸ h.rejections, ?_⟩
    intro sourceId
    rw [h.seen, List.map_append, List.mem_append, List.map_singleton, List.mem_singleton]
    refine ⟨Or.inl, ?_⟩
    rintro (hdone | rfl)
    · exact hdone
    · exact hseen.mp hold
  · have hfirst : firstRows (done ++ [row]) = firstRows done ++ [row] :=
      (distinctBy_concat _ done row).trans (if_neg fun hin => hold (hseen.mpr hin))
    have hids : ∀ id, id ∈ rows.seenSourceIds ++ [row.1.sourceId] ↔
        id ∈ (done ++ [row]).map fun row => row.1.sourceId := by
      intro id
      rw [List.mem_append, h.seen, List.map_append, List.mem_append, List.map_singleton]
    rw [if_neg hold]
    cases hreason : row.2 with
    | some reason =>
        refine ⟨?_, ?_, ?_, hids⟩
        · rw [hfirst, List.map_append, ← h.fetched]
          rfl
        · rw [hfirst, List.filterMap_append, ← h.normalized]
          simp [evidenceOf, hreason]
        · rw [hfirst, List.filterMap_append, ← h.rejections]
          simp [rejectionOf, hreason]
    | none =>
        cases hevidence : normalizeReviewedRaw poll.runtime row.1 with
        | some evidence =>
            refine ⟨?_, ?_, ?_, hids⟩
            · rw [hfirst, List.map_append, ← h.fetched]
              rfl
            · rw [hfirst, List.filterMap_append, ← h.normalized]
              simp [evidenceOf, hreason, hevidence]
            · rw [hfirst, List.filterMap_append, ← h.rejections]
              simp [rejectionOf, hreason, hevidence]
        | none =>
            refine ⟨?_, ?_, ?_, hids⟩
            · rw [hfirst, List.map_append, ← h.fetched]
              rfl
            · rw [hfirst, List.filterMap_append, ← h.normalized]
              simp [evidenceOf, hreason, hevidence]
            · rw [hfirst, List.filterMap_append, ← h.rejections]
              simp [rejectionOf, hreason, hevidence]

theorem Kept.foldl_keepRow (h : Kept poll.runtime done rows) (prepared : List AuditRow) :
    Kept poll.runtime (done ++ prepared) (prepared.foldl poll.keepRow rows) := by
  induction prepared generalizing done rows with
  | nil =>
      rw [List.append_nil]
      exact h
  | cons row rest ih =>
      have hrest := ih (h.keepRow row)
      rwa [List.append_assoc] at hrest

/-- A kept row only adds to the rejections and leaves the counters. -/
structure Extends (rows next : AuditedRows) : Prop where
  rejections : rows.rejections <+: next.rejections
  successes : next.successfulDumpCount = rows.successfulDumpCount
  audited : next.auditedRowCount = rows.auditedRowCount

theorem keepRow_extends (poll : Poll) (rows : AuditedRows) (row : AuditRow) :
    Extends rows (poll.keepRow rows row) := by
  unfold Poll.keepRow
  split
  · exact ⟨List.prefix_rfl, rfl, rfl⟩
  · cases row.2 with
    | some reason => exact ⟨List.prefix_append _ _, rfl, rfl⟩
    | none =>
        cases normalizeReviewedRaw poll.runtime row.1 with
        | some evidence => exact ⟨List.prefix_rfl, rfl, rfl⟩
        | none => exact ⟨List.prefix_append _ _, rfl, rfl⟩

theorem foldl_keepRow_extends (poll : Poll) (rows : AuditedRows) (prepared : List AuditRow) :
    Extends rows (prepared.foldl poll.keepRow rows) := by
  induction prepared generalizing rows with
  | nil => exact ⟨List.prefix_rfl, rfl, rfl⟩
  | cons row rest ih =>
      obtain ⟨hfirst, hsuccesses, haudited⟩ := keepRow_extends poll rows row
      obtain ⟨hrest, hsuccesses', haudited'⟩ := ih (poll.keepRow rows row)
      exact ⟨hfirst.trans hrest, hsuccesses'.trans hsuccesses, haudited'.trans haudited⟩

/-! ### The loop over the documents -/

/-- The rows of a document whose dump is fetched, parsed and prepared. -/
def preparedRows (poll : Poll) (document : SelectedDocument) : Option (List AuditRow) :=
  match poll.fetchDump document with
  | .ok (.parsed messages) => (poll.prepareRows document messages).toOption
  | _ => none

/-- The rows of a list of documents, in the order of the loop. -/
def rowsOf (poll : Poll) (documents : List SelectedDocument) : List AuditRow :=
  documents.flatMap fun document => (preparedRows poll document).getD []

theorem rowCount_eq (messages : List ParsedCapMessage) :
    Poll.rowCount messages = (Poll.auditPairs messages).length := by
  unfold Poll.rowCount Poll.auditPairs
  rw [List.length_flatMap]
  congr 1
  refine List.map_congr_left ?_
  intro message _
  rw [List.length_map]
  unfold Poll.auditAreas
  cases message.areas with
  | nil => rfl
  | cons area rest => simp

theorem length_prepared {messages : List ParsedCapMessage} {prepared : List AuditRow}
    (h : poll.prepareRows document messages = .ok prepared) :
    prepared.length = Poll.rowCount messages := by
  rw [rowCount_eq]
  exact (Outcome.mapM_eq_ok.mp h).length_eq.symm

/-- What one document does: its rows are kept, or the dump has failed. -/
theorem auditDocument_cases (h : poll.auditDocument rows document = .ok next) :
    (∃ prepared, preparedRows poll document = some prepared ∧
        rows.auditedRowCount + prepared.length ≤ maxNcdrAuditedRows ∧
        next = prepared.foldl poll.keepRow
          { rows with
            successfulDumpCount := rows.successfulDumpCount + 1
            auditedRowCount := rows.auditedRowCount + prepared.length }) ∨
      (preparedRows poll document = none ∧ next.rejections ≠ []) := by
  have hfailed : ∀ retryAfter, poll.addFailedDump rows document retryAfter = .ok next →
      next.rejections ≠ [] := by
    intro retryAfter hadd
    unfold Poll.addFailedDump at hadd
    split at hadd
    · exact absurd hadd (by simp)
    · obtain ⟨-, -, hnext⟩ := Outcome.bind_eq_ok.mp hadd
      rw [← Except.ok.inj hnext]
      exact List.append_ne_nil_of_right_ne_nil _ (List.cons_ne_nil _ _)
  obtain ⟨dump, hdump, hnext⟩ := Outcome.bind_eq_ok.mp h
  cases dump with
  | failed retryAfter =>
      right
      refine ⟨?_, hfailed retryAfter hnext⟩
      rw [preparedRows, hdump]
  | parsed messages =>
      simp only [Poll.auditDump] at hnext
      split at hnext
      · exact absurd hnext (by simp)
      · rename_i hbound
        cases hprepared : poll.prepareRows document messages with
        | error error =>
            rw [hprepared] at hnext
            right
            refine ⟨?_, hfailed none hnext⟩
            rw [preparedRows, hdump]
            simp only [hprepared]
            rfl
        | ok prepared =>
            rw [hprepared] at hnext
            obtain ⟨-, -, hadd⟩ := Outcome.bind_eq_ok.mp hnext
            have hlength := length_prepared hprepared
            left
            refine ⟨prepared, ?_, by omega, ?_⟩
            · rw [preparedRows, hdump]
              simp only [hprepared]
              rfl
            · rw [hlength]
              exact (Except.ok.inj hadd).symm

/-- The state of the loop after some documents. -/
structure Audited (poll : Poll) (documents : List SelectedDocument) (rows : AuditedRows) : Prop where
  failed : (∃ document ∈ documents, preparedRows poll document = none) → rows.rejections ≠ []
  prepared : (∀ document ∈ documents, (preparedRows poll document).isSome) →
    Kept poll.runtime (rowsOf poll documents) rows ∧
      rows.successfulDumpCount = documents.length ∧
      rows.auditedRowCount = (rowsOf poll documents).length ∧
      (rowsOf poll documents).length ≤ maxNcdrAuditedRows

theorem Audited.auditDocument {documents : List SelectedDocument} (h : Audited poll documents rows)
    (hnext : poll.auditDocument rows document = .ok next) :
    Audited poll (documents ++ [document]) next := by
  rcases auditDocument_cases hnext with ⟨prepared, hprepared, hbound, rfl⟩ | ⟨hfails, hrejected⟩
  · refine ⟨?_, ?_⟩
    · rintro ⟨other, hother, hnone⟩
      rcases List.mem_append.mp hother with hold | hnew
      · obtain ⟨rest, hrest⟩ := (foldl_keepRow_extends poll _ prepared).rejections
        have hrejected := h.failed ⟨other, hold, hnone⟩
        rw [← hrest]
        exact List.append_ne_nil_of_left_ne_nil hrejected _
      · rw [List.mem_singleton.mp hnew, hprepared] at hnone
        exact absurd hnone (by simp)
    · intro hall
      obtain ⟨hkept, hsuccesses, haudited, -⟩ :=
        h.prepared fun other hother => hall other (List.mem_append_left _ hother)
      have hrows : rowsOf poll (documents ++ [document]) = rowsOf poll documents ++ prepared := by
        simp [rowsOf, hprepared]
      obtain ⟨-, hcount, htotal⟩ := foldl_keepRow_extends poll
        { rows with
          successfulDumpCount := rows.successfulDumpCount + 1
          auditedRowCount := rows.auditedRowCount + prepared.length } prepared
      rw [hrows]
      refine ⟨(hkept.of_counters _ _ _).foldl_keepRow prepared, ?_, ?_, ?_⟩
      · rw [hcount, List.length_append, List.length_singleton, ← hsuccesses]
      · rw [htotal, List.length_append, ← haudited]
      · rw [List.length_append, ← haudited]
        exact hbound
  · refine ⟨fun _ => hrejected, ?_⟩
    intro hall
    have hsome := hall document (List.mem_append_right _ List.mem_cons_self)
    rw [hfails] at hsome
    exact absurd hsome (by simp)

theorem audited_of_foldlM {documents : List SelectedDocument}
    (h : documents.foldlM poll.auditDocument {} = .ok rows) : Audited poll documents rows := by
  have hstart : Audited poll [] {} := by
    refine ⟨fun hfailed => ?_, fun _ => ⟨kept_empty _, rfl, rfl, Nat.zero_le _⟩⟩
    obtain ⟨_, hmem, -⟩ := hfailed
    exact absurd hmem List.not_mem_nil
  exact Outcome.foldlM_invariant
    (fun _ _ _ _ haudited hstep => haudited.auditDocument hstep) hstart h

/-! ### Rows and their messages -/

variable {selected : List SelectedDocument} {messages : List ParsedCapMessage}

theorem preparedRows_eq_some {prepared : List AuditRow}
    (h : preparedRows poll document = some prepared) :
    ∃ messages, poll.fetchDump document = .ok (.parsed messages) ∧
      poll.prepareRows document messages = .ok prepared := by
  unfold preparedRows at h
  split at h
  · rename_i messages hdump
    refine ⟨messages, hdump, ?_⟩
    cases hprepared : poll.prepareRows document messages with
    | error error =>
        rw [hprepared] at h
        exact absurd h (by simp [Except.toOption])
    | ok rows =>
        rw [hprepared] at h
        rw [Option.some.inj h]
  · exact absurd h (by simp)

theorem preparedFrom_of_mem {row : AuditRow} (h : row ∈ rowsOf poll selected) :
    ∃ document ∈ selected, ∃ messages, poll.fetchDump document = .ok (.parsed messages) ∧
      ∃ pair ∈ Poll.auditPairs messages,
        PreparedFrom poll.runtime pair.1 pair.2 poll.fetchedAt row := by
  obtain ⟨document, hdocument, hrow⟩ := List.mem_flatMap.mp h
  cases hprepared : preparedRows poll document with
  | none =>
      rw [hprepared] at hrow
      exact absurd hrow List.not_mem_nil
  | some prepared =>
      rw [hprepared] at hrow
      obtain ⟨messages, hdump, hrows⟩ := preparedRows_eq_some hprepared
      obtain ⟨pair, hpair, hprepare⟩ := Outcome.exists_of_mem_mapM hrows hrow
      exact ⟨document, hdocument, messages, hdump, pair, hpair, prepareAuditRow_eq_ok hprepare⟩

theorem exists_row (hdocument : document ∈ selected)
    (hprepared : (preparedRows poll document).isSome)
    (hdump : poll.fetchDump document = .ok (.parsed messages))
    {pair : ParsedCapMessage × Option ParsedCapArea} (hpair : pair ∈ Poll.auditPairs messages) :
    ∃ row ∈ rowsOf poll selected,
      PreparedFrom poll.runtime pair.1 pair.2 poll.fetchedAt row := by
  obtain ⟨prepared, hsome⟩ := Option.isSome_iff_exists.mp hprepared
  obtain ⟨found, hfound, hrows⟩ := preparedRows_eq_some hsome
  obtain rfl : messages = found := by
    rw [hdump] at hfound
    exact Poll.Dump.parsed.inj (Except.ok.inj hfound)
  obtain ⟨row, hrow, hprepare⟩ := Outcome.mapM_mem hrows hpair
  refine ⟨row, List.mem_flatMap.mpr ⟨document, hdocument, ?_⟩, prepareAuditRow_eq_ok hprepare⟩
  rw [hsome]
  exact hrow

theorem exists_pair {message : ParsedCapMessage} (h : message ∈ messages) :
    ∃ area, (message, area) ∈ Poll.auditPairs messages := by
  have harea : ∃ area, area ∈ Poll.auditAreas message := by
    unfold Poll.auditAreas
    cases message.areas with
    | nil => exact ⟨none, List.mem_cons_self⟩
    | cons area rest => exact ⟨some area, List.mem_cons_self⟩
  obtain ⟨area, harea⟩ := harea
  exact ⟨area, List.mem_flatMap.mpr ⟨message, h, List.mem_map_of_mem harea⟩⟩

/-! ### The result of a poll -/

/-- A poll that returned, with the documents it selected and its audited rows. -/
structure Completes (poll : Poll) (selected : List SelectedDocument) (rows : AuditedRows)
    (result : AdapterRunResult) : Prop where
  selection : poll.selectedDocuments = .ok selected
  audited : Audited poll selected rows
  reached : selected ≠ [] → 0 < rows.successfulDumpCount
  fetched : result.fetched = rows.fetched
  normalized : result.normalized = rows.normalized
  rejections : result.sourceRejections = rows.rejections
  noActiveEvent : result.noActiveEvent = Poll.isNoActiveEvent rows selected.length

theorem makeRunResult_eq_ok {fetched : List RawSourceItem} {normalized : List NormalizedEvidence}
    {rejected : List String} {rejections : List SourceRejection} {noActiveEvent : Bool}
    {result : AdapterRunResult}
    (h : Poll.makeRunResult fetched normalized rejected rejections noActiveEvent = .ok result) :
    result.fetched = fetched ∧ result.normalized = normalized ∧
      result.sourceRejections = rejections ∧ result.noActiveEvent = noActiveEvent := by
  unfold Poll.makeRunResult at h
  split_ifs at h
  rw [← Except.ok.inj h]
  exact ⟨rfl, rfl, rfl, rfl⟩

theorem run_of_single (hselected : poll.selectedDocuments = .ok [document]) {dump : Poll.Dump}
    (hdump : poll.fetchDump document = .ok dump) :
    poll.run = poll.auditDump {} document dump >>= fun rows => Poll.resultOf rows 1 := by
  unfold Poll.run Poll.fetchAuditedRows
  rw [hselected]
  simp only [bind, Except.bind, pure, Except.pure, List.foldlM_cons, List.foldlM_nil,
    Poll.auditDocument, hdump, List.length_singleton]
  cases poll.auditDump {} document dump <;> rfl

theorem exists_completes {result : AdapterRunResult} (h : poll.run = .ok result) :
    ∃ selected rows, Completes poll selected rows result := by
  obtain ⟨⟨rows, count⟩, hfetch, hrest⟩ := Outcome.bind_eq_ok.mp h
  obtain ⟨selected, hselected, hrows⟩ := Outcome.bind_eq_ok.mp hfetch
  obtain ⟨audited, hloop, hpair⟩ := Outcome.bind_eq_ok.mp hrows
  obtain ⟨rfl, rfl⟩ := Prod.mk.inj (Except.ok.inj hpair)
  simp only [Poll.resultOf] at hrest
  split at hrest
  · exact absurd hrest (by simp)
  · rename_i hreached
    obtain ⟨hfetched, hnormalized, hrejections, hnone⟩ := makeRunResult_eq_ok hrest
    refine ⟨selected, audited, hselected, audited_of_foldlM hloop, ?_, hfetched, hnormalized,
      hrejections, hnone⟩
    intro hne
    have hpos := List.length_pos_of_ne_nil hne
    simp only [Bool.and_eq_true, decide_eq_true_eq, not_and] at hreached
    exact Nat.pos_of_ne_zero (hreached hpos)

end FloodRisk.Ncdr
