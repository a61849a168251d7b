import FloodRisk.Ncdr.AuditRuns
import FloodRisk.Ncdr.CapOutcome

/-!
# Documents of one poll (adapters/ncdr/cap_alerts.py, adapters/cap_xml.py)

What the content of one document does to the rows of the others.
-/

namespace FloodRisk.Ncdr

variable {poll : Poll} {rows other next : AuditedRows} {document : SelectedDocument}
  {ids : List String}

/-! ### Rows with other source ids -/

/-- Two states of the loop hold the same rows outside some source ids. -/
structure SameOutside (ids : List String) (rows other : AuditedRows) : Prop where
  fetched : rows.fetched.filter (fun raw => raw.sourceId ∉ ids) =
    other.fetched.filter (fun raw => raw.sourceId ∉ ids)
  normalized : rows.normalized.filter (fun evidence => evidence.sourceId ∉ ids) =
    other.normalized.filter (fun evidence => evidence.sourceId ∉ ids)
  rejections : rows.rejections.filter (fun rejection => rejection.sourceId ∉ ids) =
    other.rejections.filter (fun rejection => rejection.sourceId ∉ ids)
  seen : ∀ id, id ∉ ids → (id ∈ rows.seenSourceIds ↔ id ∈ other.seenSourceIds)

theorem SameOutside.refl (ids : List String) (rows : AuditedRows) : SameOutside ids rows rows :=
  ⟨rfl, rfl, rfl, fun _ _ => Iff.rfl⟩

theorem SameOutside.symm (h : SameOutside ids rows other) : SameOutside ids other rows :=
  ⟨h.fetched.symm, h.normalized.symm, h.rejections.symm, fun id hid => (h.seen id hid).symm⟩

theorem SameOutside.trans {last : AuditedRows} (h : SameOutside ids rows other)
    (hlast : SameOutside ids other last) : SameOutside ids rows last :=
  ⟨h.fetched.trans hlast.fetched, h.normalized.trans hlast.normalized,
    h.rejections.trans hlast.rejections, fun id hid => (h.seen id hid).trans (hlast.seen id hid)⟩

/-- The counters are no part of it. -/
theorem SameOutside.of_counters (h : SameOutside ids rows other) (successes audited : ℕ)
    (retryAfter : Option ℤ) (successes' audited' : ℕ) (retryAfter' : Option ℤ) :
    SameOutside ids
      { rows with
        successfulDumpCount := successes
        auditedRowCount := audited
        maxRetryAfterSeconds := retryAfter }
      { other with
        successfulDumpCount := successes'
        auditedRowCount := audited'
        maxRetryAfterSeconds := retryAfter' } :=
  ⟨h.fetched, h.normalized, h.rejections, h.seen⟩

/-- What a row adds to the lists when it is kept. -/
def addRow (poll : Poll) (rows : AuditedRows) (row : AuditRow) : AuditedRows :=
  { rows with
    seenSourceIds := rows.seenSourceIds ++ [row.1.sourceId]
    fetched := rows.fetched ++ [row.1]
    normalized := rows.normalized ++ (evidenceOf poll.runtime row).toList
    rejections := rows.rejections ++ (rejectionOf poll.runtime row).toList }

theorem keepRow_eq (poll : Poll) (rows : AuditedRows) (row : AuditRow) :
    poll.keepRow rows row =
      if row.1.sourceId ∈ rows.seenSourceIds then rows else addRow poll rows row := by
  unfold Poll.keepRow addRow evidenceOf rejectionOf
  split_ifs
  · rfl
  · cases row.2 with
    | some reason => simp
    | none =>
      dsimp only
      cases normalizeReviewedRaw poll.runtime row.1 <;> simp

/-- A row with one of the ids changes nothing outside them. -/
theorem sameOutside_addRow {row : AuditRow} (hrow : row.1.sourceId ∈ ids) :
    SameOutside ids rows (addRow poll rows row) := by
  constructor
  · simp [addRow, hrow]
  · cases hevidence : evidenceOf poll.runtime row with
    | none => simp [addRow, hevidence]
    | some evidence => simp [addRow, hevidence, (evidenceOf_sourceId hevidence).2, hrow]
  · cases hrejection : rejectionOf poll.runtime row with
    | none => simp [addRow, hrejection]
    | some rejection => simp [addRow, hrejection, rejectionOf_sourceId hrejection, hrow]
  · intro id hid
    have hne : id ≠ row.1.sourceId := fun heq => hid (heq ▸ hrow)
    simp [addRow, hne]

theorem sameOutside_keepRow {row : AuditRow} (hrow : row.1.sourceId ∈ ids) :
    SameOutside ids rows (poll.keepRow rows row) := by
  rw [keepRow_eq]
  split_ifs
  · exact SameOutside.refl ids rows
  · exact sameOutside_addRow hrow

/-- One row in both loops. -/
theorem SameOutside.keepRow (h : SameOutside ids rows other) (row : AuditRow) :
    SameOutside ids (poll.keepRow rows row) (poll.keepRow other row) := by
  by_cases hrow : row.1.sourceId ∈ ids
  · exact ((sameOutside_keepRow hrow).symm.trans h).trans (sameOutside_keepRow hrow)
  · rw [keepRow_eq, keepRow_eq]
    by_cases hseen : row.1.sourceId ∈ rows.seenSourceIds
    · rw [if_pos hseen, if_pos ((h.seen _ hrow).mp hseen)]
      exact h
    · rw [if_neg hseen, if_neg (mt (h.seen _ hrow).mpr hseen)]
      constructor
      · simp only [addRow, List.filter_append, h.fetched]
      · simp only [addRow, List.filter_append, h.normalized]
      · simp only [addRow, List.filter_append, h.rejections]
      · intro id hid
        simp only [addRow, List.mem_append, h.seen id hid]

theorem SameOutside.foldl_keepRow (h : SameOutside ids rows other) (prepared : List AuditRow) :
    SameOutside ids (prepared.foldl poll.keepRow rows) (prepared.foldl poll.keepRow other) := by
  induction prepared generalizing rows other with
  | nil => exact h
  | cons row rest ih => exact ih (h.keepRow row)

theorem sameOutside_foldl_keepRow {prepared : List AuditRow}
    (hids : ∀ row ∈ prepared, row.1.sourceId ∈ ids) :
    SameOutside ids rows (prepared.foldl poll.keepRow rows) := by
  induction prepared generalizing rows with
  | nil => exact SameOutside.refl ids rows
  | cons row rest ih =>
    exact (sameOutside_keepRow (hids row List.mem_cons_self)).trans
      (ih fun other hother => hids other (List.mem_cons_of_mem _ hother))

/-! ### One dump -/

abbrev rowLimitError : NcdrError := .payload "NCDR CAP exceeds the 256 audited-row limit"

abbrev secretError : NcdrError :=
  .payload "NCDR CAP raw audit contained [REDACTED] credential material"

/-- The raw rows that a dump is audited with. -/
def dumpRaws (poll : Poll) (document : SelectedDocument) : Poll.Dump → List RawSourceItem
  | .failed retryAfterSeconds => [poll.failureRaw document retryAfterSeconds]
  | .parsed messages =>
      match poll.prepareRows document messages with
      | .ok prepared => prepared.map Prod.fst
      | .error _ => [poll.failureRaw document none]

theorem rejectSecretBearingRaw_error {raw : RawSourceItem} {error : NcdrError}
    (h : poll.rejectSecretBearingRaw raw = .error error) : error = secretError := by
  unfold Poll.rejectSecretBearingRaw at h
  split_ifs at h
  cases h
  rfl

/-- Where a dump was added to one state, another state takes it as well or is at its limit. -/
theorem SameOutside.addFailedDump (h : SameOutside ids rows other) {retryAfter : Option ℤ}
    (hnext : poll.addFailedDump rows document retryAfter = .ok next) :
    (∃ next', poll.addFailedDump other document retryAfter = .ok next' ∧
        SameOutside ids next next') ∨
      poll.addFailedDump other document retryAfter = .error rowLimitError := by
  unfold Poll.addFailedDump at hnext ⊢
  split_ifs at hnext
  obtain ⟨_, hsecret, hadded⟩ := Outcome.bind_eq_ok.mp hnext
  cases hadded
  split_ifs with hlimit
  · exact Or.inr rfl
  · left
    refine ⟨_, Outcome.bind_eq_ok.mpr ⟨_, hsecret, rfl⟩, ?_⟩
    constructor
    · simp only [List.filter_append, h.fetched]
    · exact h.normalized
    · simp only [List.filter_append, h.rejections]
    · exact h.seen

theorem SameOutside.addDump (h : SameOutside ids rows other) {prepared : List AuditRow} {count : ℕ}
    (hnext : poll.addDump rows prepared count = .ok next) :
    ∃ next', poll.addDump other prepared count = .ok next' ∧ SameOutside ids next next' := by
  obtain ⟨_, hsecret, hadded⟩ := Outcome.bind_eq_ok.mp hnext
  cases hadded
  refine ⟨_, Outcome.bind_eq_ok.mpr ⟨_, hsecret, rfl⟩, ?_⟩
  exact (h.of_counters _ _ rows.maxRetryAfterSeconds _ _ other.maxRetryAfterSeconds).foldl_keepRow
    prepared

theorem SameOutside.auditDump (h : SameOutside ids rows other) {dump : Poll.Dump}
    (hnext : poll.auditDump rows document dump = .ok next) :
    (∃ next', poll.auditDump other document dump = .ok next' ∧ SameOutside ids next next') ∨
      poll.auditDump other document dump = .error rowLimitError := by
  cases dump with
  | failed retryAfter => exact h.addFailedDump hnext
  | parsed messages =>
    simp only [Poll.auditDump] at hnext ⊢
    split_ifs at hnext
    split_ifs with hlimit
    · exact Or.inr rfl
    · cases hprepared : poll.prepareRows document messages with
      | error error =>
        rw [hprepared] at hnext
        exact h.addFailedDump hnext
      | ok prepared =>
        rw [hprepared] at hnext
        exact Or.inl (h.addDump hnext)

/-- A dump whose rows have ids of the list, from any state. -/
inductive AuditedDump (poll : Poll) (ids : List String) (rows : AuditedRows)
    (raws : List RawSourceItem) : Except NcdrError AuditedRows → Prop where
  | added {next : AuditedRows} (same : SameOutside ids rows next) :
      AuditedDump poll ids rows raws (.ok next)
  | atLimit : AuditedDump poll ids rows raws (.error rowLimitError)
  | secret {raw : RawSourceItem} (mem : raw ∈ raws)
      (rejected : poll.rejectSecretBearingRaw raw = .error secretError) :
      AuditedDump poll ids rows raws (.error secretError)

theorem addFailedDump_audited (rows : AuditedRows) {retryAfter : Option ℤ}
    (hid : (poll.failureRaw document retryAfter).sourceId ∈ ids) :
    AuditedDump poll ids rows [poll.failureRaw document retryAfter]
      (poll.addFailedDump rows document retryAfter) := by
  unfold Poll.addFailedDump
  split_ifs with hlimit
  · exact .atLimit
  · cases hsecret : poll.rejectSecretBearingRaw (poll.failureRaw document retryAfter) with
    | error error =>
      obtain rfl := rejectSecretBearingRaw_error hsecret
      simp only [hsecret]
      exact .secret List.mem_cons_self hsecret
    | ok _ =>
      simp only [hsecret]
      apply AuditedDump.added
      constructor
      · simp [hid]
      · rfl
      · simp [hid]
      · exact fun _ _ => Iff.rfl

theorem addDump_audited (rows : AuditedRows) {prepared : List AuditRow} (count : ℕ)
    (hids : ∀ row ∈ prepared, row.1.sourceId ∈ ids) :
    AuditedDump poll ids rows (prepared.map Prod.fst) (poll.addDump rows prepared count) := by
  unfold Poll.addDump
  cases hsecret : prepared.forM fun row => poll.rejectSecretBearingRaw row.1 with
  | error error =>
    obtain ⟨row, hrow, hrejected⟩ := Outcome.forM_eq_error hsecret
    obtain rfl := rejectSecretBearingRaw_error hrejected
    exact .secret (List.mem_map_of_mem hrow) hrejected
  | ok _ =>
    have hstart : SameOutside ids rows
        { rows with
          successfulDumpCount := rows.successfulDumpCount + 1
          auditedRowCount := rows.auditedRowCount + count } :=
      (SameOutside.refl ids rows).of_counters _ _ rows.maxRetryAfterSeconds _ _ _
    exact .added (hstart.trans (sameOutside_foldl_keepRow hids))

theorem auditDump_audited (rows : AuditedRows) (dump : Poll.Dump)
    (hids : ∀ raw ∈ dumpRaws poll document dump, raw.sourceId ∈ ids) :
    AuditedDump poll ids rows (dumpRaws poll document dump) (poll.auditDump rows document dump) := by
  cases dump with
  | failed retryAfter => exact addFailedDump_audited rows (hids _ List.mem_cons_self)
  | parsed messages =>
    simp only [Poll.auditDump, dumpRaws] at hids ⊢
    split_ifs with hlimit
    · exact .atLimit
    · cases hprepared : poll.prepareRows document messages with
      | error error =>
        simp only [hprepared] at hids ⊢
        exact addFailedDump_audited rows (hids _ List.mem_cons_self)
      | ok prepared =>
        simp only [hprepared] at hids ⊢
        exact addDump_audited rows _ fun row hrow => hids row.1 (List.mem_map_of_mem hrow)

end FloodRisk.Ncdr
