import FloodRisk.History.SnapshotRows
import FloodRisk.Lib.Overwrite
import Mathlib.Data.List.ProdSigma

/-!
# The historical coverage ledger (workers/app/jobs/historical_coverage.py, migrations 0056, 0058, 0059)

`recordSuccess` is `PostgresHistoricalCoverageWriter.record_success`: one
transaction that upserts the checks of a source for the years of its snapshot and
refreshes the county cells of those years.
-/

namespace FloodRisk.History
open Realtime (BoundarySnapshot JurisdictionBoundary)

def historicalCoverageAdapterKeys : List String :=
  ["official.nstc.flood_disaster_points", "official.wra.historical_flood"]

/-! ### Tables -/

structure CellKey where
  jurisdictionCode : String
  coverageYear : ℤ
  deriving DecidableEq

structure CheckKey where
  jurisdictionCode : String
  coverageYear : ℤ
  adapterKey : String
  deriving DecidableEq

inductive CheckStatus where
  | succeeded | failed
  deriving DecidableEq

/-- A row of `historical_coverage_source_checks`. -/
structure SourceCheck where
  jurisdictionCode : String
  coverageYear : ℤ
  adapterKey : String
  status : CheckStatus
  recordCount : ℕ := 0
  attemptedAt : ℤ
  succeededAt : Option ℤ
  reviewRef : String
  updatedAt : ℤ
  deriving DecidableEq

def SourceCheck.key (check : SourceCheck) : CheckKey :=
  ⟨check.jurisdictionCode, check.coverageYear, check.adapterKey⟩

def SourceCheck.cellKey (check : SourceCheck) : CellKey := ⟨check.jurisdictionCode, check.coverageYear⟩

/-- `CHECK (succeeded_at IS NULL OR succeeded_at <= updated_at)`. -/
def SourceCheck.isPast (check : SourceCheck) : Bool := check.succeededAt.all (· ≤ check.updatedAt)

inductive CoverageStatus where
  | unassessed | complete | partialStatus | officialCheckedEmpty | notPublished | stale | failed
  deriving DecidableEq

/-- A row of `historical_coverage_cells`. -/
structure CoverageCell where
  jurisdictionCode : String
  coverageYear : ℤ
  status : CoverageStatus := .unassessed
  recordCount : ℕ := 0
  checkedSourceCount : ℕ := 0
  successfulSourceCount : ℕ := 0
  sourceAdapterKeys : List String := []
  assessedAt : Option ℤ := none
  lastAttemptedAt : Option ℤ := none
  lastSucceededAt : Option ℤ := none
  reviewRef : Option String := none
  statusReason : String := "Coverage audit has not been run."
  updatedAt : ℤ
  deriving DecidableEq

def CoverageCell.key (cell : CoverageCell) : CellKey := ⟨cell.jurisdictionCode, cell.coverageYear⟩

structure CoverageLedger where
  cells : Table CoverageCell.key
  checks : Table SourceCheck.key
  -- the foreign key of a check
  covered : ∀ check ∈ checks, ∃ cell ∈ cells, cell.key = check.cellKey

inductive CoverageError where
  | valueError (message : String)
  | historicalCoverageWriteError (message : String)
  | invalidGeometry
  | checkViolation
  | foreignKeyViolation
  deriving DecidableEq

structure HistoricalCoverageWriteResult where
  adapterKey : String
  assessedYears : List ℤ
  sourceCheckCount : ℕ
  attributedRecordCount : ℕ
  boundaryAdjustedRecordCount : ℕ
  deriving DecidableEq

/-- What the database and the interpreter supply. -/
structure CoverageRuntime (Geometry : Type) where
  gis : PostGis Geometry
  /-- `hashlib.sha256(..).hexdigest()`. -/
  sha256 : String → String

/-- A call, with what its transaction reads of the other tables. -/
structure RecordRequest (Geometry : Type) where
  sources : SnapshotSources Geometry
  now : ℤ
  adapterKey : String
  rawRef : String
  assessedAt : Datetime

variable {Geometry : Type}

/-! ### `_UPSERT_SOURCE_CHECKS_SQL` -/

/-- `array_agg(DISTINCT coverage_year ORDER BY coverage_year)`. -/
def sourceYears (rows : List (SourceRow Geometry)) : List ℤ :=
  (rows.map SourceRow.coverageYear).dedup.insertionSort (· ≤ ·)

structure SourceMetrics where
  acceptedCount : ℕ
  geometryCount : ℕ
  attributedCount : ℕ
  years : List ℤ
  boundaryCount : ℕ
  boundaryAdjustedCount : ℕ
  deriving DecidableEq

def SourceMetrics.isValid (metrics : SourceMetrics) : Bool :=
  metrics.boundaryCount = 22 && metrics.acceptedCount = metrics.geometryCount &&
    metrics.geometryCount = metrics.attributedCount

theorem BoundaryTables.activeCodes_distinct (tables : BoundaryTables Geometry) :
    (tables.activeBoundaries.map JurisdictionBoundary.jurisdictionCode).Nodup := by
  have hone : ∀ s ∈ tables.snapshots.rows.filter isReviewed,
      ∀ t ∈ tables.snapshots.rows.filter isReviewed, s = t := by
    intro s hs t ht
    obtain ⟨hsmem, hsok⟩ := List.mem_filter.mp hs
    obtain ⟨htmem, htok⟩ := List.mem_filter.mp ht
    simp only [isReviewed, Bool.and_eq_true] at hsok htok
    exact tables.oneActive s hsmem t htmem hsok.1.1.1.1.1.1 htok.1.1.1.1.1.1
  have hnodup : (tables.snapshots.rows.filter isReviewed).Nodup :=
    (List.Nodup.of_map _ tables.snapshots.keysNodup).filter _
  rw [BoundaryTables.activeBoundaries]
  rcases hsnapshots : tables.snapshots.rows.filter isReviewed with _ | ⟨snapshot, rest⟩
  · exact List.nodup_nil
  have hrest : rest = [] := by
    rw [hsnapshots] at hone hnodup
    refine List.eq_nil_iff_forall_not_mem.mpr fun t ht => (List.nodup_cons.mp hnodup).1 ?_
    rw [hone snapshot List.mem_cons_self t (List.mem_cons_of_mem snapshot ht)]
    exact ht
  rw [hrest, List.flatMap_singleton]
  have hkeys := (List.filter_sublist (p := fun boundary => decide (boundary.snapshotId = snapshot.id))
    (l := tables.boundaries.rows)).map (fun boundary : JurisdictionBoundary Geometry =>
      (boundary.snapshotId, boundary.jurisdictionCode)) |>.nodup tables.boundaries.keysNodup
  refine List.Nodup.of_map (fun code => (snapshot.id, code)) ?_
  rw [List.map_map]
  refine (List.map_congr_left ?_).symm ▸ hkeys
  intro boundary hboundary
  have hid : boundary.snapshotId = snapshot.id := of_decide_eq_true (List.mem_filter.mp hboundary).2
  rw [Function.comp_apply, hid]

theorem sourceYears_distinct (rows : List (SourceRow Geometry)) : (sourceYears rows).Nodup :=
  (List.perm_insertionSort _ _).nodup_iff.mpr (List.nodup_dedup _)

@[simp] theorem mem_sourceYears {rows : List (SourceRow Geometry)} {year : ℤ} :
    year ∈ sourceYears rows ↔ ∃ row ∈ rows, row.coverageYear = year := by
  simp [sourceYears]

section Upsert

variable (runtime : CoverageRuntime Geometry) (request : RecordRequest Geometry)

def RecordRequest.boundaries : List (JurisdictionBoundary Geometry) :=
  request.sources.boundaryTables.activeBoundaries

def RecordRequest.accepted : List (CandidateRow Geometry) :=
  acceptedRows request.sources request.rawRef request.adapterKey

def RecordRequest.rows : List (SourceRow Geometry) :=
  sourceRows request.sources request.rawRef request.adapterKey

def sourceMetrics : SourceMetrics :=
  { acceptedCount := request.accepted.length
    geometryCount := request.rows.length
    attributedCount := distinctIds (attributedRows runtime.gis request.boundaries request.rows)
    years := sourceYears request.rows
    boundaryCount := request.boundaries.length
    boundaryAdjustedCount :=
      distinctIds (boundaryAdjustedRows runtime.gis request.boundaries request.rows) }

def reviewRef : String :=
  "worker-snapshot:v2:point-fallback-" ++ toString historicalCoveragePointFallbackMeters ++ "m:" ++
    request.adapterKey ++ ":" ++ runtime.sha256 request.rawRef

def sourceCheck (assessedAt : ℤ) (county : String × ℤ) : SourceCheck :=
  { jurisdictionCode := county.1
    coverageYear := county.2
    adapterKey := request.adapterKey
    status := .succeeded
    recordCount := recordCount runtime.gis request.boundaries request.rows county.1 county.2
    attemptedAt := assessedAt
    succeededAt := some assessedAt
    reviewRef := reviewRef runtime request
    updatedAt := request.now }

/-- `active_boundaries CROSS JOIN source_years`. -/
def sourceChecks (assessedAt : ℤ) : Table SourceCheck.key where
  rows := ((request.boundaries.map JurisdictionBoundary.jurisdictionCode) ×ˢ
    sourceYears request.rows).map (sourceCheck runtime request assessedAt)
  keysNodup := by
    have hpairs := request.sources.boundaryTables.activeCodes_distinct.product
      (sourceYears_distinct request.rows)
    rw [List.map_map]
    refine hpairs.map ?_
    rintro ⟨code, year⟩ ⟨otherCode, otherYear⟩ h
    obtain ⟨hcode, hyear, -⟩ := CheckKey.mk.inj h
    exact Prod.ext hcode hyear

/-- `valid_preflight` joins nothing when the counts disagree. -/
def upsertedChecks (assessedAt : ℤ) : Table SourceCheck.key :=
  if (sourceMetrics runtime request).isValid then sourceChecks runtime request assessedAt
  else Table.empty

/-- The upsert reads the other tables once: its counts, the number of checks it
returned and the tables after it. -/
def upsertSourceChecks (assessedAt : ℤ) (ledger : CoverageLedger) :
    Except CoverageError (SourceMetrics × ℕ × CoverageLedger) :=
  if request.accepted.any CandidateRow.isRefused then .error .invalidGeometry
  else if ∃ check ∈ (upsertedChecks runtime request assessedAt).rows, check.isPast = false then
    .error .checkViolation
  else if h : ∀ check ∈ upsertedChecks runtime request assessedAt,
      ∃ cell ∈ ledger.cells.rows, cell.key = check.cellKey then
    .ok (sourceMetrics runtime request, (upsertedChecks runtime request assessedAt).rows.length,
      { cells := ledger.cells
        checks := ledger.checks.overwrite (upsertedChecks runtime request assessedAt)
        covered := by
          intro check hcheck
          rcases Table.mem_overwrite.mp hcheck with hnew | ⟨hold, -⟩
          · exact h check hnew
          · exact ledger.covered check hold })
  else .error .foreignKeyViolation

end Upsert

/-! ### `_REFRESH_COVERAGE_CELLS_SQL` -/

/-- The rows of `aggregate_checks` for a cell. -/
def cellChecks (checks : Table SourceCheck.key) (years : List ℤ) (cell : CoverageCell) :
    List SourceCheck :=
  checks.rows.filter fun check => check.coverageYear ∈ years ∧ check.cellKey = cell.key

def succeededChecks (checks : List SourceCheck) : List SourceCheck :=
  checks.filter fun check => check.status = .succeeded

def aggregatedCell (checks : List SourceCheck) (now : ℤ) (cell : CoverageCell) : CoverageCell :=
  let succeeded := succeededChecks checks
  { cell with
    status := if 0 < succeeded.length then .partialStatus else .failed
    recordCount := (succeeded.map SourceCheck.recordCount).sum
    checkedSourceCount := checks.length
    successfulSourceCount := succeeded.length
    sourceAdapterKeys := (checks.map SourceCheck.adapterKey).insertionSort (· ≤ ·)
    assessedAt := (checks.map SourceCheck.attemptedAt).max?
    lastAttemptedAt := (checks.map SourceCheck.attemptedAt).max?
    lastSucceededAt := (succeeded.filterMap SourceCheck.succeededAt).max?
    reviewRef := (checks.map SourceCheck.reviewRef).max?
    statusReason :=
      if 0 < succeeded.length then
        "Approved official source snapshots were checked; coverage remains partial until all reviewed sources are complete."
      else "All attempted official historical source checks failed."
    updatedAt := now }

def refreshCell (checks : Table SourceCheck.key) (years : List ℤ) (now : ℤ) (cell : CoverageCell) :
    CoverageCell :=
  match cellChecks checks years cell with
  | [] => cell
  | check :: rest => aggregatedCell (check :: rest) now cell

/-- The two constraints that compare with the clock. -/
def CoverageCell.isPast (cell : CoverageCell) : Bool :=
  cell.lastSucceededAt.all (· ≤ cell.updatedAt) && cell.lastAttemptedAt.all (· ≤ cell.updatedAt)

@[simp] theorem refreshCell_key (checks : Table SourceCheck.key) (years : List ℤ) (now : ℤ)
    (cell : CoverageCell) : (refreshCell checks years now cell).key = cell.key := by
  unfold refreshCell
  split <;> rfl

def refreshCoverageCells (years : List ℤ) (now : ℤ) (ledger : CoverageLedger) :
    Except CoverageError CoverageLedger :=
  if ∃ cell ∈ ledger.cells.rows, cellChecks ledger.checks years cell ≠ [] ∧
      (refreshCell ledger.checks years now cell).isPast = false then
    .error .checkViolation
  else
    .ok
      { cells := ledger.cells.update (refreshCell ledger.checks years now)
          (refreshCell_key ledger.checks years now)
        checks := ledger.checks
        covered := by
          intro check hcheck
          obtain ⟨cell, hcell, hkey⟩ := ledger.covered check hcheck
          exact ⟨_, Table.mem_update.mpr ⟨cell, hcell, rfl⟩, (refreshCell_key _ _ _ cell).trans hkey⟩ }

/-! ### `record_success` -/

/-- A connection: the tables as committed and as its transaction sees them. -/
structure Connection where
  committed : CoverageLedger
  working : CoverageLedger

def Connection.write (connection : Connection) (ledger : CoverageLedger) : Connection :=
  { connection with working := ledger }

def Connection.commit (connection : Connection) : Connection :=
  { connection with committed := connection.working }

/-- Leaving `with connection`: an exception rolls back, else the rest is committed. -/
def Connection.exit (connection : Connection) :
    Except CoverageError HistoricalCoverageWriteResult → CoverageLedger
  | .ok _ => connection.commit.committed
  | .error _ => connection.committed

def checkMetrics (metrics : SourceMetrics) : Except CoverageError Unit :=
  if metrics.boundaryCount ≠ 22 then
    .error (.historicalCoverageWriteError
      "active historical coverage boundary contract is not exactly 22 counties")
  else if metrics.acceptedCount ≠ metrics.geometryCount then
    .error (.historicalCoverageWriteError
      "historical snapshot contains accepted rows without valid geometry")
  else if metrics.geometryCount ≠ metrics.attributedCount then
    .error (.historicalCoverageWriteError
      ("historical snapshot contains geometry outside the active 22-county " ++
        "boundary contract and its bounded " ++ toString historicalCoveragePointFallbackMeters ++
        "-metre point fallback"))
  else .ok ()

section Record

variable (runtime : CoverageRuntime Geometry) (request : RecordRequest Geometry)

/-- The body of the `with` block. -/
def recordOn (assessedAt : ℤ) (connection : Connection) :
    Except CoverageError HistoricalCoverageWriteResult × Connection :=
  match upsertSourceChecks runtime request assessedAt connection.working with
  | .error error => (.error error, connection)
  | .ok (metrics, sourceCheckCount, upserted) =>
      let written := connection.write upserted
      match checkMetrics metrics with
      | .error error => (.error error, written)
      | .ok () =>
          if metrics.years = [] then
            (.ok ⟨request.adapterKey, [], 0, 0, 0⟩, written.commit)
          else
            match refreshCoverageCells metrics.years request.now written.working with
            | .error error => (.error error, written)
            | .ok refreshed =>
                (.ok ⟨request.adapterKey, metrics.years, sourceCheckCount, metrics.attributedCount,
                  metrics.boundaryAdjustedCount⟩, (written.write refreshed).commit)

def recordSuccess (ledger : CoverageLedger) :
    Except CoverageError HistoricalCoverageWriteResult × CoverageLedger :=
  if request.adapterKey ∉ historicalCoverageAdapterKeys then
    (.error (.valueError "adapter is not approved for historical coverage updates"), ledger)
  else
    match request.assessedAt with
    | .naive _ => (.error (.valueError "assessed_at must be timezone-aware"), ledger)
    | .aware assessedAt =>
        let (outcome, connection) := recordOn runtime request assessedAt ⟨ledger, ledger⟩
        (outcome, connection.exit outcome)

/-- What a call that returned has done to the ledger. -/
structure Recorded (ledger after : CoverageLedger) : Prop where
  preflight : (sourceMetrics runtime request).isValid = true
  checks : ∃ assessedAt, request.assessedAt = .aware assessedAt ∧
    after.checks = ledger.checks.overwrite (sourceChecks runtime request assessedAt)
  cells : after.cells.rows =
    ledger.cells.rows.map (refreshCell after.checks (sourceYears request.rows) request.now)

variable {runtime request}

theorem isValid_of_checkMetrics {metrics : SourceMetrics} (h : checkMetrics metrics = .ok ()) :
    metrics.isValid = true := by
  unfold checkMetrics at h
  split_ifs at h with hboundary hgeometry hattributed
  simp only [not_not] at hboundary hgeometry hattributed
  simp [SourceMetrics.isValid, hboundary, hgeometry, hattributed]

theorem upsertSourceChecks_eq_ok {assessedAt : ℤ} {ledger after : CoverageLedger}
    {metrics : SourceMetrics} {count : ℕ}
    (h : upsertSourceChecks runtime request assessedAt ledger = .ok (metrics, count, after)) :
    metrics = sourceMetrics runtime request ∧ after.cells = ledger.cells ∧
      (metrics.isValid = true →
        after.checks = ledger.checks.overwrite (sourceChecks runtime request assessedAt)) := by
  unfold upsertSourceChecks at h
  split_ifs at h with hrefused hpast hcovered
  obtain ⟨hmetrics, hrest⟩ := Prod.mk.inj (Except.ok.inj h)
  obtain ⟨-, hafter⟩ := Prod.mk.inj hrest
  refine ⟨hmetrics.symm, hafter ▸ rfl, ?_⟩
  intro hvalid
  have hupserted : upsertedChecks runtime request assessedAt =
      sourceChecks runtime request assessedAt := if_pos (hmetrics ▸ hvalid)
  exact hafter ▸ congrArg ledger.checks.overwrite hupserted

theorem refreshCoverageCells_eq_ok {years : List ℤ} {now : ℤ} {ledger after : CoverageLedger}
    (h : refreshCoverageCells years now ledger = .ok after) : after.checks = ledger.checks ∧
      after.cells.rows = ledger.cells.rows.map (refreshCell ledger.checks years now) := by
  unfold refreshCoverageCells at h
  split_ifs at h
  rw [← Except.ok.inj h]
  exact ⟨rfl, rfl⟩

/-- Nothing is refreshed for no years. -/
theorem refreshCell_nil (checks : Table SourceCheck.key) (now : ℤ) (cell : CoverageCell) :
    refreshCell checks [] now cell = cell := by
  have hnone : cellChecks checks [] cell = [] := by simp [cellChecks]
  rw [refreshCell, hnone]

variable (runtime) in
/-- The body raises without a commit, or what it commits is recorded. -/
theorem recordOn_cases {assessedAt : ℤ} (hassessed : request.assessedAt = .aware assessedAt)
    (ledger : CoverageLedger) :
    (∃ error connection, recordOn runtime request assessedAt ⟨ledger, ledger⟩ =
        (.error error, connection) ∧ connection.committed = ledger) ∨
      ∃ result connection, recordOn runtime request assessedAt ⟨ledger, ledger⟩ =
        (.ok result, connection) ∧ Recorded runtime request ledger connection.working := by
  unfold recordOn
  cases hupsert : upsertSourceChecks runtime request assessedAt ledger with
  | error error => exact Or.inl ⟨error, _, rfl, rfl⟩
  | ok written =>
    obtain ⟨metrics, count, upserted⟩ := written
    obtain ⟨hmetrics, hcells, hchecks⟩ := upsertSourceChecks_eq_ok hupsert
    simp only
    cases hpreflight : checkMetrics metrics with
    | error error => exact Or.inl ⟨error, _, rfl, rfl⟩
    | ok _ =>
      have hvalid := isValid_of_checkMetrics hpreflight
      have hyears : metrics.years = sourceYears request.rows := hmetrics ▸ rfl
      have hwritten : ∃ instant, request.assessedAt = .aware instant ∧
          upserted.checks = ledger.checks.overwrite (sourceChecks runtime request instant) :=
        ⟨assessedAt, hassessed, hchecks hvalid⟩
      by_cases hnone : metrics.years = []
      · simp only [if_pos hnone]
        refine Or.inr ⟨_, _, rfl, hmetrics ▸ hvalid, hwritten, ?_⟩
        have hkept := List.map_congr_left fun cell (_ : cell ∈ ledger.cells.rows) =>
          refreshCell_nil upserted.checks request.now cell
        show upserted.cells.rows = ledger.cells.rows.map
          (refreshCell upserted.checks (sourceYears request.rows) request.now)
        rw [← hyears, hnone, hcells]
        exact (hkept.trans (List.map_id' _)).symm
      · simp only [if_neg hnone, Connection.write]
        cases hrefresh : refreshCoverageCells metrics.years request.now upserted with
        | error error => exact Or.inl ⟨error, _, rfl, rfl⟩
        | ok refreshed =>
          obtain ⟨hsameChecks, hrefreshed⟩ := refreshCoverageCells_eq_ok hrefresh
          refine Or.inr ⟨_, _, rfl, hmetrics ▸ hvalid, hsameChecks ▸ hwritten, ?_⟩
          show refreshed.cells.rows = ledger.cells.rows.map
            (refreshCell refreshed.checks (sourceYears request.rows) request.now)
          rw [hrefreshed, hsameChecks, hcells, hyears]

/-- A call either raises and leaves the tables as they were, or returns with the
checks and cells of its snapshot. -/
theorem recordSuccess_cases (ledger : CoverageLedger) :
    (∃ error, recordSuccess runtime request ledger = (.error error, ledger)) ∨
      ∃ result after, recordSuccess runtime request ledger = (.ok result, after) ∧
        Recorded runtime request ledger after := by
  by_cases hadapter : request.adapterKey ∉ historicalCoverageAdapterKeys
  · exact Or.inl ⟨_, if_pos hadapter⟩
  rw [recordSuccess, if_neg hadapter]
  split
  · exact Or.inl ⟨_, rfl⟩
  · rename_i assessedAt hassessed
    rcases recordOn_cases runtime hassessed ledger with
      ⟨error, connection, hrun, hcommitted⟩ | ⟨result, connection, hrun, hrecorded⟩
    · refine Or.inl ⟨error, ?_⟩
      simp only [hrun, Connection.exit, hcommitted]
    · refine Or.inr ⟨result, connection.working, ?_, hrecorded⟩
      simp only [hrun, Connection.exit, Connection.commit]

end Record

end FloodRisk.History
