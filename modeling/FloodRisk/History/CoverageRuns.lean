import FloodRisk.History.CoverageLedger
import FloodRisk.Lib.Transition

/-!
# Runs of the coverage writer

Migration 0059: "A new five-year source snapshot must not make previously published
years disappear."
-/

namespace FloodRisk.History
open Realtime (JurisdictionBoundary)
open Transition

section Runs

variable {Geometry : Type} (runtime : CoverageRuntime Geometry)

def recordStep (ledger : CoverageLedger) (request : RecordRequest Geometry) : CoverageLedger :=
  (recordSuccess runtime request ledger).2

def storedCount (ledger : CoverageLedger) (key : CheckKey) : Option ℕ :=
  (ledger.checks.find key).map SourceCheck.recordCount

def Returns (ledger : CoverageLedger) (request : RecordRequest Geometry) : Prop :=
  ∃ result, (recordSuccess runtime request ledger).1 = .ok result

/-- The year occurs among the accepted rows of the snapshot. -/
def RecordRequest.HasYear (request : RecordRequest Geometry) (year : ℤ) : Prop :=
  ∃ row ∈ acceptedRowCandidates request.sources request.rawRef request.adapterKey,
    IsNewest request.sources request.rawRef request.adapterKey row ∧ row.coverageYear = year

/-- The check belongs to the source of the call, to one of its counties and to a
year that occurs in its snapshot. -/
structure RecordRequest.Covers (request : RecordRequest Geometry) (key : CheckKey) : Prop where
  adapter : key.adapterKey = request.adapterKey
  county : ∃ boundary ∈ request.boundaries, boundary.jurisdictionCode = key.jurisdictionCode
  year : request.HasYear key.coverageYear

def Records (ledger : CoverageLedger) (request : RecordRequest Geometry) (key : CheckKey) : Prop :=
  Returns runtime ledger request ∧ request.Covers key

noncomputable def RecordRequest.countOf (request : RecordRequest Geometry) (key : CheckKey) : ℕ :=
  (countedRows runtime.gis request.sources request.rawRef request.adapterKey
    key.jurisdictionCode key.coverageYear).ncard

def checksOf (ledger : CoverageLedger) (cell : CoverageCell) : List SourceCheck :=
  ledger.checks.rows.filter fun check => check.cellKey = cell.key

/-- The checked cells of a year are the sums of their succeeded checks. -/
def Summed (ledger : CoverageLedger) (year : ℤ) : Prop :=
  ∀ cell ∈ ledger.cells, cell.coverageYear = year → checksOf ledger cell ≠ [] →
    cell.recordCount = ((succeededChecks (checksOf ledger cell)).map SourceCheck.recordCount).sum

variable {runtime} {request : RecordRequest Geometry} {ledger after : CoverageLedger}

/-! ### One call -/

theorem recordStep_cases (runtime : CoverageRuntime Geometry) (request : RecordRequest Geometry)
    (ledger : CoverageLedger) :
    (¬ Returns runtime ledger request ∧ recordStep runtime ledger request = ledger) ∨
      Returns runtime ledger request ∧
        Recorded runtime request ledger (recordStep runtime ledger request) := by
  have hcases : (∃ error, recordSuccess runtime request ledger = (.error error, ledger)) ∨
      ∃ result after, recordSuccess runtime request ledger = (.ok result, after) ∧
        Recorded runtime request ledger after := recordSuccess_cases ledger
  rcases hcases with ⟨error, herror⟩ | ⟨result, after, hok, hrecorded⟩
  · left
    refine ⟨?_, by rw [recordStep, herror]⟩
    rintro ⟨result, hresult⟩
    rw [herror] at hresult
    exact absurd hresult (by simp)
  · right
    exact ⟨⟨result, by rw [hok]⟩, by rw [recordStep, hok]; exact hrecorded⟩

/-- A snapshot that passed the preflight has a source row for each accepted row. -/
theorem mem_sourceYears_iff (valid : (sourceMetrics runtime request).isValid = true) {year : ℤ} :
    year ∈ sourceYears request.rows ↔ request.HasYear year := by
  simp only [SourceMetrics.isValid, sourceMetrics, Bool.and_eq_true] at valid
  have hall : ∀ row ∈ request.accepted, (sourceRow row).isSome := by
    refine List.filterMap_length_eq_length.mp ?_
    exact (of_decide_eq_true valid.1.2).symm
  rw [mem_sourceYears]
  constructor
  · rintro ⟨source, hsource, hyear⟩
    obtain ⟨row, hrow, hmade⟩ := List.mem_filterMap.mp hsource
    obtain ⟨hcandidate, hnewest⟩ := mem_acceptedRows.mp hrow
    exact ⟨row, hcandidate, hnewest, (sourceRow_eq_some.mp hmade).2.2 ▸ hyear⟩
  · rintro ⟨row, hcandidate, hnewest, hyear⟩
    have hrow := mem_acceptedRows.mpr ⟨hcandidate, hnewest⟩
    obtain ⟨source, hmade⟩ := Option.isSome_iff_exists.mp (hall row hrow)
    refine ⟨source, List.mem_filterMap.mpr ⟨row, hrow, hmade⟩, ?_⟩
    exact (sourceRow_eq_some.mp hmade).2.2.trans hyear

theorem mem_sourceChecks {assessedAt : ℤ} {check : SourceCheck} :
    check ∈ sourceChecks runtime request assessedAt ↔
      ∃ boundary ∈ request.boundaries, ∃ year ∈ sourceYears request.rows,
        sourceCheck runtime request assessedAt (boundary.jurisdictionCode, year) = check := by
  simp only [Table.mem_def, sourceChecks, List.mem_map, List.mem_product, Prod.exists]
  constructor
  · rintro ⟨code, year, ⟨⟨boundary, hboundary, rfl⟩, hyear⟩, rfl⟩
    exact ⟨boundary, hboundary, year, hyear, rfl⟩
  · rintro ⟨boundary, hboundary, year, hyear, rfl⟩
    exact ⟨_, year, ⟨⟨boundary, hboundary, rfl⟩, hyear⟩, rfl⟩

theorem Recorded.storedCount_of_covers (h : Recorded runtime request ledger after) {key : CheckKey}
    (covers : request.Covers key) : storedCount after key = some (request.countOf runtime key) := by
  obtain ⟨assessedAt, -, hchecks⟩ := h.checks
  obtain ⟨boundary, hboundary, hcode⟩ := covers.county
  have hyear := (mem_sourceYears_iff h.preflight).mpr covers.year
  have hmem : sourceCheck runtime request assessedAt (key.jurisdictionCode, key.coverageYear) ∈
      sourceChecks runtime request assessedAt :=
    mem_sourceChecks.mpr ⟨boundary, hboundary, _, hyear, by rw [hcode]⟩
  have hkey : (sourceCheck runtime request assessedAt
      (key.jurisdictionCode, key.coverageYear)).key = key :=
    congrArg (CheckKey.mk key.jurisdictionCode key.coverageYear) covers.adapter.symm
  have hfind := Table.find_eq_some_iff.mpr ⟨hmem, hkey⟩
  rw [storedCount, hchecks, Table.find_overwrite, hfind]
  exact congrArg some (recordCount_sourceRows key.jurisdictionCode key.coverageYear)

theorem Recorded.storedCount_of_not_covers (h : Recorded runtime request ledger after)
    {key : CheckKey} (other : ¬ request.Covers key) :
    storedCount after key = storedCount ledger key := by
  obtain ⟨assessedAt, -, hchecks⟩ := h.checks
  have hnone : (sourceChecks runtime request assessedAt).find key = none := by
    rw [Table.find_eq_none_iff]
    rintro check hcheck rfl
    obtain ⟨boundary, hboundary, year, hyear, rfl⟩ := mem_sourceChecks.mp hcheck
    exact other ⟨rfl, ⟨boundary, hboundary, rfl⟩, (mem_sourceYears_iff h.preflight).mp hyear⟩
  rw [storedCount, hchecks, Table.find_overwrite, hnone, Option.none_or, storedCount]

theorem Recorded.mem_cells (h : Recorded runtime request ledger after) {cell : CoverageCell}
    (hcell : cell ∈ after.cells) : ∃ old ∈ ledger.cells,
      refreshCell after.checks (sourceYears request.rows) request.now old = cell := by
  have hmem : cell ∈ after.cells.rows := hcell
  rw [h.cells] at hmem
  exact List.mem_map.mp hmem

theorem coverageYear_of_cellKey {check : SourceCheck} {cell : CoverageCell}
    (h : check.cellKey = cell.key) : check.coverageYear = cell.coverageYear :=
  (CellKey.mk.inj h).2

/-- The cells of the years of a snapshot are sums once its call has returned. -/
theorem Recorded.summed (h : Recorded runtime request ledger after) {year : ℤ}
    (hyear : year ∈ sourceYears request.rows) : Summed after year := by
  intro cell hcell hcellYear hchecked
  obtain ⟨old, -, rfl⟩ := h.mem_cells hcell
  have hkey := refreshCell_key after.checks (sourceYears request.rows) request.now old
  have hall : cellChecks after.checks (sourceYears request.rows) old =
      checksOf after (refreshCell after.checks (sourceYears request.rows) request.now old) := by
    refine List.filter_congr fun check _ => ?_
    rw [hkey, decide_eq_decide, and_iff_right_iff_imp]
    intro hcheck
    rw [coverageYear_of_cellKey (hcheck.trans hkey.symm), hcellYear]
    exact hyear
  rw [← hall] at hchecked ⊢
  unfold refreshCell
  split
  · rename_i hnone
    exact absurd hnone hchecked
  · rename_i check rest hsome
    rw [hsome]
    rfl

/-- The cells of other years keep their sums. -/
theorem Recorded.summed_kept (h : Recorded runtime request ledger after) {year : ℤ}
    (hyear : year ∉ sourceYears request.rows) (kept : Summed ledger year) : Summed after year := by
  intro cell hcell hcellYear hchecked
  obtain ⟨old, hold, rfl⟩ := h.mem_cells hcell
  obtain ⟨assessedAt, -, hchecks⟩ := h.checks
  have hkey := refreshCell_key after.checks (sourceYears request.rows) request.now old
  have holdYear : old.coverageYear = year := (CellKey.mk.inj hkey).2.symm.trans hcellYear
  have hnone : cellChecks after.checks (sourceYears request.rows) old = [] := by
    rw [cellChecks, List.filter_eq_nil_iff]
    intro check _ hcheck
    obtain ⟨hin, hcellKey⟩ := of_decide_eq_true hcheck
    rw [coverageYear_of_cellKey hcellKey, holdYear] at hin
    exact hyear hin
  have hsame : refreshCell after.checks (sourceYears request.rows) request.now old = old := by
    rw [refreshCell, hnone]
  have hchecksOf : checksOf after old = checksOf ledger old := by
    rw [checksOf, hchecks]
    refine Table.filter_overwrite fun check hcheck inserted hinserted heq => ?_
    obtain ⟨_, _, inYear, hinYear, rfl⟩ := mem_sourceChecks.mp hinserted
    have hcheckYear := coverageYear_of_cellKey (of_decide_eq_true hcheck)
    obtain ⟨-, hsameYear, -⟩ := CheckKey.mk.inj heq
    exact hyear (holdYear ▸ hcheckYear ▸ hsameYear ▸ hinYear)
  rw [hsame] at hchecked ⊢
  rw [hchecksOf] at hchecked ⊢
  exact kept old hold holdYear hchecked

/-! ### Every call -/

variable (runtime) in
theorem storedCount_recordStep_of_records {key : CheckKey}
    (h : Records runtime ledger request key) :
    storedCount (recordStep runtime ledger request) key = some (request.countOf runtime key) := by
  rcases recordStep_cases runtime request ledger with ⟨hraises, -⟩ | ⟨-, hrecorded⟩
  · exact absurd h.1 hraises
  · exact hrecorded.storedCount_of_covers h.2

variable (runtime) in
theorem storedCount_recordStep {key : CheckKey} (h : ¬ Records runtime ledger request key) :
    storedCount (recordStep runtime ledger request) key = storedCount ledger key := by
  rcases recordStep_cases runtime request ledger with ⟨-, hsame⟩ | ⟨hreturns, hrecorded⟩
  · rw [hsame]
  · exact hrecorded.storedCount_of_not_covers fun covers => h ⟨hreturns, covers⟩

variable (runtime) in
theorem summed_recordStep {year : ℤ} (kept : Summed ledger year) :
    Summed (recordStep runtime ledger request) year := by
  rcases recordStep_cases runtime request ledger with ⟨-, hsame⟩ | ⟨-, hrecorded⟩
  · rw [hsame]
    exact kept
  · by_cases hyear : year ∈ sourceYears request.rows
    · exact hrecorded.summed hyear
    · exact hrecorded.summed_kept hyear kept

variable (runtime) in
theorem summed_recordStep_of_returns {year : ℤ} (returns : Returns runtime ledger request)
    (hyear : request.HasYear year) : Summed (recordStep runtime ledger request) year := by
  rcases recordStep_cases runtime request ledger with ⟨hraises, -⟩ | ⟨-, hrecorded⟩
  · exact absurd returns hraises
  · exact hrecorded.summed ((mem_sourceYears_iff hrecorded.preflight).mpr hyear)

/-! ### Every run -/

variable (runtime) in
/-- A count that no call of a run records is the count at its start. -/
theorem storedCount_run {key : CheckKey} {requests : List (RecordRequest Geometry)}
    (unrecorded : Along (recordStep runtime)
      (fun ledger request => ¬ Records runtime ledger request key) ledger requests) :
    storedCount (run (recordStep runtime) ledger requests) key = storedCount ledger key := by
  have hstep : ∀ after request, storedCount after key = storedCount ledger key →
      ¬ Records runtime after request key →
      storedCount (recordStep runtime after request) key = storedCount ledger key :=
    fun _ _ hafter hother => (storedCount_recordStep runtime hother).trans hafter
  exact run_invariant_of_along hstep rfl unrecorded

variable (runtime) in
/-- Once a call for a year has returned, the checked cells of that year stay sums. -/
theorem summed_run {start : CoverageLedger} {before later : List (RecordRequest Geometry)} {year : ℤ}
    (returns : Returns runtime (run (recordStep runtime) start before) request)
    (hyear : request.HasYear year) :
    Summed (run (recordStep runtime) start (before ++ request :: later)) year := by
  rw [run_append, run_cons]
  have hstep : ∀ (ledger : CoverageLedger) (next : RecordRequest Geometry), Summed ledger year →
      Summed (recordStep runtime ledger next) year := fun _ _ => summed_recordStep runtime
  exact run_invariant hstep (summed_recordStep_of_returns runtime returns hyear) later

/-- A run of calls, told by the ledger at its end. -/
structure TellsLatest (runtime : CoverageRuntime Geometry) (start : CoverageLedger)
    (requests : List (RecordRequest Geometry)) : Prop where
  -- the latest call that recorded a county and year of a source gives its count
  latest : ∀ key before request later, requests = before ++ request :: later →
    Records runtime (run (recordStep runtime) start before) request key →
    Along (recordStep runtime) (fun ledger next => ¬ Records runtime ledger next key)
      (run (recordStep runtime) start (before ++ [request])) later →
    storedCount (run (recordStep runtime) start requests) key = some (request.countOf runtime key)
  unrecorded : ∀ key,
    Along (recordStep runtime) (fun ledger next => ¬ Records runtime ledger next key) start requests →
    storedCount (run (recordStep runtime) start requests) key = storedCount start key
  cells : ∀ before request later year, requests = before ++ request :: later →
    Returns runtime (run (recordStep runtime) start before) request → request.HasYear year →
    Summed (run (recordStep runtime) start requests) year
  raised : ∀ before request later, requests = before ++ request :: later →
    ¬ Returns runtime (run (recordStep runtime) start before) request →
    run (recordStep runtime) start (before ++ [request]) = run (recordStep runtime) start before

theorem ledger_tellsLatest (runtime : CoverageRuntime Geometry) (start : CoverageLedger)
    (requests : List (RecordRequest Geometry)) : TellsLatest runtime start requests where
  latest := by
    rintro key before request later rfl records unrecorded
    have hlater := storedCount_run runtime unrecorded
    have hrecorded := storedCount_recordStep_of_records runtime records
    rw [run_append, run_cons, run_nil] at hlater
    rw [run_append, run_cons]
    exact hlater.trans hrecorded
  unrecorded := fun _ => storedCount_run runtime
  cells := by
    rintro before request later year rfl returns hyear
    exact summed_run runtime returns hyear
  raised := by
    rintro before request later rfl raises
    rw [run_append, run_cons, run_nil]
    rcases recordStep_cases runtime request (run (recordStep runtime) start before) with
      ⟨-, hsame⟩ | ⟨returns, -⟩
    · exact hsame
    · exact absurd returns raises

/-! ### A year that leaves the snapshot -/

/-- What the last snapshot alone would tell. -/
def DescribesSnapshot (runtime : CoverageRuntime Geometry) (ledger : CoverageLedger)
    (request : RecordRequest Geometry) : Prop :=
  ∀ boundary ∈ request.boundaries, ∀ year, historicalCoverageStartYear ≤ year →
    year ≤ historicalCoverageEndYear →
      let key : CheckKey := ⟨boundary.jurisdictionCode, year, request.adapterKey⟩
      storedCount ledger key = some (request.countOf runtime key)

end Runs

namespace Rolling

def nstc : String := "official.nstc.flood_disaster_points"

/-- Counties are single places, each covered by its own boundary. -/
def runtime : CoverageRuntime ℕ where
  gis :=
    { geometryType := fun _ => .point
      subdivide := fun geom => [geom]
      covers := fun boundary geom => boundary = geom
      overlaps := fun _ _ => false
      distance := fun boundary geom => if boundary = geom then 0 else 1000 }
  sha256 := id

/-- `realtime_jurisdictions`. -/
def codes : List String :=
  ["63000000", "65000000", "68000000", "66000000", "67000000", "64000000", "10017000", "10018000",
    "10020000", "10004000", "10005000", "10007000", "10008000", "10009000", "10010000", "10013000",
    "10002000", "10015000", "10014000", "10016000", "09020000", "09007000"]

theorem codes_distinct : codes.Nodup := by decide +kernel

def boundary (county : String × ℕ) : JurisdictionBoundary ℕ := ⟨1, county.1, county.2, ""⟩

def report (id year : ℕ) : StagedReport ℕ where
  id := id
  rawSnapshotId := some id
  sourceId := some "point-a"
  eventType := .floodReport
  occurredAt := some ⟨year, "12-31"⟩
  validationStatus := .accepted
  evidenceId := none
  geometryPayload := .object (some 0)
  createdAt := 0

def sources : SnapshotSources ℕ where
  rawSnapshots := ⟨[⟨1, none, nstc, "raw-1"⟩, ⟨2, none, nstc, "raw-2"⟩], by decide⟩
  staging := ⟨[report 1 2018, report 2 2019], by decide⟩
  boundaryTables :=
    { snapshots := ⟨[⟨1, 22, 22, some "a", some "a", true, some 0, some "reviewed", true⟩], by decide⟩
      boundaries :=
        { rows := codes.zipIdx.map boundary
          keysNodup := by
            have hkeys := codes_distinct.map (Prod.mk_right_injective 1)
            rw [← List.zipIdx_map_fst 0 codes, List.map_map] at hkeys
            rw [List.map_map]
            exact hkeys }
      oneActive := by
        intro s hs t ht _ _
        rw [List.mem_singleton.mp hs, List.mem_singleton.mp ht] }

def first : RecordRequest ℕ := ⟨sources, 100, nstc, "raw-1", .aware 10⟩

def second : RecordRequest ℕ := ⟨sources, 100, nstc, "raw-2", .aware 20⟩

/-- The cells that the migrations seed. -/
def start : CoverageLedger where
  cells :=
    { rows := (codes ×ˢ (List.range 15)).map fun pair =>
        { jurisdictionCode := pair.1, coverageYear := 2012 + (pair.2 : ℤ), updatedAt := 0 }
      keysNodup := by
        rw [List.map_map]
        refine (codes_distinct.product List.nodup_range).map ?_
        rintro ⟨code, n⟩ ⟨otherCode, m⟩ h
        obtain ⟨hcode, hyear⟩ := CellKey.mk.inj h
        exact Prod.ext hcode (by simpa using hyear) }
  checks := Table.empty
  covered := fun _ h => absurd h (Table.not_mem_empty _)

def key : CheckKey := ⟨"63000000", 2018, nstc⟩

theorem first_returns :
    (recordSuccess runtime first start).1 = .ok ⟨nstc, [2018], 22, 1, 0⟩ := by decide +kernel

theorem second_returns : (recordSuccess runtime second (recordStep runtime start first)).1 =
    .ok ⟨nstc, [2019], 22, 1, 0⟩ := by decide +kernel

theorem first_stored : storedCount (recordStep runtime start first) key = some 1 := by
  decide +kernel

theorem second_years : ∀ row ∈ acceptedRowCandidates second.sources second.rawRef second.adapterKey,
    row.coverageYear = 2019 := by decide +kernel

theorem second_has_no_row : second.countOf runtime key = 0 := by
  have hnone : countedRows runtime.gis second.sources second.rawRef second.adapterKey
      key.jurisdictionCode key.coverageYear = ∅ := by
    refine Set.eq_empty_of_forall_notMem ?_
    rintro row ⟨hrow, -, hyear, -⟩
    rw [second_years row hrow] at hyear
    exact absurd hyear (by decide)
  rw [RecordRequest.countOf, hnone, Set.ncard_empty]

/-- The second snapshot has no row of 2018, and the count of the first stays. -/
theorem dropped_year_keeps_its_count :
    first.assessedAt = .aware 10 ∧ second.assessedAt = .aware 20 ∧
      Returns runtime start first ∧ Returns runtime (run (recordStep runtime) start [first]) second ∧
      storedCount (run (recordStep runtime) start [first, second]) key = some 1 ∧
      ¬ DescribesSnapshot runtime (run (recordStep runtime) start [first, second]) second := by
  have hother : ¬ Records runtime (recordStep runtime start first) second key := by
    rintro ⟨-, -, -, row, hrow, -, hyear⟩
    rw [second_years row hrow] at hyear
    exact absurd hyear (by decide)
  have hstored := (storedCount_recordStep runtime hother).trans first_stored
  rw [run_cons, run_cons, run_nil, run_cons, run_nil]
  refine ⟨rfl, rfl, ⟨_, first_returns⟩, ⟨_, second_returns⟩, hstored, ?_⟩
  intro hdescribes
  have hboundary : boundary ("63000000", 0) ∈ second.boundaries := by
    have hmem : ("63000000", 0) ∈ codes.zipIdx := List.mem_cons_self
    have hactive : second.boundaries = codes.zipIdx.map boundary := by
      rfl
    exact hactive ▸ List.mem_map_of_mem hmem
  have hcount := hdescribes (boundary ("63000000", 0)) hboundary 2018 (by decide) (by decide)
  have hzero : storedCount (recordStep runtime (recordStep runtime start first) second) key =
      some (second.countOf runtime key) := hcount
  rw [hstored, second_has_no_row] at hzero
  exact absurd hzero (by decide)

end Rolling

end FloodRisk.History
