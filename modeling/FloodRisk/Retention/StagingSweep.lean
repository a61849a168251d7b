import FloodRisk.Lib.OrderBy
import FloodRisk.Promotion.Store

/-!
# The accepted-staging sweep (workers jobs/evidence_retention.py)

`_sweep_accepted_staging` walks `created_at` in windows behind a watermark that
the process keeps between cycles.  What the database does with each statement
(it commits, times out, fails) and the rows that arrive meanwhile are inputs.
-/

namespace FloodRisk.Retention
open Promotion (ValidationStatus)

/-! ### `cadence_for_adapter`, `orphan_prunable_source_ids` -/

inductive FreshnessCadence where
  | realtime | event | static | legacy
  deriving DecidableEq, Repr

def realtimeAdapterKeys : List String :=
  ["official.cwa.rainfall", "official.cwa.tide_level", "official.wra.water_level",
    "official.wra_iow.flood_depth", "official.civil_iot.flood_sensor",
    "official.civil_iot.river_water_level", "official.civil_iot.pond_water_level",
    "official.civil_iot.sewer_water_level", "official.civil_iot.pump_water_level",
    "official.civil_iot.gate_water_level", "local.taipei.sewer_water_level",
    "local.taipei.river_water_level", "local.taipei.pump_station", "local.taoyuan.flood_sensor",
    "local.taoyuan.water_level", "local.taoyuan.rainfall", "local.chiayi_city.water_level",
    "local.chiayi_city.rainfall", "local.taichung.water_level", "local.tainan.flood_sensor"]

def staticSlowCadenceAdapterKeys : List String :=
  ["official.wra.historical_flood", "official.nstc.flood_disaster_points",
    "official.flood_potential.geojson"]

def warningEventAdapterKeys : List String :=
  ["official.cwa.heavy_rain_warning", "official.ncdr.cap"]

def historicalCoverageAdapterKeys : List String :=
  ["official.nstc.flood_disaster_points", "official.wra.historical_flood"]

def cadenceForAdapter (adapterKey : String) : FreshnessCadence :=
  if adapterKey ∈ staticSlowCadenceAdapterKeys then .static
  else if adapterKey ∈ warningEventAdapterKeys then .event
  else if adapterKey ∈ realtimeAdapterKeys then .realtime
  else .legacy

def orphanPrunableCadences : List FreshnessCadence := [.realtime, .legacy]

def isOrphanPrunableAdapter (adapterKey : String) : Bool :=
  if adapterKey ∈ historicalCoverageAdapterKeys then false
  else cadenceForAdapter adapterKey ∈ orphanPrunableCadences

/-- `(id, adapter_key)` of a row of `data_sources`. -/
abbrev SourceRow := Option String × Option String

def prunableSourceId : SourceRow → Option String
  | (some sourceId, some adapterKey) =>
      if isOrphanPrunableAdapter adapterKey then some sourceId else none
  | _ => none

def orphanPrunableSourceIds (sources : List SourceRow) : List String :=
  (sources.filterMap prunableSourceId).eraseDups

theorem mem_orphanPrunableSourceIds {sources : List SourceRow} {sourceId : String} :
    sourceId ∈ orphanPrunableSourceIds sources ↔
      ∃ adapterKey, (some sourceId, some adapterKey) ∈ sources ∧
        isOrphanPrunableAdapter adapterKey = true := by
  rw [orphanPrunableSourceIds, List.mem_eraseDups, List.mem_filterMap]
  constructor
  · rintro ⟨⟨id, key⟩, hmem, hid⟩
    cases id with
    | none => simp [prunableSourceId] at hid
    | some id =>
        cases key with
        | none => simp [prunableSourceId] at hid
        | some key =>
            by_cases hprunable : isOrphanPrunableAdapter key = true
            · simp only [prunableSourceId, hprunable, if_true] at hid
              exact ⟨key, Option.some.inj hid ▸ hmem, hprunable⟩
            · simp [prunableSourceId, hprunable] at hid
  · rintro ⟨key, hmem, hprunable⟩
    exact ⟨_, hmem, by simp only [prunableSourceId, hprunable, if_true]⟩

/-- The adapters whose old rows `jobs/historical_coverage.py` reads are spared,
whatever their cadence. -/
theorem historical_coverage_is_spared {adapterKey : String}
    (h : adapterKey ∈ historicalCoverageAdapterKeys) :
    isOrphanPrunableAdapter adapterKey = false := if_pos h

/-! ### The statements -/

/-- The columns of `staging_evidence` that the sweep reads. -/
structure StagingRow where
  id : ℕ
  dataSourceId : Option String
  validationStatus : ValidationStatus
  createdAt : ℤ
  deriving DecidableEq

abbrev StagingTable := Table StagingRow.id

def insertRows (staging : StagingTable) (rows : List StagingRow) : StagingTable :=
  rows.foldl (fun table row => (table.insertNew row).getD table) staging

/-- The rows of `data_sources`, and whether an evidence row carries the
`staging_evidence_id`. -/
structure SweepEnvironment where
  sources : List SourceRow
  referenced : ℕ → Bool

def SweepEnvironment.sourceIds (env : SweepEnvironment) : List String :=
  orphanPrunableSourceIds env.sources

def StagingRow.orphaned (env : SweepEnvironment) (row : StagingRow) : Bool :=
  row.validationStatus = .accepted && row.dataSourceId.any (· ∈ env.sourceIds) &&
    !env.referenced row.id

def oldestAcceptedCreatedAt (staging : StagingTable) : Option ℤ :=
  ((staging.rows.filter fun row => row.validationStatus = .accepted).map
    StagingRow.createdAt).min?

/-- The rows that one `DELETE` selects. -/
def acceptedBatch (env : SweepEnvironment) (staging : StagingTable) (windowStart windowEnd : ℤ)
    (batchSize : ℕ) : List StagingRow :=
  limitBy (fun a b => decide (a.createdAt ≤ b.createdAt)) batchSize
    (staging.rows.filter fun row =>
      row.orphaned env && decide (windowStart ≤ row.createdAt) && decide (row.createdAt < windowEnd))

def deleteRows (staging : StagingTable) (rows : List StagingRow) : StagingTable :=
  staging.deleteWhere fun row => row.id ∈ rows.map StagingRow.id

theorem mem_acceptedBatch {env : SweepEnvironment} {staging : StagingTable}
    {windowStart windowEnd : ℤ} {batchSize : ℕ} {row : StagingRow}
    (h : row ∈ acceptedBatch env staging windowStart windowEnd batchSize) :
    row ∈ staging ∧ row.orphaned env = true ∧ windowStart ≤ row.createdAt ∧
      row.createdAt < windowEnd := by
  obtain ⟨hmem, hguard⟩ := List.mem_filter.mp (mem_of_limitBy h)
  rw [Bool.and_eq_true, Bool.and_eq_true, decide_eq_true_eq, decide_eq_true_eq] at hguard
  exact ⟨hmem, hguard.1.1, hguard.1.2, hguard.2⟩

theorem short_batch_clears {env : SweepEnvironment} {staging : StagingTable}
    {windowStart windowEnd : ℤ} {batchSize : ℕ}
    (short : (acceptedBatch env staging windowStart windowEnd batchSize).length < batchSize)
    {row : StagingRow}
    (h : row ∈ deleteRows staging (acceptedBatch env staging windowStart windowEnd batchSize))
    (orphan : row.orphaned env = true) (after : windowStart ≤ row.createdAt) :
    windowEnd ≤ row.createdAt := by
  obtain ⟨hmem, hkept⟩ := Table.mem_deleteWhere.mp h
  by_contra hbefore
  have hselected : row ∈ acceptedBatch env staging windowStart windowEnd batchSize := by
    apply mem_limitBy_of_short short
    refine List.mem_filter.mpr ⟨hmem, ?_⟩
    simp only [orphan, after, decide_true, Bool.and_self, Bool.true_and, decide_eq_true_eq]
    omega
  exact of_decide_eq_false hkept (List.mem_map_of_mem hselected)

theorem mem_insertRows {staging : StagingTable} {rows : List StagingRow} {row : StagingRow}
    (h : row ∈ insertRows staging rows) : row ∈ staging ∨ row ∈ rows := by
  induction rows generalizing staging with
  | nil => exact Or.inl h
  | cons first rest ih =>
      have hrest : row ∈ insertRows ((staging.insertNew first).getD staging) rest := h
      rcases ih hrest with hold | hlater
      · cases hinsert : staging.insertNew first with
        | none =>
            rw [hinsert] at hold
            exact Or.inl hold
        | some table =>
            rw [hinsert] at hold
            rcases (Table.mem_of_insertNew hinsert).mp hold with hbefore | rfl
            · exact Or.inl hbefore
            · exact Or.inr List.mem_cons_self
      · exact Or.inr (List.mem_cons_of_mem _ hlater)

theorem mem_insertRows_of_mem {staging : StagingTable} {rows : List StagingRow} {row : StagingRow}
    (h : row ∈ staging) : row ∈ insertRows staging rows := by
  induction rows generalizing staging with
  | nil => exact h
  | cons first rest ih =>
      have hfirst : row ∈ (staging.insertNew first).getD staging := by
        cases hinsert : staging.insertNew first with
        | none => exact h
        | some table => exact (Table.mem_of_insertNew hinsert).mpr (Or.inl h)
      exact ih hfirst

/-! ### Settings -/

/-- What `prune_staging_evidence` hands on after its checks. -/
structure SweepSettings where
  batchSize : ℕ
  maxBatches : ℕ
  windowSeconds : ℕ
  minWindowSeconds : ℕ
  maxWindowSeconds : ℕ
  min_le : minWindowSeconds ≤ windowSeconds
  le_max : windowSeconds ≤ maxWindowSeconds

def defaultMaxWindowSeconds : ℕ := 86400

/-- The checks of `prune_staging_evidence`; nothing where it raises. -/
def resolveSettings (batchSize maxBatches windowSeconds minWindowSeconds : ℕ)
    (maxWindowSeconds : Option ℕ) : Option SweepSettings :=
  let resolvedMax := maxWindowSeconds.getD (max defaultMaxWindowSeconds windowSeconds)
  if h : 1 ≤ batchSize ∧ 1 ≤ maxBatches ∧ 1 ≤ minWindowSeconds ∧
      minWindowSeconds ≤ windowSeconds ∧ windowSeconds ≤ resolvedMax then
    some ⟨batchSize, maxBatches, windowSeconds, minWindowSeconds, resolvedMax, h.2.2.2.1,
      h.2.2.2.2⟩
  else none

/-! ### One cycle -/

inductive Timeout where
  | statement | lock
  deriving DecidableEq, Repr

inductive StopReason where
  | maxBatches | statementTimeout | lockTimeout | noAdapterSources | caughtUp
  deriving DecidableEq, Repr

def Timeout.stopReason : Timeout → StopReason
  | .statement => .statementTimeout
  | .lock => .lockTimeout

inductive Outcome where
  | committed
  | timedOut (timeout : Timeout)
  | failed
  deriving DecidableEq

/-- The rows that arrived since the last statement, and how this one ends. -/
structure Attempt where
  inserts : List StagingRow
  outcome : Outcome

/-- One issued `DELETE`: its window and the rows it deleted. -/
structure AttemptRecord where
  windowSeconds : ℕ
  windowEnd : ℤ
  deleted : List StagingRow

/-- The variables of the loop; `attempts` records the statements issued. -/
structure SweepCursor where
  staging : StagingTable
  watermark : ℤ
  window : ℕ
  batches : ℕ
  deletedRows : ℕ
  attempts : List AttemptRecord

inductive SweepExit where
  | stopped (reason : StopReason)
  | raised
  deriving DecidableEq

def windowEnd (cutoff : ℤ) (s : SweepCursor) : ℤ :=
  min (s.watermark + (s.window : ℤ) * 1000000) cutoff

/-- The body of the `while` loop. -/
def sweepBatch (env : SweepEnvironment) (settings : SweepSettings) (cutoff : ℤ)
    (attempt : Attempt) (s : SweepCursor) : SweepCursor × Option SweepExit :=
  if cutoff ≤ s.watermark then (s, some (.stopped .caughtUp))
  else
    let upper := windowEnd cutoff s
    let staging := insertRows s.staging attempt.inserts
    match attempt.outcome with
    | .failed =>
        ({ s with staging := staging, attempts := s.attempts ++ [⟨s.window, upper, []⟩] },
          some .raised)
    | .timedOut timeout =>
        let tried : SweepCursor :=
          { s with
            staging := staging
            batches := s.batches + 1
            attempts := s.attempts ++ [⟨s.window, upper, []⟩] }
        if timeout ≠ .statement ∨ s.window ≤ settings.minWindowSeconds then
          (tried, some (.stopped timeout.stopReason))
        else ({ tried with window := max settings.minWindowSeconds (s.window / 2) }, none)
    | .committed =>
        let rows := acceptedBatch env staging s.watermark upper settings.batchSize
        let swept : SweepCursor :=
          { s with
            staging := deleteRows staging rows
            batches := s.batches + 1
            deletedRows := s.deletedRows + rows.length
            attempts := s.attempts ++ [⟨s.window, upper, rows⟩] }
        if settings.batchSize ≤ rows.length then
          ({ swept with window := min s.window settings.windowSeconds }, none)
        else
          let ceiling :=
            if rows.length = 0 then settings.maxWindowSeconds else settings.windowSeconds
          ({ swept with watermark := upper, window := min ceiling (s.window * 2) }, none)

/-- `remaining` is `max_batches - batches`. -/
def sweepLoop (env : SweepEnvironment) (settings : SweepSettings) (cutoff : ℤ)
    (attempts : ℕ → Attempt) : ℕ → SweepCursor → SweepCursor × SweepExit
  | 0, s => (s, .stopped .maxBatches)
  | remaining + 1, s =>
      match sweepBatch env settings cutoff (attempts s.batches) s with
      | (s', some exit) => (s', exit)
      | (s', none) => sweepLoop env settings cutoff attempts remaining s'

structure SweepState where
  staging : StagingTable
  watermark : Option ℤ
  windowSeconds : Option ℕ

structure SweepCycle where
  cutoff : ℤ
  settings : SweepSettings
  sourcesRead : Outcome
  oldestRead : Outcome
  attempts : ℕ → Attempt

structure AcceptedSweepResult where
  deletedRows : ℕ
  batches : ℕ
  stoppedReason : StopReason
  sourceCount : ℕ
  watermark : Option ℤ
  windowSeconds : ℕ
  deriving DecidableEq

def Outcome.read {α : Type} (outcome : Outcome) (value : α) : Except (Option Timeout) α :=
  match outcome with
  | .committed => .ok value
  | .timedOut timeout => .error (some timeout)
  | .failed => .error none

/-- The two setup reads; the watermark is read only when the process has none. -/
def setupReads (env : SweepEnvironment) (cycle : SweepCycle) (s : SweepState) :
    Except (Option Timeout) (List String × Option ℤ) := do
  let sourceIds ← cycle.sourcesRead.read env.sourceIds
  match s.watermark with
  | some watermark => pure (sourceIds, some watermark)
  | none =>
      let oldest ← cycle.oldestRead.read (oldestAcceptedCreatedAt s.staging)
      pure (sourceIds, oldest)

def initialWindow (settings : SweepSettings) (carried : Option ℕ) : ℕ :=
  min settings.maxWindowSeconds (max settings.minWindowSeconds
    ((carried.filter (· ≠ 0)).getD settings.windowSeconds))

/-- The state after the cycle, the deletes it issued and its result; no result
where it raises. -/
def sweepAcceptedStaging (env : SweepEnvironment) (cycle : SweepCycle) (s : SweepState) :
    SweepState × List AttemptRecord × Option AcceptedSweepResult :=
  let window := initialWindow cycle.settings s.windowSeconds
  match setupReads env cycle s with
  | .error none => (s, [], none)
  | .error (some timeout) => (s, [], some ⟨0, 0, timeout.stopReason, 0, s.watermark, window⟩)
  | .ok (sourceIds, watermark) =>
      if sourceIds = [] then (s, [], some ⟨0, 0, .noAdapterSources, 0, watermark, window⟩)
      else
        match watermark with
        | none => (s, [], some ⟨0, 0, .caughtUp, sourceIds.length, none, window⟩)
        | some watermark =>
            match sweepLoop env cycle.settings cycle.cutoff cycle.attempts
                cycle.settings.maxBatches ⟨s.staging, watermark, window, 0, 0, []⟩ with
            | (swept, .raised) => ({ s with staging := swept.staging }, swept.attempts, none)
            | (swept, .stopped reason) =>
                (⟨swept.staging, some swept.watermark, some swept.window⟩, swept.attempts,
                  some ⟨swept.deletedRows, swept.batches, reason, sourceIds.length,
                    some swept.watermark, swept.window⟩)

end FloodRisk.Retention
