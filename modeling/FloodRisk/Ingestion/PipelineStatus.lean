import FloodRisk.Ingestion.RunWriter
import FloodRisk.Lib.Generations
import FloodRisk.Promotion.Staging
import Mathlib.Data.Int.ConditionallyCompleteOrder

/-!
# Overlapping cycles and the pipeline columns

A cycle writes summaries and pipeline statuses, each in a transaction of its
own.  A summary of a failed batch sets the pipeline columns under the check for
newer jobs only; a pipeline status is also compared with the stored `run_at`.
-/

namespace FloodRisk.Ingestion
open Promotion Transition Generations

/-! ### The row of one source -/

theorem hasNewerJob_append (jobs : List IngestionJob) (summary : AdapterBatchRunSummary)
    (createdAt : ℤ) (adapterKey : String) :
    hasNewerJob (jobs ++ [ingestionJob summary createdAt]) adapterKey summary.startedAt =
      hasNewerJob jobs adapterKey summary.startedAt := by
  simp only [hasNewerJob, List.any_append, List.any_cons, List.any_nil, ingestionJob,
    Option.getD_some, gt_iff_lt, lt_irrefl, decide_false, Bool.and_false, Bool.or_false]

theorem find_writeSummary (summary : AdapterBatchRunSummary) (createdAt : ℤ) (db : Database)
    (key : String) :
    (writeSummary summary createdAt db).dataSources.find key =
      (db.dataSources.find key).map fun source =>
        if key = summary.adapterKey ∧ hasNewerJob db.ingestionJobs key summary.startedAt = false
        then healthColumns summary source else source := by
  unfold writeSummary updateDataSourceHealth
  simp only [Table.find_update, hasNewerJob_append]
  cases hfind : db.dataSources.find key with
  | none => rfl
  | some source =>
      have hkey : source.adapterKey = key := (Table.find_eq_some_iff.mp hfind).2
      simp only [Option.map_some, hkey]

theorem find_writePipelineStatus {outcome : PipelineOutcome} {db next : Database}
    (h : writePipelineStatus outcome db = .ok next) (key : String) :
    next.dataSources.find key =
      (db.dataSources.find key).map fun source =>
        if acceptsOutcome db outcome source then pipelineColumns outcome source else source := by
  unfold writePipelineStatus at h
  split at h
  · rename_i hempty
    cases h
    cases hfind : db.dataSources.find key with
    | none => rfl
    | some source =>
        have hrefused : acceptsOutcome db outcome source = false := by
          simp only [acceptsOutcome, hempty, List.not_mem_nil, decide_false, Bool.false_and]
        simp only [Option.map_some, hrefused, Bool.false_eq_true, if_false]
  · split at h
    · exact absurd h (by simp)
    · cases h
      simp only [Table.find_update]

/-! ### Writes of overlapping cycles -/

inductive StatusWrite where
  | summary (summary : AdapterBatchRunSummary) (createdAt : ℤ)
  | outcome (outcome : PipelineOutcome)

/-- A refused outcome raises before its transaction and changes nothing. -/
def statusStep (db : Database) : StatusWrite → Database
  | .summary summary createdAt => writeSummary summary createdAt db
  | .outcome outcome =>
      match writePipelineStatus outcome db with
      | .ok next => next
      | .error _ => db

/-- `runtime_pipeline_run_at` of the source. -/
def pipelineRunAt (key : String) (db : Database) : Option ℤ :=
  (db.dataSources.find key).bind DataSource.runtimePipelineRunAt

def recordedGeneration (key : String) (db : Database) : StatusWrite → Option ℤ
  | .summary summary _ =>
      (db.dataSources.find key).bind fun _ =>
        if summary.status = .failed ∧ key = summary.adapterKey ∧
            hasNewerJob db.ingestionJobs key summary.startedAt = false
        then some summary.startedAt else none
  | .outcome outcome =>
      (db.dataSources.find key).bind fun source =>
        if pipelineOutcomeError outcome = none ∧ acceptsOutcome db outcome source = true
        then some outcome.runAt else none

/-- The write stores `succeeded` or a new `active_snapshot_raw_ref`. -/
def recordsSuccess : StatusWrite → Bool
  | .summary _ _ => false
  | .outcome outcome => outcome.status = .succeeded || outcome.activeSnapshotRawRef.isSome

theorem pipelineOutcomeError_of_ok {outcome : PipelineOutcome} {db next : Database}
    (h : writePipelineStatus outcome db = .ok next) :
    outcome.adapterKeys = [] ∨ pipelineOutcomeError outcome = none := by
  unfold writePipelineStatus at h
  split at h
  · rename_i hempty
    exact Or.inl hempty
  · split at h
    · exact absurd h (by simp)
    · rename_i hnone
      exact Or.inr hnone

theorem stored_pipelineRunAt (key : String) :
    Stored statusStep (pipelineRunAt key) (recordedGeneration key) := by
  refine ⟨?_⟩
  intro db write
  unfold pipelineRunAt
  cases write with
  | summary summary createdAt =>
      simp only [statusStep, find_writeSummary, recordedGeneration]
      cases db.dataSources.find key with
      | none => rfl
      | some source =>
          simp only [Option.map_some, Option.bind_some]
          by_cases hwrites : key = summary.adapterKey ∧
              hasNewerJob db.ingestionJobs key summary.startedAt = false
          · rw [if_pos hwrites]
            by_cases hfailed : summary.status = .failed
            · rw [if_pos ⟨hfailed, hwrites⟩]
              simp only [healthColumns, hfailed, decide_true, if_true, Option.some_or]
            · rw [if_neg fun h => hfailed h.1]
              simp only [healthColumns, hfailed, decide_false, Bool.false_eq_true, if_false,
                Option.none_or]
          · rw [if_neg hwrites, if_neg fun h => hwrites h.2, Option.none_or]
  | outcome outcome =>
      simp only [statusStep, recordedGeneration]
      cases hwrite : writePipelineStatus outcome db with
      | error message =>
          simp only
          have herror : pipelineOutcomeError outcome ≠ none := by
            intro hnone
            unfold writePipelineStatus at hwrite
            split at hwrite
            · exact absurd hwrite (by simp)
            · simp only [hnone] at hwrite
              exact absurd hwrite (by simp)
          cases db.dataSources.find key with
          | none => rfl
          | some source =>
              simp only [Option.bind_some]
              rw [if_neg fun h => herror h.1, Option.none_or]
      | ok next =>
          simp only [find_writePipelineStatus hwrite]
          cases db.dataSources.find key with
          | none => rfl
          | some source =>
              simp only [Option.map_some, Option.bind_some]
              by_cases haccepts : acceptsOutcome db outcome source = true
              · have hnone : pipelineOutcomeError outcome = none := by
                  rcases pipelineOutcomeError_of_ok hwrite with hempty | hnone
                  · simp [acceptsOutcome, hempty] at haccepts
                  · exact hnone
                rw [if_pos haccepts, if_pos ⟨hnone, haccepts⟩]
                simp only [pipelineColumns, Option.some_or]
              · rw [if_neg haccepts, if_neg fun h => haccepts h.2, Option.none_or]

/-! ### Generations of the recorded outcomes -/

/-- No failed summary that passes the check for newer jobs is older than the
stored `run_at` of its source. -/
def FailsForward (key : String) (db : Database) : StatusWrite → Prop
  | .summary summary _ =>
      summary.status = .failed → summary.adapterKey = key →
        hasNewerJob db.ingestionJobs key summary.startedAt = false →
        ∀ runAt ∈ pipelineRunAt key db, runAt ≤ summary.startedAt
  | .outcome _ => True

theorem forward_iff_failsForward (key : String) (db : Database) (write : StatusWrite) :
    Forward (pipelineRunAt key) (recordedGeneration key) db write ↔ FailsForward key db write := by
  unfold Forward pipelineRunAt
  cases write with
  | summary summary createdAt =>
      simp only [FailsForward, recordedGeneration, pipelineRunAt]
      cases db.dataSources.find key with
      | none => simp
      | some source =>
          simp only [Option.bind_some]
          constructor
          · intro h hfailed hkey hnewest runAt hstored
            exact h runAt hstored summary.startedAt (if_pos ⟨hfailed, hkey.symm, hnewest⟩)
          · intro h runAt hstored generation hrecorded
            by_cases hwrites : summary.status = .failed ∧ key = summary.adapterKey ∧
                hasNewerJob db.ingestionJobs key summary.startedAt = false
            · rw [if_pos hwrites] at hrecorded
              have heq : summary.startedAt = generation := Option.some.inj hrecorded
              exact heq ▸ h hwrites.1 hwrites.2.1.symm hwrites.2.2 runAt hstored
            · rw [if_neg hwrites] at hrecorded
              exact absurd hrecorded (by simp)
  | outcome outcome =>
      simp only [FailsForward, iff_true, recordedGeneration]
      intro runAt hstored generation hrecorded
      cases hfind : db.dataSources.find key with
      | none => simp [hfind] at hstored
      | some source =>
          simp only [hfind, Option.bind_some] at hstored hrecorded
          by_cases haccepts : pipelineOutcomeError outcome = none ∧
              acceptsOutcome db outcome source = true
          · rw [if_pos haccepts] at hrecorded
            have heq : outcome.runAt = generation := Option.some.inj hrecorded
            have hguard := haccepts.2
            simp only [acceptsOutcome, Bool.and_eq_true, Option.all_eq_true] at hguard
            have hle := hguard.1.2 runAt hstored
            rw [← heq]
            exact of_decide_eq_true hle
          · rw [if_neg haccepts] at hrecorded
            exact absurd hrecorded (by simp)

/-- `run_at` never decreases, and no success is recorded for a cycle older than
an outcome recorded before it. -/
structure KeepsGenerations (key : String) (db : Database) (writes : List StatusWrite) : Prop where
  runAt : Along statusStep (NeverDecreases statusStep (pipelineRunAt key)) db writes
  successes : ∀ earlier write later, writes = earlier ++ write :: later →
    recordsSuccess write = true →
    ∀ generation ∈ recordedGeneration key (run statusStep db earlier) write,
    ∀ recordedBefore ∈ recorded statusStep (recordedGeneration key) db earlier,
      recordedBefore ≤ generation

/-- The writes of any overlapping cycles keep the generations of a source
exactly when every failed summary among them moves forward. -/
theorem keepsGenerations_iff_failsForward (key : String) (db : Database)
    (writes : List StatusWrite) :
    KeepsGenerations key db writes ↔ Along statusStep (FailsForward key) db writes := by
  have law := stored_pipelineRunAt key
  constructor
  · intro h
    refine h.runAt.mono ?_
    intro state write hnever
    exact (forward_iff_failsForward key state write).mp
      ((forward_iff_neverDecreases law state write).mpr hnever)
  · intro along
    have hforward : Along statusStep (Forward (pipelineRunAt key) (recordedGeneration key)) db
        writes :=
      along.mono fun state write h => (forward_iff_failsForward key state write).mpr h
    refine ⟨hforward.mono ?_, ?_⟩
    · intro state write h
      exact (forward_iff_neverDecreases law state write).mp h
    · intro earlier write later heq _ generation hrecorded
      rw [heq] at hforward
      exact recorded_le_of_forward law hforward hrecorded

/-! ### A failure before its fetch, and two older cycles -/

def cataloguedSource : Database := catalogued ["official.cwa.rainfall"]

def pollSummary (status : AdapterBatchStatus) (startedAt : ℤ) : AdapterBatchRunSummary :=
  { adapterKey := "official.cwa.rainfall"
    status := status
    startedAt := startedAt
    finishedAt := startedAt + 5
    itemsFetched := 0
    itemsPromoted := 0
    itemsRejected := 0 }

def pollOutcome (status : PipelineStatus) (runAt : ℤ) : PipelineOutcome :=
  { adapterKeys := ["official.cwa.rainfall"]
    status := status
    complete := status = .succeeded
    checkedAt := runAt + 10
    runAt := runAt }

/-- The cycle of generation 300 fails before its fetch; the batch of the cycle
100 fails after it, and the cycle 200 succeeds. -/
def overlappingCycles : List StatusWrite :=
  [.outcome (pollOutcome .failed 300), .summary (pollSummary .failed 100) 105,
    .summary (pollSummary .succeeded 200) 205, .outcome (pollOutcome .succeeded 200)]

/-- The failed batch takes `run_at` back to 100, and the success of the cycle
200 replaces the failure of the cycle 300. -/
theorem older_success_replaces_newer_failure :
    ¬ KeepsGenerations "official.cwa.rainfall" cataloguedSource overlappingCycles ∧
      (run statusStep cataloguedSource overlappingCycles).dataSources.rows.map
        (fun source => (source.runtimePipelineStatus, source.runtimePipelineRunAt)) =
          [(some .succeeded, some 200)] := by
  refine ⟨?_, by decide +kernel⟩
  intro h
  have hle : (300 : ℤ) ≤ 200 :=
    h.successes (overlappingCycles.take 3) (.outcome (pollOutcome .succeeded 200)) [] rfl
      rfl 200 (by decide +kernel) 300 (by decide +kernel)
  omega

end FloodRisk.Ingestion
