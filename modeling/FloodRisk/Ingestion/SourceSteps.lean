import FloodRisk.Ingestion.BaselineTick
import FloodRisk.Ingestion.SourceView

/-!
# The steps of one source

`Touches` says that a step is about one source; `CycleSpec` is what the tick
relies on after the managed cycle of a source.
-/

namespace FloodRisk.Ingestion
open Promotion

/-! ### Steps about one source -/

/-- The step reads the clock forward, leaves every other source as it was and
logs failures of its own source only. -/
structure Touches (key : String) (before after : TickState) : Prop where
  clock : before.now ≤ after.now
  others : ∀ other, other ≠ key → sourceView other after.db = sourceView other before.db
  logged : ∃ new, after.failures = before.failures ++ new ∧ ∀ failure ∈ new, failure.1 = key
  returned : before.hadFailure = true → after.hadFailure = true

namespace Touches

variable {key : String} {before middle after : TickState}

theorem refl (key : String) (state : TickState) : Touches key state state :=
  ⟨le_refl _, fun _ _ => rfl, ⟨[], by simp, by simp⟩, id⟩

theorem trans (h : Touches key before middle) (k : Touches key middle after) :
    Touches key before after := by
  obtain ⟨first, hfirst, hownFirst⟩ := h.logged
  obtain ⟨second, hsecond, hownSecond⟩ := k.logged
  refine ⟨h.clock.trans k.clock, ?_, ⟨first ++ second, ?_, ?_⟩,
    fun hbefore => k.returned (h.returned hbefore)⟩
  · intro other hother
    rw [k.others other hother, h.others other hother]
  · rw [hsecond, hfirst, List.append_assoc]
  · intro failure hfailure
    rcases List.mem_append.mp hfailure with hmem | hmem
    · exact hownFirst failure hmem
    · exact hownSecond failure hmem

theorem wait (key : String) (elapsed : ℕ) (state : TickState) :
    Touches key state (state.wait elapsed) := by
  refine ⟨?_, fun _ _ => rfl, ⟨[], by simp [TickState.wait], by simp⟩, id⟩
  simp only [TickState.wait]
  omega

theorem fail (key : String) (step : FailedStep) (state : TickState) :
    Touches key state (state.fail key step) :=
  ⟨le_refl _, fun _ _ => rfl, ⟨[(key, step)], rfl, by simp⟩, id⟩

theorem report (key : String) (state : TickState) : Touches key state state.report :=
  ⟨le_refl _, fun _ _ => rfl, ⟨[], by simp [TickState.report], by simp⟩, fun _ => rfl⟩

theorem work (key : String) (step : DataStep) (state : TickState) :
    Touches key state (state.work step) :=
  ⟨le_refl _, fun other _ => sourceView_work step other state.db,
    ⟨[], by simp [TickState.work], by simp⟩, id⟩

theorem recordFailure (key : String) (runAt : ℤ) (errorCode : Option String) (state : TickState) :
    Touches key state (Ingestion.recordFailure key runAt errorCode state) := by
  refine ⟨le_refl _, ?_, ⟨[], by simp [Ingestion.recordFailure, TickState.write], by simp⟩, id⟩
  intro other hother
  rw [sourceView_recordFailure, if_neg hother]

theorem summary (summary : AdapterBatchRunSummary) (createdAt : ℤ) (state : TickState) :
    Touches summary.adapterKey state (state.write (.summary summary createdAt)) := by
  refine ⟨le_refl _, ?_, ⟨[], by simp [TickState.write], by simp⟩, id⟩
  intro other hother
  have hview := sourceView_summary other summary createdAt state.db
  rw [if_neg hother] at hview
  exact hview

theorem recordSuccess {summary : AdapterBatchRunSummary} {recorded : TickState}
    (h : Ingestion.recordSuccess key summary before = .ok recorded) :
    Touches key before recorded ∧ recorded.failures = before.failures := by
  unfold Ingestion.recordSuccess at h
  split at h
  · cases h
    exact ⟨refl key before, rfl⟩
  · unfold recordPipelineStatus at h
    simp only [Option.getD_some] at h
    split at h
    · exact absurd h (by simp)
    · rename_i hvalid
      cases h
      refine ⟨⟨le_refl _, ?_, ⟨[], by simp [TickState.write], by simp⟩, id⟩, rfl⟩
      intro other hother
      have hview := sourceView_outcome other rfl hvalid before.db
      rw [if_neg hother] at hview
      exact hview

end Touches

theorem batchSummary_started (key : String) (run : CycleRun) (startedAt finishedAt : ℤ) :
    (batchSummary key run startedAt finishedAt).adapterKey = key ∧
      (batchSummary key run startedAt finishedAt).startedAt = startedAt := by
  unfold batchSummary
  split <;> exact ⟨rfl, rfl⟩

/-! ### Every step of a source touches that source only -/

section Touching

variable (key : String) (run : CycleRun) (source : SourceRun) (summary : AdapterBatchRunSummary)
  (state : TickState)

theorem touches_runAdapterBatch : Touches key state (runAdapterBatch key run state).2 := by
  let finished := ((state.wait run.untilBatch).work run.staging).wait run.batchTook
  let summary := batchSummary key run (state.wait run.untilBatch).now finished.now
  have hfinished : Touches key state finished :=
    ((Touches.wait key _ state).trans (Touches.work key _ _)).trans (Touches.wait key _ _)
  have hwritten : Touches key finished (finished.write (.summary summary finished.now)) := by
    have hsummary := Touches.summary summary finished.now finished
    rw [(batchSummary_started key run _ _).1] at hsummary
    exact hsummary
  have heq : (runAdapterBatch key run state).2 =
      if summary.status = .failed then
        (finished.write (.summary summary finished.now)).fail key .fetch
      else finished.write (.summary summary finished.now) := rfl
  rw [heq]
  split
  · exact (hfinished.trans hwritten).trans (Touches.fail key .fetch _)
  · exact hfinished.trans hwritten

theorem touches_failedResult (reason errorCode : String) (step : FailedStep) :
    Touches key state (failedResult key reason errorCode step summary state).2 :=
  (Touches.fail key step state).trans (Touches.recordFailure key _ _ _)

theorem touches_promoteWithRetry : Touches key state (promoteWithRetry run state).2 := by
  have hfirst := Touches.work key run.promotion.work state
  unfold promoteWithRetry
  simp only
  split
  · exact hfirst
  · split
    · exact hfirst.trans (Touches.work key _ _)
    · exact hfirst

theorem touches_promoteBatch : Touches key state (promoteBatch key run summary state).2 := by
  unfold promoteBatch
  simp only
  generalize hattempted : (if ((decide (summary.status = .succeeded) ||
      decide (summary.status = .partialBatch)) && summary.rawRef.isSome) = true
    then promoteWithRetry run state else (none, state)) = attempted
  have hpromoted : Touches key state (attempted.2.wait run.untilRecord) := by
    rw [← hattempted]
    split
    · exact (touches_promoteWithRetry key run state).trans (Touches.wait key _ _)
    · exact Touches.wait key _ _
  cases attempted.1 with
  | some errorCode => exact hpromoted.trans (touches_failedResult key summary _ _ errorCode _)
  | none =>
      simp only
      cases hrecorded : recordSuccess key summary (attempted.2.wait run.untilRecord) with
      | error errorCode => exact hpromoted.trans (Touches.fail key .cycle _)
      | ok recorded =>
          have hdone := hpromoted.trans (Touches.recordSuccess hrecorded).1
          simp only
          cases run.raisedLast with
          | some errorCode => exact hdone.trans (Touches.fail key .cycle _)
          | none => exact hdone

theorem touches_finishBatch : Touches key state (finishBatch key run summary state).2 := by
  have hretired := Touches.work key run.retirement.work state
  unfold finishBatch
  simp only
  split
  · cases run.retirement.raised with
    | some errorCode =>
        exact (hretired.trans (Touches.wait key _ _)).trans
          (touches_failedResult key summary _ _ errorCode _)
    | none => exact hretired.trans (touches_promoteBatch key run summary _)
  · exact touches_promoteBatch key run summary state

theorem touches_executeManagedCycle : Touches key state (executeManagedCycle key run state).2 := by
  have hwait := Touches.wait key run.untilCycle state
  unfold executeManagedCycle
  simp only
  cases run.raisedFirst with
  | some errorCode => exact hwait.trans (Touches.fail key .cycle _)
  | none =>
      simp only
      cases run.catalog with
      | disabled => exact hwait
      | unavailable =>
          exact (hwait.trans (Touches.fail key .catalog _)).trans (Touches.recordFailure key _ _ _)
      | enabled =>
          simp only
          cases run.hasDatabase with
          | false => exact hwait
          | true =>
              have hbatch := hwait.trans (touches_runAdapterBatch key run _)
              simp only [Bool.not_true, Bool.false_eq_true, if_false]
              cases run.raisedAfterBatch with
              | some errorCode => exact hbatch.trans (Touches.fail key .cycle _)
              | none => exact hbatch.trans (touches_finishBatch key run _ _)

theorem touches_runBaselineAdapterCycle :
    Touches key state (runBaselineAdapterCycle key run state).2 := by
  unfold runBaselineAdapterCycle
  split
  · exact Touches.fail key .cycle state
  · exact touches_executeManagedCycle key run state

theorem touches_reportedFailure (runAt : ℤ) (errorCode : Option String) :
    Touches key state (recordFailure key runAt errorCode state).report :=
  (Touches.recordFailure key _ _ _).trans (Touches.report key _)

theorem touches_constructSource : Touches key state (constructSource source key state) := by
  have hwait := Touches.wait key source.untilConstruction state
  unfold constructSource
  simp only
  cases source.construction with
  | gatedOff => exact hwait
  | built => exact hwait
  | raised errorCode =>
      exact (hwait.trans (Touches.fail key .construction _)).trans (touches_reportedFailure key _ _ _)

theorem touches_finishSource (sourceStartedAt : ℤ) (result : ManagedRuntimeIngestionResult) :
    Touches key state (finishSource source key sourceStartedAt result state) := by
  have hwait := Touches.wait key source.untilFailure state
  unfold finishSource
  simp only
  split
  · split
    · exact hwait.trans (touches_reportedFailure key _ _ _)
    · exact hwait.trans (Touches.report key _)
  · cases coverageSummary key result with
    | none => exact hwait
    | some summary =>
        have hwork := hwait.trans (Touches.work key source.coverage.work _)
        simp only
        cases source.coverage.raised with
        | none => exact hwork
        | some errorCode =>
            exact (hwork.trans (Touches.fail key .coverage _)).trans
              (touches_reportedFailure key _ _ _)

theorem touches_runSource : Touches key state (runSource source key state) := by
  have hcycle := (Touches.wait key source.untilSource state).trans
    (touches_runBaselineAdapterCycle key source.cycle _)
  unfold runSource
  simp only
  split
  · rename_i errorCode raised heq
    rw [heq] at hcycle
    exact (hcycle.trans (Touches.wait key _ _)).trans (touches_reportedFailure key _ _ _)
  · rename_i result finished heq
    rw [heq] at hcycle
    exact hcycle.trans (touches_finishSource key source _ _ result)

end Touching

/-! ### The cycle -/

/-- What a tick relies on after a cycle that returned. -/
structure Returns (key : String) (before : TickState) (result : ManagedRuntimeIngestionResult)
    (after : TickState) : Prop where
  quiet : result.status ≠ .failed → after.failures = before.failures
  explained : result.status = .failed → pipelineFailed result = true
  stamped : result.status = .failed → ReportsFailure (sourceView key after.db) ∨
    Within (sourceView key after.db) (sourceFailureRunAt result.summaries key before.now)
  stamp : sourceFailureRunAt result.summaries key before.now ≤ after.now
  started : ∀ summary ∈ result.summaries,
    Within (sourceView key after.db) summary.startedAt ∧ summary.startedAt ≤ after.now

structure CycleSpec (key : String) (before : TickState)
    (outcome : Except String ManagedRuntimeIngestionResult × TickState) : Prop where
  within : Within (sourceView key outcome.2.db) outcome.2.now
  returns : ∀ result, outcome.1 = .ok result → Returns key before result outcome.2

/-- The state after a batch whose summary was written. -/
structure Batched (key : String) (before : TickState) (summary : AdapterBatchRunSummary)
    (state : TickState) : Prop where
  adapterKey : summary.adapterKey = key
  within : Within (sourceView key state.db) summary.startedAt
  clock : summary.startedAt ≤ state.now
  quiet : summary.status ≠ .failed → state.failures = before.failures

theorem sourceFailureRunAt_singleton {key : String} {summary : AdapterBatchRunSummary}
    (h : summary.adapterKey = key) (fallback : ℤ) :
    sourceFailureRunAt [summary] key fallback = summary.startedAt := by
  simp only [sourceFailureRunAt, List.filter_cons, h, decide_true, if_true, List.filter_nil,
    List.map_cons, List.map_nil, List.max?_cons, List.max?_nil, Option.elim_none, Option.getD_some]

theorem statusFromCycle_singleton (summary : AdapterBatchRunSummary) :
    statusFromCycle [summary] = .failed ↔ summary.status = .failed := by
  unfold statusFromCycle
  cases h : summary.status <;> simp [h]

namespace Batched

variable {key : String} {run : CycleRun} {before state : TickState}
  {summary : AdapterBatchRunSummary}

theorem work (h : Batched key before summary state) (step : DataStep) :
    Batched key before summary (state.work step) := by
  refine ⟨h.adapterKey, ?_, h.clock, h.quiet⟩
  have hview : sourceView key (state.work step).db = sourceView key state.db :=
    sourceView_work step key state.db
  rw [hview]
  exact h.within

theorem wait (h : Batched key before summary state) (elapsed : ℕ) :
    Batched key before summary (state.wait elapsed) := by
  have hwait := Touches.wait key elapsed state
  exact ⟨h.adapterKey, h.within, h.clock.trans hwait.clock, h.quiet⟩

theorem fails (h : Batched key before summary state) (step : FailedStep) (errorCode : String) :
    CycleSpec key before (.error errorCode, state.fail key step) :=
  ⟨h.within.mono h.clock, fun _ hresult => absurd hresult (by simp)⟩

theorem failedResult (h : Batched key before summary state) (reason errorCode : String)
    (step : FailedStep) :
    CycleSpec key before (Ingestion.failedResult key reason errorCode step summary state) := by
  have hwithin : Within (sourceView key (state.fail key step).db) summary.startedAt := h.within
  refine ⟨(hwithin.mono h.clock).recordFailure h.clock _, ?_⟩
  intro result hresult
  cases hresult
  refine ⟨fun hne => absurd rfl hne, fun _ => rfl,
    fun _ => Or.inl (reportsFailure_recordFailure hwithin (le_refl _) _), ?_, ?_⟩
  · rw [sourceFailureRunAt_singleton h.adapterKey]
    exact h.clock
  · intro other hother
    rw [List.mem_singleton.mp hother]
    exact ⟨hwithin.recordFailure (le_refl _) _, h.clock⟩

theorem promoteWithRetry (h : Batched key before summary state) :
    Batched key before summary (Ingestion.promoteWithRetry run state).2 := by
  unfold Ingestion.promoteWithRetry
  simp only
  split
  · exact h.work _
  · split
    · exact (h.work _).work _
    · exact h.work _

theorem promoteBatch (h : Batched key before summary state) :
    CycleSpec key before (Ingestion.promoteBatch key run summary state) := by
  unfold Ingestion.promoteBatch
  simp only
  generalize hattempted : (if ((decide (summary.status = .succeeded) ||
      decide (summary.status = .partialBatch)) && summary.rawRef.isSome) = true
    then Ingestion.promoteWithRetry run state else (none, state)) = attempted
  have hpromoted : Batched key before summary (attempted.2.wait run.untilRecord) := by
    rw [← hattempted]
    split
    · exact h.promoteWithRetry.wait _
    · exact h.wait _
  cases attempted.1 with
  | some errorCode => exact hpromoted.failedResult "promotion_failed" errorCode .promotion
  | none =>
      simp only
      cases hrecorded : Ingestion.recordSuccess key summary
          (attempted.2.wait run.untilRecord) with
      | error errorCode => exact hpromoted.fails .cycle errorCode
      | ok recorded =>
          obtain ⟨htouches, hfailures⟩ := Touches.recordSuccess hrecorded
          have hdone : Batched key before summary recorded :=
            ⟨h.adapterKey, hpromoted.within.recordSuccess hrecorded,
              hpromoted.clock.trans htouches.clock,
              fun hstatus => hfailures.trans (hpromoted.quiet hstatus)⟩
          simp only
          cases run.raisedLast with
          | some errorCode => exact hdone.fails .cycle errorCode
          | none =>
              refine ⟨hdone.within.mono hdone.clock, ?_⟩
              intro result hresult
              cases hresult
              refine ⟨?_, ?_, ?_, ?_, ?_⟩
              · intro hstatus
                exact hdone.quiet fun hfailed =>
                  hstatus ((statusFromCycle_singleton summary).mpr hfailed)
              · intro hstatus
                have hfailed := (statusFromCycle_singleton summary).mp hstatus
                simp [pipelineFailed, hfailed]
              · intro _
                right
                rw [sourceFailureRunAt_singleton h.adapterKey]
                exact hdone.within
              · rw [sourceFailureRunAt_singleton h.adapterKey]
                exact hdone.clock
              · intro other hother
                rw [List.mem_singleton.mp hother]
                exact ⟨hdone.within, hdone.clock⟩

theorem finishBatch (h : Batched key before summary state) :
    CycleSpec key before (Ingestion.finishBatch key run summary state) := by
  unfold Ingestion.finishBatch
  simp only
  split
  · have hretired := h.work run.retirement.work
    cases run.retirement.raised with
    | some errorCode =>
        exact (hretired.wait run.untilRecord).failedResult "no_active_event_retirement_failed"
          errorCode .retirement
    | none => exact hretired.promoteBatch
  · exact h.promoteBatch

end Batched

theorem batched_runAdapterBatch {key : String} (run : CycleRun) {before state : TickState}
    (failures : state.failures = before.failures)
    (within : Within (sourceView key state.db) state.now) :
    Batched key before (runAdapterBatch key run state).1 (runAdapterBatch key run state).2 := by
  have hwait := Touches.wait key run.untilBatch state
  let finished := ((state.wait run.untilBatch).work run.staging).wait run.batchTook
  let summary := batchSummary key run (state.wait run.untilBatch).now finished.now
  have hstarted := batchSummary_started key run (state.wait run.untilBatch).now finished.now
  have hview : sourceView key finished.db = sourceView key state.db :=
    sourceView_work run.staging key state.db
  have hbefore : Within (sourceView summary.adapterKey finished.db) state.now := by
    rw [hstarted.1, hview]
    exact within
  have hwritten := hbefore.summary (by rw [hstarted.2]; exact hwait.clock) finished.now
  rw [hstarted.1] at hwritten
  have hclock : summary.startedAt ≤ finished.now := by
    rw [hstarted.2]
    exact (Touches.wait key run.batchTook ((state.wait run.untilBatch).work run.staging)).clock
  have hsecond : (runAdapterBatch key run state).2 =
      if summary.status = .failed then
        (finished.write (.summary summary finished.now)).fail key .fetch
      else finished.write (.summary summary finished.now) := rfl
  have hfirst : (runAdapterBatch key run state).1 = summary := rfl
  rw [hfirst, hsecond]
  by_cases hfailed : summary.status = .failed
  · rw [if_pos hfailed]
    exact ⟨hstarted.1, hwritten, hclock, fun hne => absurd hfailed hne⟩
  · rw [if_neg hfailed]
    exact ⟨hstarted.1, hwritten, hclock, fun _ => failures⟩

theorem cycleSpec_executeManagedCycle {key : String} (run : CycleRun) {state : TickState}
    (within : Within (sourceView key state.db) state.now) :
    CycleSpec key state (executeManagedCycle key run state) := by
  have hwait := Touches.wait key run.untilCycle state
  have hwithin : Within (sourceView key (state.wait run.untilCycle).db)
      (state.wait run.untilCycle).now := within.mono hwait.clock
  have hskips : ∀ reason, CycleSpec key state
      (.ok { status := .skipped, reason := some reason }, state.wait run.untilCycle) := by
    intro reason
    refine ⟨hwithin, ?_⟩
    intro result hresult
    cases hresult
    exact ⟨fun _ => rfl, fun h => absurd h (by simp), fun h => absurd h (by simp), hwait.clock,
      fun _ hmem => absurd hmem List.not_mem_nil⟩
  unfold executeManagedCycle
  simp only
  cases run.raisedFirst with
  | some errorCode =>
      exact ⟨hwithin, fun _ hresult => absurd hresult (by simp)⟩
  | none =>
      simp only
      cases run.catalog with
      | disabled => exact hskips _
      | unavailable =>
          refine ⟨hwithin.recordFailure (le_refl _) none, ?_⟩
          intro result hresult
          cases hresult
          exact ⟨fun hne => absurd rfl hne, fun _ => rfl,
            fun _ => Or.inl (reportsFailure_recordFailure hwithin (le_refl _) none),
            hwait.clock, fun _ hmem => absurd hmem List.not_mem_nil⟩
      | enabled =>
          simp only
          cases run.hasDatabase with
          | false => exact hskips _
          | true =>
              simp only [Bool.not_true, Bool.false_eq_true, if_false]
              have hbatched : Batched key state
                  (runAdapterBatch key run (state.wait run.untilCycle)).1
                  (runAdapterBatch key run (state.wait run.untilCycle)).2 :=
                batched_runAdapterBatch run rfl hwithin
              cases run.raisedAfterBatch with
              | some errorCode => exact hbatched.fails .cycle errorCode
              | none => exact hbatched.finishBatch

theorem cycleSpec_runBaselineAdapterCycle {key : String} (run : CycleRun) {state : TickState}
    (within : Within (sourceView key state.db) state.now) :
    CycleSpec key state (runBaselineAdapterCycle key run state) := by
  unfold runBaselineAdapterCycle
  split
  · refine ⟨within, ?_⟩
    intro result hresult
    cases hresult
    exact ⟨fun hne => absurd rfl hne, fun _ => rfl, fun _ => Or.inr within, le_refl _,
      fun _ hmem => absurd hmem List.not_mem_nil⟩
  · exact cycleSpec_executeManagedCycle run within

end FloodRisk.Ingestion
