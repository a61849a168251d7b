import FloodRisk.Lib.Transition
import FloodRisk.Retention.StagingSweep

/-!
# The sweep over any number of cycles

Between the first watermark of the process and the current one no orphan is
left.  The invariant of the loop carries this over a batch, because the
watermark moves only past a window that a short batch has emptied.
-/

namespace FloodRisk.Retention
open Transition

/-! ### The loop -/

/-- Every orphan from `first` on lies at or after the watermark. -/
def Cleared (env : SweepEnvironment) (staging : StagingTable) (first watermark : ℤ) : Prop :=
  ∀ row ∈ staging, row.orphaned env = true → first ≤ row.createdAt → watermark ≤ row.createdAt

def WithinWindow (settings : SweepSettings) (window : ℕ) : Prop :=
  settings.minWindowSeconds ≤ window ∧ window ≤ settings.maxWindowSeconds

/-- One delete: its window is a configured one and it deletes only old orphans. -/
structure SoundAttempt (env : SweepEnvironment) (settings : SweepSettings) (cutoff : ℤ)
    (attempt : AttemptRecord) : Prop where
  window : WithinWindow settings attempt.windowSeconds
  orphans : ∀ row ∈ attempt.deleted, row.orphaned env = true ∧ row.createdAt < cutoff

structure LoopInvariant (env : SweepEnvironment) (settings : SweepSettings) (cutoff first : ℤ)
    (start : StagingTable) (s : SweepCursor) : Prop where
  ahead : first ≤ s.watermark
  behind : s.watermark ≤ max first cutoff
  cleared : Cleared env s.staging first s.watermark
  window : WithinWindow settings s.window
  attempts : ∀ attempt ∈ s.attempts, SoundAttempt env settings cutoff attempt
  accounted : ∀ row ∈ start, row ∉ s.staging → ∃ attempt ∈ s.attempts, row ∈ attempt.deleted

section
variable {env : SweepEnvironment} {settings : SweepSettings} {cutoff first : ℤ}
variable {start : StagingTable} {s : SweepCursor}

theorem cleared_insertRows {staging : StagingTable} {rows : List StagingRow} {watermark : ℤ}
    (h : Cleared env staging first watermark) (hcutoff : watermark ≤ max first cutoff)
    (hrows : ∀ row ∈ rows, cutoff ≤ row.createdAt) :
    Cleared env (insertRows staging rows) first watermark := by
  intro row hrow horphan hfirst
  rcases mem_insertRows hrow with hold | hnew
  · exact h row hold horphan hfirst
  · have hlate := hrows row hnew
    omega

theorem windowEnd_le : windowEnd cutoff s ≤ cutoff := Int.min_le_right _ _

theorem le_windowEnd (h : s.watermark < cutoff) : s.watermark ≤ windowEnd cutoff s := by
  have hwindow : (0 : ℤ) ≤ (s.window : ℤ) * 1000000 := by omega
  simp only [windowEnd]
  omega

theorem invariant_retry (h : LoopInvariant env settings cutoff first start s)
    {rows : List StagingRow}
    (hrows : ∀ row ∈ rows, cutoff ≤ row.createdAt) {window batches : ℕ}
    (hwindow : WithinWindow settings window) :
    LoopInvariant env settings cutoff first start
      { s with
        staging := insertRows s.staging rows
        window := window
        batches := batches
        attempts := s.attempts ++ [⟨s.window, windowEnd cutoff s, []⟩] } := by
  refine ⟨h.ahead, h.behind, cleared_insertRows h.cleared h.behind hrows, hwindow, ?_, ?_⟩
  · intro attempt hattempt
    rcases List.mem_append.mp hattempt with hbefore | hnow
    · exact h.attempts attempt hbefore
    · rw [List.mem_singleton.mp hnow]
      exact ⟨h.window, by simp⟩
  · intro row hrow hgone
    have hlost : row ∉ s.staging := fun hmem => hgone (mem_insertRows_of_mem hmem)
    obtain ⟨attempt, hattempt, hdeleted⟩ := h.accounted row hrow hlost
    exact ⟨attempt, List.mem_append_left _ hattempt, hdeleted⟩

theorem invariant_commit (h : LoopInvariant env settings cutoff first start s)
    {rows : List StagingRow} {watermark : ℤ} {window batches deleted : ℕ}
    (hahead : first ≤ watermark) (hbehind : watermark ≤ max first cutoff)
    (hcleared : Cleared env (deleteRows (insertRows s.staging rows)
      (acceptedBatch env (insertRows s.staging rows) s.watermark (windowEnd cutoff s)
        settings.batchSize)) first watermark)
    (hwindow : WithinWindow settings window) :
    LoopInvariant env settings cutoff first start
      { staging := deleteRows (insertRows s.staging rows)
          (acceptedBatch env (insertRows s.staging rows) s.watermark (windowEnd cutoff s)
            settings.batchSize)
        watermark := watermark
        window := window
        batches := batches
        deletedRows := deleted
        attempts := s.attempts ++ [⟨s.window, windowEnd cutoff s,
          acceptedBatch env (insertRows s.staging rows) s.watermark (windowEnd cutoff s)
            settings.batchSize⟩] } := by
  refine ⟨hahead, hbehind, hcleared, hwindow, ?_, ?_⟩
  · intro attempt hattempt
    rcases List.mem_append.mp hattempt with hbefore | hnow
    · exact h.attempts attempt hbefore
    · rw [List.mem_singleton.mp hnow]
      refine ⟨h.window, fun row hrow => ?_⟩
      obtain ⟨-, horphan, -, hbefore⟩ := mem_acceptedBatch hrow
      have hend : windowEnd cutoff s ≤ cutoff := windowEnd_le
      exact ⟨horphan, by omega⟩
  · intro row hrow hgone
    by_cases hmem : row ∈ insertRows s.staging rows
    · -- the row went with this batch
      have hdoomed : row.id ∈ (acceptedBatch env (insertRows s.staging rows) s.watermark
          (windowEnd cutoff s) settings.batchSize).map StagingRow.id := by
        by_contra hspared
        exact hgone (Table.mem_deleteWhere.mpr ⟨hmem, decide_eq_false hspared⟩)
      obtain ⟨other, hother, hid⟩ := List.mem_map.mp hdoomed
      obtain rfl := Table.eq_of_key_eq (mem_acceptedBatch hother).1 hmem hid
      exact ⟨_, List.mem_append_right _ (List.mem_singleton_self _), hother⟩
    · have hlost : row ∉ s.staging := fun hold => hmem (mem_insertRows_of_mem hold)
      obtain ⟨attempt, hattempt, hdeleted⟩ := h.accounted row hrow hlost
      exact ⟨attempt, List.mem_append_left _ hattempt, hdeleted⟩

theorem cleared_deleteRows {staging : StagingTable} {rows : List StagingRow} {watermark : ℤ}
    (h : Cleared env staging first watermark) :
    Cleared env (deleteRows staging rows) first watermark :=
  fun row hrow => h row (Table.mem_deleteWhere.mp hrow).1

theorem invariant_sweepBatch (h : LoopInvariant env settings cutoff first start s)
    {attempt : Attempt} (hinserts : ∀ row ∈ attempt.inserts, cutoff ≤ row.createdAt) :
    LoopInvariant env settings cutoff first start
      (sweepBatch env settings cutoff attempt s).1 := by
  have hmin := settings.min_le
  have hmax := settings.le_max
  obtain ⟨hlower, hupper⟩ := h.window
  by_cases hdone : cutoff ≤ s.watermark
  · rw [sweepBatch, if_pos hdone]
    exact h
  · have hgoing : s.watermark < cutoff := by omega
    rw [sweepBatch, if_neg hdone]
    cases houtcome : attempt.outcome with
    | failed => exact invariant_retry h hinserts h.window
    | timedOut timeout =>
        simp only
        by_cases hgiveup : timeout ≠ .statement ∨ s.window ≤ settings.minWindowSeconds
        · rw [if_pos hgiveup]
          exact invariant_retry h hinserts h.window
        · rw [if_neg hgiveup]
          have hshrunk : WithinWindow settings (max settings.minWindowSeconds (s.window / 2)) := by
            refine ⟨?_, ?_⟩ <;> omega
          exact invariant_retry h hinserts hshrunk
    | committed =>
        simp only
        have hstaging := cleared_insertRows h.cleared h.behind hinserts
        by_cases hfull : settings.batchSize ≤ (acceptedBatch env
            (insertRows s.staging attempt.inserts) s.watermark (windowEnd cutoff s)
            settings.batchSize).length
        · rw [if_pos hfull]
          have hreset : WithinWindow settings (min s.window settings.windowSeconds) := by
            refine ⟨?_, ?_⟩ <;> omega
          exact invariant_commit h h.ahead h.behind (cleared_deleteRows hstaging)
            hreset
        · rw [if_neg hfull]
          have hforward : s.watermark ≤ windowEnd cutoff s := le_windowEnd hgoing
          have hend : windowEnd cutoff s ≤ cutoff := windowEnd_le
          have hfirst := h.ahead
          have hcleared : Cleared env (deleteRows (insertRows s.staging attempt.inserts)
              (acceptedBatch env (insertRows s.staging attempt.inserts) s.watermark
                (windowEnd cutoff s) settings.batchSize)) first (windowEnd cutoff s) := by
            intro row hrow horphan hafter
            have hlate := hstaging row (Table.mem_deleteWhere.mp hrow).1 horphan hafter
            exact short_batch_clears (by omega) hrow horphan hlate
          refine invariant_commit h (by omega) (by omega) hcleared ?_
          refine ⟨?_, ?_⟩ <;> split <;> omega

theorem sweepBatch_attempts (attempt : Attempt) :
    (sweepBatch env settings cutoff attempt s).1.attempts.length ≤ s.attempts.length + 1 := by
  unfold sweepBatch
  split
  · exact Nat.le_succ _
  · cases attempt.outcome with
    | failed => simp
    | timedOut timeout =>
        simp only
        split <;> simp
    | committed =>
        simp only
        split <;> simp

theorem sweepBatch_watermark (attempt : Attempt) :
    s.watermark ≤ (sweepBatch env settings cutoff attempt s).1.watermark := by
  unfold sweepBatch
  by_cases hdone : cutoff ≤ s.watermark
  · rw [if_pos hdone]
  · rw [if_neg hdone]
    have hforward : s.watermark ≤ windowEnd cutoff s := le_windowEnd (by omega)
    cases attempt.outcome with
    | failed => exact Int.le_refl _
    | timedOut timeout =>
        simp only
        split <;> exact Int.le_refl _
    | committed =>
        simp only
        split
        · exact Int.le_refl _
        · exact hforward

/-- The loop keeps the invariant, never goes back, and issues one statement a
turn at most. -/
theorem invariant_sweepLoop {attempts : ℕ → Attempt}
    (hinserts : ∀ n, ∀ row ∈ (attempts n).inserts, cutoff ≤ row.createdAt) (remaining : ℕ)
    (h : LoopInvariant env settings cutoff first start s) :
    LoopInvariant env settings cutoff first start
        (sweepLoop env settings cutoff attempts remaining s).1 ∧
      s.watermark ≤ (sweepLoop env settings cutoff attempts remaining s).1.watermark ∧
      (sweepLoop env settings cutoff attempts remaining s).1.attempts.length ≤
        s.attempts.length + remaining := by
  induction remaining generalizing s with
  | zero => exact ⟨h, Int.le_refl _, by simp [sweepLoop]⟩
  | succ remaining ih =>
      have hnext := invariant_sweepBatch h (hinserts s.batches)
      have hissued : (sweepBatch env settings cutoff (attempts s.batches) s).1.attempts.length ≤
          s.attempts.length + 1 := sweepBatch_attempts (attempts s.batches)
      have honward : s.watermark ≤
          (sweepBatch env settings cutoff (attempts s.batches) s).1.watermark :=
        sweepBatch_watermark (attempts s.batches)
      unfold sweepLoop
      cases hbatch : sweepBatch env settings cutoff (attempts s.batches) s with
      | mk s' exit =>
          rw [hbatch] at hnext hissued honward
          simp only at hissued honward
          cases exit with
          | some exit => exact ⟨hnext, honward, by simp only; omega⟩
          | none =>
              have hs' : LoopInvariant env settings cutoff first start s' := hnext
              obtain ⟨hrest, hlater, hlength⟩ := ih hs'
              exact ⟨hrest, by simp only; omega, by simp only; omega⟩

end

/-! ### Runs -/

/-- The process with the watermark at which its sweep began and the cutoff of
its latest cycle. -/
structure SweepRun where
  state : SweepState
  first : Option ℤ
  cutoff : Option ℤ

def SweepRun.start (staging : StagingTable) : SweepRun := ⟨⟨staging, none, none⟩, none, none⟩

inductive SweepEvent where
  | insert (rows : List StagingRow)
  | cycle (cycle : SweepCycle)

def SweepRun.step (env : SweepEnvironment) (s : SweepRun) : SweepEvent → SweepRun
  | .insert rows =>
      { s with state := { s.state with staging := insertRows s.state.staging rows } }
  | .cycle cycle =>
      let state := (sweepAcceptedStaging env cycle s.state).1
      { state := state
        first := s.first.or (state.watermark.bind fun _ => oldestAcceptedCreatedAt s.state.staging)
        cutoff := some cycle.cutoff }

/-- Rows are created at or after the current cutoff, and the cutoffs do not
decrease. -/
def Admissible (s : SweepRun) : SweepEvent → Prop
  | .insert rows => ∀ cutoff, s.cutoff = some cutoff → ∀ row ∈ rows, cutoff ≤ row.createdAt
  | .cycle cycle => (∀ cutoff, s.cutoff = some cutoff → cutoff ≤ cycle.cutoff) ∧
      ∀ n, ∀ row ∈ (cycle.attempts n).inserts, cycle.cutoff ≤ row.createdAt

structure SweepInvariant (env : SweepEnvironment) (s : SweepRun) : Prop where
  begun : s.first.isSome = s.state.watermark.isSome
  swept : ∀ first watermark, s.first = some first → s.state.watermark = some watermark →
    first ≤ watermark ∧ Cleared env s.state.staging first watermark ∧
      ∃ cutoff, s.cutoff = some cutoff ∧ watermark ≤ max first cutoff

/-- The result of the cycle, with the deletes it issued and the state after. -/
structure SoundCycle (env : SweepEnvironment) (s : SweepRun) (cycle : SweepCycle) : Prop where
  deleted : ∀ attempt ∈ (sweepAcceptedStaging env cycle s.state).2.1, ∀ row ∈ attempt.deleted,
    row.validationStatus = .accepted ∧ env.referenced row.id = false ∧
      (∃ sourceId adapterKey, row.dataSourceId = some sourceId ∧
        (some sourceId, some adapterKey) ∈ env.sources ∧
        isOrphanPrunableAdapter adapterKey = true) ∧
      row.createdAt < cycle.cutoff
  recorded : ∀ row ∈ s.state.staging, row ∉ (s.step env (.cycle cycle)).state.staging →
    ∃ attempt ∈ (sweepAcceptedStaging env cycle s.state).2.1, row ∈ attempt.deleted
  complete : ∀ first watermark, (s.step env (.cycle cycle)).first = some first →
    (s.step env (.cycle cycle)).state.watermark = some watermark →
    ∀ row ∈ (s.step env (.cycle cycle)).state.staging, row.orphaned env = true →
      ¬ (first ≤ row.createdAt ∧ row.createdAt < watermark)
  advances : ∀ watermark, s.state.watermark = some watermark →
    ∃ later, (s.step env (.cycle cycle)).state.watermark = some later ∧ watermark ≤ later
  bounded : ∀ first watermark, (s.step env (.cycle cycle)).first = some first →
    (s.step env (.cycle cycle)).state.watermark = some watermark →
    watermark ≤ max first cycle.cutoff
  windows : (∀ attempt ∈ (sweepAcceptedStaging env cycle s.state).2.1,
      WithinWindow cycle.settings attempt.windowSeconds) ∧
    ∀ result, (sweepAcceptedStaging env cycle s.state).2.2 = some result →
      WithinWindow cycle.settings result.windowSeconds
  budget : (sweepAcceptedStaging env cycle s.state).2.1.length ≤ cycle.settings.maxBatches

theorem withinWindow_initial (settings : SweepSettings) (carried : Option ℕ) :
    WithinWindow settings (initialWindow settings carried) := by
  have hmin := settings.min_le
  have hmax := settings.le_max
  simp only [WithinWindow, initialWindow]
  omega

theorem orphaned_spec {env : SweepEnvironment} {row : StagingRow}
    (h : row.orphaned env = true) :
    row.validationStatus = .accepted ∧ env.referenced row.id = false ∧
      ∃ sourceId adapterKey, row.dataSourceId = some sourceId ∧
        (some sourceId, some adapterKey) ∈ env.sources ∧
        isOrphanPrunableAdapter adapterKey = true := by
  rw [StagingRow.orphaned, Bool.and_eq_true, Bool.and_eq_true, decide_eq_true_eq,
    Bool.not_eq_true', Option.any_eq_true] at h
  obtain ⟨⟨haccepted, sourceId, hsource, hknown⟩, hfree⟩ := h
  obtain ⟨adapterKey, hmem, hprunable⟩ := mem_orphanPrunableSourceIds.mp (of_decide_eq_true hknown)
  exact ⟨haccepted, hfree, sourceId, adapterKey, hsource, hmem, hprunable⟩

theorem sweep_cases (env : SweepEnvironment) (cycle : SweepCycle) (s : SweepState) :
    ((sweepAcceptedStaging env cycle s).1 = s ∧ (sweepAcceptedStaging env cycle s).2.1 = [] ∧
        ∀ result, (sweepAcceptedStaging env cycle s).2.2 = some result →
          result.windowSeconds = initialWindow cycle.settings s.windowSeconds) ∨
      ∃ watermark swept exit,
        (s.watermark = some watermark ∨
          s.watermark = none ∧ oldestAcceptedCreatedAt s.staging = some watermark) ∧
        sweepLoop env cycle.settings cycle.cutoff cycle.attempts cycle.settings.maxBatches
          ⟨s.staging, watermark, initialWindow cycle.settings s.windowSeconds, 0, 0, []⟩ =
            (swept, exit) ∧
        (sweepAcceptedStaging env cycle s).2.1 = swept.attempts ∧
        ((sweepAcceptedStaging env cycle s).1 = { s with staging := swept.staging } ∧
            (sweepAcceptedStaging env cycle s).2.2 = none ∨
          (sweepAcceptedStaging env cycle s).1 =
              ⟨swept.staging, some swept.watermark, some swept.window⟩ ∧
            ∀ result, (sweepAcceptedStaging env cycle s).2.2 = some result →
              result.windowSeconds = swept.window) := by
  unfold sweepAcceptedStaging
  cases hsetup : setupReads env cycle s with
  | error timeout =>
      cases timeout with
      | none => exact Or.inl ⟨rfl, rfl, by simp⟩
      | some timeout => exact Or.inl ⟨rfl, rfl, by simp⟩
  | ok read =>
      obtain ⟨sourceIds, watermark⟩ := read
      simp only
      by_cases hsources : sourceIds = []
      · rw [if_pos hsources]
        exact Or.inl ⟨rfl, rfl, by simp⟩
      · rw [if_neg hsources]
        cases watermark with
        | none => exact Or.inl ⟨rfl, rfl, by simp⟩
        | some watermark =>
            have hstart : s.watermark = some watermark ∨
                s.watermark = none ∧ oldestAcceptedCreatedAt s.staging = some watermark := by
              cases hsourcesRead : cycle.sourcesRead with
              | committed =>
                  cases hsaved : s.watermark with
                  | some saved =>
                      simp only [setupReads, hsourcesRead, hsaved, Outcome.read, bind,
                        Except.bind, pure, Except.pure, Except.ok.injEq, Prod.mk.injEq] at hsetup
                      exact Or.inl hsetup.2
                  | none =>
                      cases hread : cycle.oldestRead with
                      | committed =>
                          simp only [setupReads, hsourcesRead, hsaved, hread, Outcome.read, bind,
                            Except.bind, pure, Except.pure, Except.ok.injEq,
                            Prod.mk.injEq] at hsetup
                          exact Or.inr ⟨rfl, hsetup.2⟩
                      | timedOut timeout =>
                          simp [setupReads, hsourcesRead, hsaved, hread, Outcome.read, bind,
                            Except.bind] at hsetup
                      | failed =>
                          simp [setupReads, hsourcesRead, hsaved, hread, Outcome.read, bind,
                            Except.bind] at hsetup
              | timedOut timeout =>
                  simp [setupReads, hsourcesRead, Outcome.read, bind, Except.bind] at hsetup
              | failed =>
                  simp [setupReads, hsourcesRead, Outcome.read, bind, Except.bind] at hsetup
            right
            simp only
            cases hloop : sweepLoop env cycle.settings cycle.cutoff cycle.attempts
                cycle.settings.maxBatches
                ⟨s.staging, watermark, initialWindow cycle.settings s.windowSeconds, 0, 0, []⟩ with
            | mk swept exit =>
                refine ⟨watermark, swept, exit, hstart, hloop, ?_⟩
                cases exit with
                | raised => exact ⟨rfl, Or.inl ⟨rfl, rfl⟩⟩
                | stopped reason => exact ⟨rfl, Or.inr ⟨rfl, by simp⟩⟩

theorem loop_start {env : SweepEnvironment} {s : SweepRun} {cycle : SweepCycle} {watermark : ℤ}
    (h : SweepInvariant env s) (hadm : Admissible s (.cycle cycle))
    (hstart : s.state.watermark = some watermark ∨
      s.state.watermark = none ∧ oldestAcceptedCreatedAt s.state.staging = some watermark) :
    ∃ first, s.first.or (oldestAcceptedCreatedAt s.state.staging) = some first ∧
      first ≤ watermark ∧ watermark ≤ max first cycle.cutoff ∧
      Cleared env s.state.staging first watermark := by
  rcases hstart with hsaved | ⟨hnone, holdest⟩
  · have hbegun := h.begun
    rw [hsaved] at hbegun
    obtain ⟨first, hfirst⟩ := Option.isSome_iff_exists.mp hbegun
    obtain ⟨hahead, hcleared, cutoff, hcutoff, hbehind⟩ := h.swept first watermark hfirst hsaved
    have hlater := hadm.1 cutoff hcutoff
    exact ⟨first, by rw [hfirst]; rfl, hahead, by omega, hcleared⟩
  · have hbegun := h.begun
    rw [hnone] at hbegun
    have hfirst : s.first = none := by simpa using hbegun
    refine ⟨watermark, by rw [hfirst, holdest]; rfl, Int.le_refl _, Int.le_max_left _ _, ?_⟩
    exact fun row _ _ hafter => hafter

theorem invariant_insert {env : SweepEnvironment} {s : SweepRun} {rows : List StagingRow}
    (h : SweepInvariant env s) (hadm : Admissible s (.insert rows)) :
    SweepInvariant env (s.step env (.insert rows)) := by
  refine ⟨h.begun, ?_⟩
  intro first watermark hfirst hsaved
  obtain ⟨hahead, hcleared, cutoff, hcutoff, hbehind⟩ := h.swept first watermark hfirst hsaved
  exact ⟨hahead, cleared_insertRows hcleared hbehind (hadm cutoff hcutoff), cutoff, hcutoff,
    hbehind⟩

structure CycleFacts (env : SweepEnvironment) (s : SweepRun) (cycle : SweepCycle) : Prop where
  begun : (s.step env (.cycle cycle)).first.isSome =
    (s.step env (.cycle cycle)).state.watermark.isSome
  swept : ∀ first watermark, (s.step env (.cycle cycle)).first = some first →
    (s.step env (.cycle cycle)).state.watermark = some watermark →
    first ≤ watermark ∧ watermark ≤ max first cycle.cutoff ∧
      Cleared env (s.step env (.cycle cycle)).state.staging first watermark
  attempts : ∀ attempt ∈ (sweepAcceptedStaging env cycle s.state).2.1,
    SoundAttempt env cycle.settings cycle.cutoff attempt
  recorded : ∀ row ∈ s.state.staging, row ∉ (s.step env (.cycle cycle)).state.staging →
    ∃ attempt ∈ (sweepAcceptedStaging env cycle s.state).2.1, row ∈ attempt.deleted
  advances : ∀ watermark, s.state.watermark = some watermark →
    ∃ later, (s.step env (.cycle cycle)).state.watermark = some later ∧ watermark ≤ later
  result : ∀ result, (sweepAcceptedStaging env cycle s.state).2.2 = some result →
    WithinWindow cycle.settings result.windowSeconds
  budget : (sweepAcceptedStaging env cycle s.state).2.1.length ≤ cycle.settings.maxBatches

theorem CycleFacts.sound {env : SweepEnvironment} {s : SweepRun} {cycle : SweepCycle}
    (h : CycleFacts env s cycle) : SoundCycle env s cycle where
  deleted := by
    intro attempt hattempt row hrow
    obtain ⟨horphan, hold⟩ := (h.attempts attempt hattempt).orphans row hrow
    obtain ⟨haccepted, hfree, hsource⟩ := orphaned_spec horphan
    exact ⟨haccepted, hfree, hsource, hold⟩
  recorded := h.recorded
  complete := by
    rintro first watermark hfirst hsaved row hrow horphan ⟨hafter, hbefore⟩
    have hlate := (h.swept first watermark hfirst hsaved).2.2 row hrow horphan hafter
    omega
  advances := h.advances
  bounded := fun first watermark hfirst hsaved => (h.swept first watermark hfirst hsaved).2.1
  windows := ⟨fun attempt hattempt => (h.attempts attempt hattempt).window, h.result⟩
  budget := h.budget

theorem CycleFacts.invariant {env : SweepEnvironment} {s : SweepRun} {cycle : SweepCycle}
    (h : CycleFacts env s cycle) : SweepInvariant env (s.step env (.cycle cycle)) := by
  refine ⟨h.begun, ?_⟩
  intro first watermark hfirst hsaved
  obtain ⟨hahead, hbehind, hcleared⟩ := h.swept first watermark hfirst hsaved
  exact ⟨hahead, hcleared, cycle.cutoff, rfl, hbehind⟩

section
variable {env : SweepEnvironment} {s : SweepRun} {cycle : SweepCycle}

theorem facts_of_kept (h : SweepInvariant env s) (hadm : Admissible s (.cycle cycle))
    (hkept : (sweepAcceptedStaging env cycle s.state).1.watermark = s.state.watermark)
    (hcleared : ∀ first watermark, s.first = some first → s.state.watermark = some watermark →
      Cleared env (sweepAcceptedStaging env cycle s.state).1.staging first watermark)
    (hattempts : ∀ attempt ∈ (sweepAcceptedStaging env cycle s.state).2.1,
      SoundAttempt env cycle.settings cycle.cutoff attempt)
    (hrecorded : ∀ row ∈ s.state.staging,
      row ∉ (sweepAcceptedStaging env cycle s.state).1.staging →
      ∃ attempt ∈ (sweepAcceptedStaging env cycle s.state).2.1, row ∈ attempt.deleted)
    (hresult : ∀ result, (sweepAcceptedStaging env cycle s.state).2.2 = some result →
      WithinWindow cycle.settings result.windowSeconds)
    (hbudget : (sweepAcceptedStaging env cycle s.state).2.1.length ≤ cycle.settings.maxBatches) :
    CycleFacts env s cycle := by
  have hfirst : (s.step env (.cycle cycle)).first = s.first := by
    have hbegun := h.begun
    show s.first.or ((sweepAcceptedStaging env cycle s.state).1.watermark.bind _) = s.first
    rw [hkept]
    cases hsaved : s.state.watermark with
    | none =>
        rw [hsaved] at hbegun
        have hnone : s.first = none := by simpa using hbegun
        rw [hnone]
        rfl
    | some watermark =>
        rw [hsaved] at hbegun
        obtain ⟨first, hsome⟩ := Option.isSome_iff_exists.mp hbegun
        rw [hsome]
        rfl
  have hwatermark : (s.step env (.cycle cycle)).state.watermark = s.state.watermark := hkept
  refine ⟨?_, ?_, hattempts, hrecorded, ?_, hresult, hbudget⟩
  · rw [hfirst, hwatermark]
    exact h.begun
  · intro first watermark hbegun hsaved
    rw [hfirst] at hbegun
    rw [hwatermark] at hsaved
    obtain ⟨hahead, -, cutoff, hcutoff, hbehind⟩ := h.swept first watermark hbegun hsaved
    have hlater := hadm.1 cutoff hcutoff
    exact ⟨hahead, by omega, hcleared first watermark hbegun hsaved⟩
  · intro watermark hsaved
    exact ⟨watermark, hwatermark.trans hsaved, Int.le_refl _⟩

theorem cycle_facts (h : SweepInvariant env s) (hadm : Admissible s (.cycle cycle)) :
    CycleFacts env s cycle := by
  have hinitial := withinWindow_initial cycle.settings s.state.windowSeconds
  rcases sweep_cases env cycle s.state with
    ⟨hsame, hnone, hresult⟩ | ⟨watermark, swept, exit, hstart, hloop, hattempts, hstate⟩
  · refine facts_of_kept h hadm (by rw [hsame]) ?_ ?_ ?_ ?_ ?_
    · intro first watermark hfirst hsaved
      rw [hsame]
      exact (h.swept first watermark hfirst hsaved).2.1
    · rw [hnone]
      simp
    · intro row hrow hgone
      rw [hsame] at hgone
      exact absurd hrow hgone
    · intro result hanswer
      rw [hresult result hanswer]
      exact hinitial
    · rw [hnone]
      exact Nat.zero_le _
  · obtain ⟨first, hfirst, hahead, hbehind, hcleared⟩ := loop_start h hadm hstart
    have hinvariant : LoopInvariant env cycle.settings cycle.cutoff first s.state.staging
        ⟨s.state.staging, watermark, initialWindow cycle.settings s.state.windowSeconds, 0, 0, []⟩ :=
      ⟨hahead, hbehind, hcleared, hinitial, by simp, fun row hrow hgone => absurd hrow hgone⟩
    obtain ⟨hswept, honward, hlength⟩ :=
      invariant_sweepLoop hadm.2 cycle.settings.maxBatches hinvariant
    rw [hloop] at hswept honward hlength
    have hreached : ∀ saved, s.state.watermark = some saved → saved ≤ swept.watermark := by
      intro saved hsaved
      rcases hstart with hstart | ⟨hnone, -⟩
      · rw [hsaved] at hstart
        obtain rfl := Option.some.inj hstart
        exact honward
      · rw [hnone] at hsaved
        exact absurd hsaved (by simp)
    have hbudget : (sweepAcceptedStaging env cycle s.state).2.1.length ≤
        cycle.settings.maxBatches := by
      rw [hattempts]
      simpa using hlength
    have hsound : ∀ attempt ∈ (sweepAcceptedStaging env cycle s.state).2.1,
        SoundAttempt env cycle.settings cycle.cutoff attempt := by
      rw [hattempts]
      exact hswept.attempts
    rcases hstate with ⟨hraised, hresult⟩ | ⟨hstopped, hresult⟩
    · -- the cycle raises after its batches: only the table has moved
      refine facts_of_kept h hadm (by rw [hraised]) ?_ hsound ?_ ?_ hbudget
      · intro begun saved hbegun hsaved row hrow horphan hafter
        rw [hraised] at hrow
        rw [hbegun] at hfirst
        obtain rfl := Option.some.inj hfirst
        have hlate : swept.watermark ≤ row.createdAt := hswept.cleared row hrow horphan hafter
        have hbefore := hreached saved hsaved
        omega
      · intro row hrow hgone
        rw [hraised] at hgone
        rw [hattempts]
        exact hswept.accounted row hrow hgone
      · rw [hresult]
        simp
    · have hnow : (s.step env (.cycle cycle)).state =
          ⟨swept.staging, some swept.watermark, some swept.window⟩ := hstopped
      have hbegun : (s.step env (.cycle cycle)).first = some first := by
        show s.first.or ((sweepAcceptedStaging env cycle s.state).1.watermark.bind _) = some first
        rw [hstopped]
        exact hfirst
      refine ⟨?_, ?_, hsound, ?_, ?_, ?_, hbudget⟩
      · rw [hbegun, hnow]
        rfl
      · intro began saved hbegan hsaved
        rw [hbegun] at hbegan
        rw [hnow] at hsaved ⊢
        obtain rfl := Option.some.inj hbegan
        obtain rfl := Option.some.inj hsaved
        exact ⟨hswept.ahead, hswept.behind, hswept.cleared⟩
      · intro row hrow hgone
        rw [hnow] at hgone
        rw [hattempts]
        exact hswept.accounted row hrow hgone
      · intro saved hsaved
        rw [hnow]
        exact ⟨swept.watermark, rfl, hreached saved hsaved⟩
      · intro result hanswer
        rw [hresult result hanswer]
        exact hswept.window

end

/-! ### Every run -/

def SoundStep (env : SweepEnvironment) (s : SweepRun) : SweepEvent → Prop
  | .insert _ => True
  | .cycle cycle => SoundCycle env s cycle

/-- In every run every cycle deletes old orphans only, leaves none of them
behind the watermark, moves the watermark forward and not past the larger of
its beginning and the cutoff, and keeps to its windows and its budget. -/
theorem sweep_sound_and_complete (env : SweepEnvironment) (staging : StagingTable)
    (events : List SweepEvent)
    (hadm : Along (SweepRun.step env) Admissible (.start staging) events) :
    Along (SweepRun.step env) (SoundStep env) (.start staging) events := by
  have hstart : SweepInvariant env (.start staging) :=
    ⟨rfl, fun first watermark hfirst => absurd hfirst (by simp [SweepRun.start])⟩
  refine hadm.imp_of_invariant ?_ ?_ hstart
  · intro s event hs hevent
    cases event with
    | insert rows => exact invariant_insert hs hevent
    | cycle cycle => exact (cycle_facts hs hevent).invariant
  · intro s event hs hevent
    cases event with
    | insert rows => trivial
    | cycle cycle => exact (cycle_facts hs hevent).sound

/-! ### Two runs -/

def rainfallEnvironment : SweepEnvironment where
  sources := [(some "cwa-rainfall", some "official.cwa.rainfall"),
    (some "nstc-points", some "official.nstc.flood_disaster_points")]
  referenced := fun stagingId => stagingId = 2

def rainfallRow (id : ℕ) (createdAt : ℤ) : StagingRow := ⟨id, "cwa-rainfall", .accepted, createdAt⟩

def hourlySettings : SweepSettings := (resolveSettings 1 4 3600 300 none).get (by decide)

/-- The first delete times out, the others commit. -/
def hourlyCycle (cutoff : ℤ) : SweepCycle :=
  ⟨cutoff, hourlySettings, .committed, .committed,
    fun batch => ⟨[], if batch = 0 then .timedOut .statement else .committed⟩⟩

def rainfallStaging : StagingTable := insertRows .empty [rainfallRow 1 0, rainfallRow 2 1000000]

def rainfallEvents : List SweepEvent :=
  [.cycle (hourlyCycle 3600000000), .insert [rainfallRow 3 3600000000],
    .cycle (hourlyCycle 7200000000)]

/-- The orphans 1 and 3 go, the row that an evidence row refers to stays. -/
theorem rainfall_sweep_is_sound :
    Along (SweepRun.step rainfallEnvironment) (SoundStep rainfallEnvironment)
        (.start rainfallStaging) rainfallEvents ∧
      (run (SweepRun.step rainfallEnvironment) (.start rainfallStaging)
        rainfallEvents).state.staging.rows.map StagingRow.id = [2] := by
  have hquiet : ∀ cutoff n, ((hourlyCycle cutoff).attempts n).inserts = [] := fun _ _ => rfl
  have hadm : Along (SweepRun.step rainfallEnvironment) Admissible (.start rainfallStaging)
      rainfallEvents := by
    refine ⟨⟨by simp [SweepRun.start], by simp [hquiet]⟩, ?_, ⟨?_, by simp [hquiet]⟩, trivial⟩
    · intro cutoff hcutoff row hrow
      have hlast : 3600000000 = cutoff := Option.some.inj hcutoff
      rw [List.mem_singleton.mp hrow, ← hlast]
      exact Int.le_refl _
    · intro cutoff hcutoff
      have hlast : 3600000000 = cutoff := Option.some.inj hcutoff
      rw [← hlast]
      decide
  exact ⟨sweep_sound_and_complete rainfallEnvironment rainfallStaging rainfallEvents hadm,
    by decide +kernel⟩

/-- All accepted rows are younger than the retention window, as after the first
start of the pipeline: the first watermark lies past the cutoff. -/
theorem first_watermark_passes_cutoff :
    Along (SweepRun.step rainfallEnvironment) Admissible
        (.start (insertRows .empty [rainfallRow 1 100000000])) [.cycle (hourlyCycle 50000000)] ∧
      (run (SweepRun.step rainfallEnvironment)
        (.start (insertRows .empty [rainfallRow 1 100000000]))
        [.cycle (hourlyCycle 50000000)]).state.watermark = some 100000000 ∧
      (hourlyCycle 50000000).cutoff < 100000000 := by
  have hquiet : ∀ n, ((hourlyCycle 50000000).attempts n).inserts = [] := fun _ => rfl
  exact ⟨⟨⟨by simp [SweepRun.start], by simp [hquiet]⟩, trivial⟩, by decide +kernel, by decide⟩

end FloodRisk.Retention
