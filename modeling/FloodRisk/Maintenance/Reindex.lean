import FloodRisk.Lib.FirstSeen
import FloodRisk.Lib.LastSeen
import FloodRisk.Values

/-!
# Index rebuilds (worker jobs/index_maintenance.py)

`reindexEvidenceIndexes` is one maintenance cycle.  What the server and the
clock answer is a field of `Cycle`; the two module-level dictionaries are the
state.  Instants are microseconds since the epoch.
-/

namespace FloodRisk.Maintenance
open LastSeen

/-! ### The window -/

def dayLength : ℤ := 86400 * 1000000

def minutes (count : ℕ) : ℤ := count * 60 * 1000000

/-- A time of day in whole minutes. -/
abbrev TimeOfDay := Fin 1440

/-- What `_parse_window` accepts. -/
structure Window where
  start : TimeOfDay
  finish : TimeOfDay
  differ : start ≠ finish

def timeOfDay (instant : ℤ) : ℤ := instant % dayLength

/-- `instant.replace(hour, minute, second=0, microsecond=0)`. -/
def replaceTime (instant : ℤ) (time : TimeOfDay) : ℤ :=
  instant - timeOfDay instant + minutes time

def windowStartedAt (now : ℤ) (window : Window) : Option ℤ :=
  let dayStart := replaceTime now window.start
  let current := timeOfDay now
  if window.start < window.finish then
    if minutes window.start ≤ current ∧ current < minutes window.finish then some dayStart
    else none
  else if minutes window.start ≤ current then some dayStart
  else if current < minutes window.finish then some (dayStart - dayLength)
  else none

def windowEndsAt (windowStartedAt : ℤ) (window : Window) : ℤ :=
  let endsAt := replaceTime windowStartedAt window.finish
  if endsAt ≤ windowStartedAt then endsAt + dayLength else endsAt

/-! ### Configuration -/

structure ReindexConfig where
  indexNames : List String
  windowUtc : String
  /-- `windowUtc` as `_parse_window` reads it. -/
  window : Window
  intervalHours : ℤ := 168
  minSizeBytes : ℤ := 8 * 1024 * 1024
  maxIndexBytes : ℤ := 512 * 1024 * 1024
  maxPerWindow : ℤ := 2
  lockTimeoutMs : ℤ := 5000
  statementTimeoutMs : ℤ := 1800000
  minRemainingSeconds : ℤ := 600

def evidenceReindexIndexes : List String :=
  ["idx_evidence_nearby_non_realtime_geom", "idx_evidence_official_water_level_geom",
    "idx_evidence_official_rainfall_geom", "idx_evidence_observed_flood_history_geom",
    "idx_evidence_geom_geography", "idx_evidence_staging_evidence_id",
    "evidence_source_raw_ref_unique"]

def minimumServerVersionNum : ℤ := 120000

def isIndexNameCharacter (c : Char) : Bool :=
  ('a' ≤ c && c ≤ 'z') || ('0' ≤ c && c ≤ '9') || c = '_'

def validatedIndexNames (indexNames : List String) : Option (List String) :=
  let resolved := distinctBy id ((indexNames.map strip).filter (· ≠ ""))
  if resolved = [] then none
  else if resolved.all fun name => name.toList.all isIndexNameCharacter then some resolved
  else none

/-- The checks of the numbers that `reindex_evidence_indexes` raises on. -/
def ReindexConfig.numbersValid (config : ReindexConfig) : Bool :=
  1 ≤ config.intervalHours && 0 ≤ config.minSizeBytes && 1 ≤ config.maxIndexBytes &&
    config.minSizeBytes < config.maxIndexBytes && 1 ≤ config.maxPerWindow &&
    1 ≤ config.lockTimeoutMs && 1 ≤ config.statementTimeoutMs && 1 ≤ config.minRemainingSeconds

def ReindexConfig.interval (config : ReindexConfig) : ℤ := config.intervalHours * 3600 * 1000000

/-! ### A cycle -/

structure IndexState where
  sizeBytes : ℤ
  reltuples : ℚ
  indisvalid : Bool
  relfilenode : ℤ

/-- What the clock and the server answer in one cycle; a statement that raises
does so with its failure code. -/
structure Cycle where
  now : ℤ
  /-- The connection and `SHOW server_version_num`. -/
  serverVersionNum : Except String ℤ
  applyReindexTimeouts : Except String Unit := .ok ()
  sweepInvalidCcLeftovers : List String := []
  indexState : String → Except String (Option IndexState)
  /-- Whole seconds from the start of the cycle to the budget. -/
  spentSeconds : ℤ := 0
  applyStatementBudget : Except String Unit := .ok ()
  reindexIndexConcurrently : String → Except String Unit
  elapsedMs : ℤ := 0
  /-- The probe after the rebuild, or after its failure. -/
  indexStateAfter : String → Except String (Option IndexState)

inductive ReindexOutcome where
  | skippedOutsideWindow | skippedWindowBudget | skippedWindowClosing | skippedUnsupported
  | skippedNoCandidate | reindexed | reindexedAfterLockTimeout
  | failed (code : String)
  deriving DecidableEq, Repr

inductive SkipReason where
  | missing | invalid | small | tooLarge | interval | attempted | windowClosing
  deriving DecidableEq, Repr

structure EvidenceReindexSummary where
  outcome : ReindexOutcome
  index : Option String := none
  windowUtc : String
  beforeBytes : Option ℤ := none
  afterBytes : Option ℤ := none
  reltuples : Option ℚ := none
  elapsedMs : ℤ := 0
  skipped : List (String × SkipReason) := []
  leftoversDropped : List String := []
  budgetMs : Option ℤ := none

/-- `_last_reindex_at` and `_last_attempt_at`. -/
structure ReindexState where
  lastReindexAt : Times String
  lastAttemptAt : Times String

def ReindexState.empty : ReindexState := ⟨Table.empty, Table.empty⟩

/-- One cycle: its summary, unless the configuration is refused, the state it
leaves, the `REINDEX` statements it sent and the rebuilds it recorded. -/
structure CycleResult where
  summary : Option EvidenceReindexSummary
  state : ReindexState
  statements : List String := []
  recorded : List String := []

/-! ### `_skip_reason` -/

def rebuildsInWindow (state : ReindexState) (windowStartedAt : ℤ) : ℕ :=
  countSince state.lastReindexAt windowStartedAt

def skipReason (config : ReindexConfig) (state : ReindexState) (windowStartedAt now : ℤ)
    (indexName : String) : Option IndexState → Option SkipReason
  | none => some .missing
  | some index =>
      if !index.indisvalid then some .invalid
      else if index.sizeBytes < config.minSizeBytes then some .small
      else if index.sizeBytes > config.maxIndexBytes then some .tooLarge
      else if (lookup state.lastReindexAt indexName).any fun last =>
          now - last < config.interval then
        some .interval
      else if (lookup state.lastAttemptAt indexName).any fun last =>
          windowStartedAt ≤ last then
        some .attempted
      else none

/-! ### `_reindex_one` -/

def statementBudgetMs (statementTimeoutMs remainingSeconds spentSeconds : ℤ) : ℤ :=
  min statementTimeoutMs (max 0 (remainingSeconds - (spentSeconds + 1)) * 1000)

def postSwapRecoverableSqlstates : List String := ["55P03", "57014"]

/-- `_recover_post_swap_success`: the state of the rebuilt index. -/
def recoverPostSwapSuccess (cycle : Cycle) (code indexName : String)
    (before : Option IndexState) : Option (IndexState × IndexState) :=
  if code ∈ postSwapRecoverableSqlstates then
    match before, cycle.indexStateAfter indexName with
    | some before, .ok (some after) =>
        if !after.indisvalid then none
        else if after.relfilenode = before.relfilenode then none
        else some (before, after)
    | _, _ => none
  else none

def reindexOne (config : ReindexConfig) (cycle : Cycle) (state : ReindexState)
    (remainingSeconds : ℤ) (skipped : List (String × SkipReason)) (indexName : String)
    (before : Option IndexState) : CycleResult :=
  let leftovers := cycle.sweepInvalidCcLeftovers
  let budgetMs := statementBudgetMs config.statementTimeoutMs remainingSeconds cycle.spentSeconds
  if budgetMs < config.minRemainingSeconds * 1000 then
    { summary := some
        { outcome := .skippedWindowClosing, windowUtc := config.windowUtc
          skipped := skipped ++ [(indexName, .windowClosing)]
          leftoversDropped := leftovers, budgetMs := some budgetMs }
      state }
  else
    match cycle.applyStatementBudget with
    | .error code =>
        { summary := some { outcome := .failed code, windowUtc := config.windowUtc }, state }
    | .ok _ =>
        let attempted : ReindexState :=
          { state with lastAttemptAt := record state.lastAttemptAt indexName cycle.now }
        let rebuilt : ReindexState :=
          { attempted with lastReindexAt := record state.lastReindexAt indexName cycle.now }
        match cycle.reindexIndexConcurrently indexName with
        | .error code =>
            match recoverPostSwapSuccess cycle code indexName before with
            | some (before, after) =>
                { summary := some
                    { outcome := .reindexedAfterLockTimeout, index := some indexName
                      windowUtc := config.windowUtc, beforeBytes := some before.sizeBytes
                      afterBytes := some after.sizeBytes, reltuples := some after.reltuples
                      elapsedMs := cycle.elapsedMs, skipped, leftoversDropped := leftovers }
                  state := rebuilt, statements := [indexName], recorded := [indexName] }
            | none =>
                { summary := some
                    { outcome := .failed code, index := some indexName
                      windowUtc := config.windowUtc, beforeBytes := before.map IndexState.sizeBytes
                      reltuples := before.map IndexState.reltuples
                      elapsedMs := cycle.elapsedMs, skipped, leftoversDropped := leftovers
                      budgetMs := some budgetMs }
                  state := attempted, statements := [indexName] }
        | .ok _ =>
            match cycle.indexStateAfter indexName with
            | .error code =>
                { summary := some { outcome := .failed code, windowUtc := config.windowUtc }
                  state := rebuilt, statements := [indexName], recorded := [indexName] }
            | .ok after =>
                { summary := some
                    { outcome := .reindexed, index := some indexName
                      windowUtc := config.windowUtc, beforeBytes := before.map IndexState.sizeBytes
                      afterBytes := after.map IndexState.sizeBytes
                      reltuples := after.map IndexState.reltuples
                      elapsedMs := cycle.elapsedMs, skipped, leftoversDropped := leftovers
                      budgetMs := some budgetMs }
                  state := rebuilt, statements := [indexName], recorded := [indexName] }

/-! ### `_reindex_first_eligible` -/

/-- The loop over the names; `skipped` is what it has passed over so far. -/
def firstEligible (config : ReindexConfig) (cycle : Cycle) (state : ReindexState)
    (windowStartedAt remainingSeconds : ℤ) :
    List (String × SkipReason) → List String → CycleResult
  | skipped, [] =>
      { summary := some
          { outcome := .skippedNoCandidate, windowUtc := config.windowUtc, skipped
            leftoversDropped := cycle.sweepInvalidCcLeftovers }
        state }
  | skipped, indexName :: rest =>
      match cycle.indexState indexName with
      | .error code =>
          { summary := some { outcome := .failed code, windowUtc := config.windowUtc }, state }
      | .ok before =>
          match skipReason config state windowStartedAt cycle.now indexName before with
          | some reason =>
              firstEligible config cycle state windowStartedAt remainingSeconds
                (skipped ++ [(indexName, reason)]) rest
          | none => reindexOne config cycle state remainingSeconds skipped indexName before

def reindexFirstEligible (config : ReindexConfig) (cycle : Cycle) (state : ReindexState)
    (indexNames : List String) (windowStartedAt remainingSeconds : ℤ) : CycleResult :=
  match cycle.serverVersionNum with
  | .error code =>
      { summary := some { outcome := .failed code, windowUtc := config.windowUtc }, state }
  | .ok version =>
      if version < minimumServerVersionNum then
        { summary := some { outcome := .skippedUnsupported, windowUtc := config.windowUtc }, state }
      else
        match cycle.applyReindexTimeouts with
        | .error code =>
            { summary := some { outcome := .failed code, windowUtc := config.windowUtc }, state }
        | .ok _ => firstEligible config cycle state windowStartedAt remainingSeconds [] indexNames

/-! ### `reindex_evidence_indexes` -/

def reindexEvidenceIndexes (config : ReindexConfig) (cycle : Cycle) (state : ReindexState) :
    CycleResult :=
  match validatedIndexNames config.indexNames with
  | none => { summary := none, state }
  | some indexNames =>
      if config.numbersValid then
        match windowStartedAt cycle.now config.window with
        | none =>
            { summary := some
                { outcome := .skippedOutsideWindow, windowUtc := config.windowUtc }
              state }
        | some startedAt =>
            if config.maxPerWindow ≤ rebuildsInWindow state startedAt then
              { summary := some
                  { outcome := .skippedWindowBudget, windowUtc := config.windowUtc }
                state }
            else
              let remainingSeconds := (windowEndsAt startedAt config.window - cycle.now) / 1000000
              if remainingSeconds ≤ config.minRemainingSeconds then
                { summary := some
                    { outcome := .skippedWindowClosing, windowUtc := config.windowUtc }
                  state }
              else
                reindexFirstEligible config cycle state indexNames startedAt remainingSeconds
      else { summary := none, state }

/-! ### What a cycle can do -/

/-- The index was due when the cycle chose it. -/
structure Due (config : ReindexConfig) (state : ReindexState) (startedAt now : ℤ)
    (indexName : String) : Prop where
  spaced : ∀ last ∈ lookup state.lastReindexAt indexName, config.interval ≤ now - last
  untried : ∀ last ∈ lookup state.lastAttemptAt indexName, last < startedAt

theorem due_of_skipReason {config : ReindexConfig} {state : ReindexState} {startedAt now : ℤ}
    {indexName : String} {before : Option IndexState}
    (h : skipReason config state startedAt now indexName before = none) :
    Due config state startedAt now indexName := by
  cases before with
  | none => simp [skipReason] at h
  | some index =>
    simp only [skipReason] at h
    split_ifs at h with hinvalid hsmall hlarge hinterval hattempted
    constructor
    · intro last hlast
      rw [Option.mem_def.mp hlast] at hinterval
      simpa using hinterval
    · intro last hlast
      rw [Option.mem_def.mp hlast] at hattempted
      simpa using hattempted

/-- A cycle changes nothing, or it sends one `REINDEX`, of an index that is due in an
open window with budget left, and may record it. -/
inductive CycleEffect (config : ReindexConfig) (now : ℤ) (state : ReindexState) :
    CycleResult → Prop where
  | idle (summary : Option EvidenceReindexSummary) :
      CycleEffect config now state { summary, state }
  | attempted (summary : Option EvidenceReindexSummary) (startedAt : ℤ) (indexName : String)
      (opened : windowStartedAt now config.window = some startedAt)
      (budget : (rebuildsInWindow state startedAt : ℤ) < config.maxPerWindow)
      (due : Due config state startedAt now indexName) :
      CycleEffect config now state
        { summary, statements := [indexName]
          state := { state with lastAttemptAt := record state.lastAttemptAt indexName now } }
  | rebuilt (summary : Option EvidenceReindexSummary) (startedAt : ℤ) (indexName : String)
      (opened : windowStartedAt now config.window = some startedAt)
      (budget : (rebuildsInWindow state startedAt : ℤ) < config.maxPerWindow)
      (due : Due config state startedAt now indexName) :
      CycleEffect config now state
        { summary, statements := [indexName], recorded := [indexName]
          state := ⟨record state.lastReindexAt indexName now,
            record state.lastAttemptAt indexName now⟩ }

section Effect

variable {config : ReindexConfig} {cycle : Cycle} {state : ReindexState} {startedAt : ℤ}
  (opened : windowStartedAt cycle.now config.window = some startedAt)
  (budget : (rebuildsInWindow state startedAt : ℤ) < config.maxPerWindow)
include opened budget

theorem reindexOne_effect {indexName : String}
    (due : Due config state startedAt cycle.now indexName) (remainingSeconds : ℤ)
    (skipped : List (String × SkipReason)) (before : Option IndexState) :
    CycleEffect config cycle.now state
      (reindexOne config cycle state remainingSeconds skipped indexName before) := by
  unfold reindexOne
  simp only
  split_ifs with hclosing
  · exact .idle _
  · cases cycle.applyStatementBudget with
    | error code => exact .idle _
    | ok _ =>
      simp only
      cases cycle.reindexIndexConcurrently indexName with
      | error code =>
        simp only
        cases recoverPostSwapSuccess cycle code indexName before with
        | none => exact .attempted _ startedAt indexName opened budget due
        | some states => exact .rebuilt _ startedAt indexName opened budget due
      | ok _ =>
        simp only
        cases cycle.indexStateAfter indexName with
        | error code => exact .rebuilt _ startedAt indexName opened budget due
        | ok after => exact .rebuilt _ startedAt indexName opened budget due

theorem firstEligible_effect (remainingSeconds : ℤ) (indexNames : List String)
    (skipped : List (String × SkipReason)) :
    CycleEffect config cycle.now state
      (firstEligible config cycle state startedAt remainingSeconds skipped indexNames) := by
  induction indexNames generalizing skipped with
  | nil => exact .idle _
  | cons indexName rest ih =>
    unfold firstEligible
    cases cycle.indexState indexName with
    | error code => exact .idle _
    | ok before =>
      simp only
      cases hskip : skipReason config state startedAt cycle.now indexName before with
      | some reason => exact ih _
      | none => exact reindexOne_effect opened budget (due_of_skipReason hskip) _ _ _

theorem reindexFirstEligible_effect (indexNames : List String) (remainingSeconds : ℤ) :
    CycleEffect config cycle.now state
      (reindexFirstEligible config cycle state indexNames startedAt remainingSeconds) := by
  unfold reindexFirstEligible
  cases cycle.serverVersionNum with
  | error code => exact .idle _
  | ok version =>
    simp only
    split_ifs with hold
    · exact .idle _
    · cases cycle.applyReindexTimeouts with
      | error code => exact .idle _
      | ok _ => exact firstEligible_effect opened budget _ _ _

end Effect

theorem reindexEvidenceIndexes_effect (config : ReindexConfig) (cycle : Cycle)
    (state : ReindexState) :
    CycleEffect config cycle.now state (reindexEvidenceIndexes config cycle state) := by
  unfold reindexEvidenceIndexes
  cases validatedIndexNames config.indexNames with
  | none => exact .idle _
  | some indexNames =>
    simp only
    split_ifs with hvalid
    · cases hopened : windowStartedAt cycle.now config.window with
      | none => exact .idle _
      | some startedAt =>
        simp only
        split_ifs with hspent hclosing
        · exact .idle _
        · exact .idle _
        · exact reindexFirstEligible_effect hopened (not_le.mp hspent) _ _
    · exact .idle _

end FloodRisk.Maintenance
