import FloodRisk.Ingestion.ManagedCycle

/-!
# The tick of the v1 baseline (cli/runtime_cli.py)

`runBaselineTick` is `_run_v1_baseline_tick`: it reads the source catalogue,
constructs the adapter of every due source and runs the constructed ones one
after the other.  A source that fails is recorded and the next one is run.
-/

namespace FloodRisk.Ingestion
open Promotion

def historicalCoverageAdapterKeys : List String :=
  ["official.nstc.flood_disaster_points", "official.wra.historical_flood"]

/-- `build_runtime_adapters` of one source. -/
inductive Construction where
  | raised (errorCode : String)
  | gatedOff
  | built

/-- Everything a source meets in a tick. -/
structure SourceRun where
  construction : Construction
  untilConstruction : ℕ
  untilSource : ℕ
  cycle : CycleRun
  untilFailure : ℕ
  coverage : Attempt

/-- `catalog` is the set the catalogue reader returns, none when it raises;
`isDue` is `adapter_keys_to_run`; `selectionRaised` says that
`record_runtime_selection` raised. -/
structure TickRun where
  configuredKeys : List String
  distinct : configuredKeys.Nodup
  catalog : Option (List String)
  untilCatalog : ℕ
  isDue : String → Bool
  selectionRaised : Bool
  sources : String → SourceRun

/-- `_v1_source_failure_run_at`. -/
def sourceFailureRunAt (summaries : List AdapterBatchRunSummary) (key : String) (fallback : ℤ) :
    ℤ :=
  let started := (summaries.filter (fun summary => summary.adapterKey = key)).map
    AdapterBatchRunSummary.startedAt
  started.max?.getD fallback

/-! ### One source -/

/-- The construction of an adapter; a raised one is recorded at once. -/
def constructSource (source : SourceRun) (key : String) (state : TickState) : TickState :=
  let waited := state.wait source.untilConstruction
  match source.construction with
  | .raised errorCode =>
      (recordFailure key waited.now (some errorCode) (waited.fail key .construction)).report
  | .gatedOff => waited
  | .built => waited

def isBuilt (source : SourceRun) : Bool :=
  match source.construction with
  | .built => true
  | .gatedOff => false
  | .raised _ => false

/-- `pipeline_failed` of a failed result. -/
def pipelineFailed (result : ManagedRuntimeIngestionResult) : Bool :=
  result.errorCode.isSome || result.reason.isSome ||
    result.summaries.any (fun summary => summary.status = .failed)

/-- The summary whose snapshot the coverage writer assesses. -/
def coverageSummary (key : String) (result : ManagedRuntimeIngestionResult) :
    Option AdapterBatchRunSummary :=
  if key ∈ historicalCoverageAdapterKeys then
    result.summaries.find? (fun summary => summary.adapterKey = key && summary.rawRef.isSome)
  else none

def finishSource (source : SourceRun) (key : String) (sourceStartedAt : ℤ)
    (result : ManagedRuntimeIngestionResult) (state : TickState) : TickState :=
  let waited := state.wait source.untilFailure
  if result.status = .failed then
    if pipelineFailed result then
      (recordFailure key (sourceFailureRunAt result.summaries key sourceStartedAt) result.errorCode
        waited).report
    else waited.report
  else
    match coverageSummary key result with
    | none => waited
    | some summary =>
        let covered := waited.work source.coverage.work
        match source.coverage.raised with
        | none => covered
        | some errorCode =>
            (recordFailure key summary.startedAt (some errorCode)
              (covered.fail key .coverage)).report

def runSource (source : SourceRun) (key : String) (state : TickState) : TickState :=
  let started := state.wait source.untilSource
  match runBaselineAdapterCycle key source.cycle started with
  | (.error errorCode, raised) =>
      let waited := raised.wait source.untilFailure
      (recordFailure key waited.now (some errorCode) waited).report
  | (.ok result, finished) => finishSource source key started.now result finished

/-! ### The tick -/

def foldSources (step : String → TickState → TickState) (keys : List String) (state : TickState) :
    TickState :=
  keys.foldl (fun current key => step key current) state

/-- The keys that the catalogue enables and the cadence makes due. -/
def executionKeys (tick : TickRun) (enabledKeys : List String) : List String :=
  tick.configuredKeys.filter fun key => decide (key ∈ enabledKeys) && tick.isDue key

def startTick (state : TickState) : TickState :=
  { state with failures := [], hadFailure := false }

def runBaselineTick (state : TickState) (tick : TickRun) : TickState :=
  let waited := (startTick state).wait tick.untilCatalog
  match tick.catalog with
  | none =>
      foldSources (fun key current =>
          (recordFailure key waited.now (some "SourceCatalogUnavailable")
            (current.fail key .catalog)).report)
        tick.configuredKeys waited
  | some enabledKeys =>
      let keys := executionKeys tick enabledKeys
      let constructed :=
        foldSources (fun key => constructSource (tick.sources key) key) keys waited
      foldSources (fun key => runSource (tick.sources key) key)
        (keys.filter fun key => isBuilt (tick.sources key))
        (if tick.selectionRaised then constructed.report else constructed)

end FloodRisk.Ingestion
