import FloodRisk.Adapters.Helpers
import FloodRisk.Staging.Metadata

/-!
# Station readings from the item to the staged row

The run of a station adapter (adapters/contracts.py), the checks of its evidence
(pipelines/validation.py) and the rows that are staged of it (pipelines/staging.py,
pipelines/postgres_writer.py). The rows of flood warnings are those of `Staging.Metadata`.
-/

namespace FloodRisk.Adapters
open Python Promotion

structure RawSourceItem where
  sourceId : Text
  sourceUrl : Text
  payload : Members

structure NormalizedEvidence where
  evidenceId : Text
  adapterKey : String
  eventType : EventType
  sourceId : Text
  sourceUrl : Text
  sourceTitle : Text
  sourceTimestamp : Datetime
  summary : Text
  locationText : Text
  confidence : ℚ
  attribution : Text
  tags : List String

structure AdapterRunResult where
  adapterKey : String
  fetched : List RawSourceItem
  normalized : List NormalizedEvidence
  rejected : List Text

/-- The text of a member that is one. -/
def textOf (members : Members) (key : String) : Text :=
  match get members key with
  | .text t => t
  | _ => []

/-- `_source_id`, the same in all station adapters. -/
def sourceIdOf (record : Members) : Text :=
  textOf record "station_id" ++ text ":" ++ textOf record "observed_at"

/-! ### The run -/

/-- The loop over the items: what is no object is skipped, and so is an item without a record. -/
def parseItems {α : Type} (parse : Members → Except Raised (Option α)) :
    List Value → Except Raised (List α)
  | [] => .ok []
  | .object members :: rest => do
      match ← parse members with
      | some record => return record :: (← parseItems parse rest)
      | none => parseItems parse rest
  | _ :: rest => parseItems parse rest

/-- A record that was parsed comes from an item. -/
theorem parseItems_mem {α : Type} {parse : Members → Except Raised (Option α)} {items : List Value}
    {records : List α} (h : parseItems parse items = .ok records) {record : α}
    (hrecord : record ∈ records) :
    ∃ members, Value.object members ∈ items ∧ parse members = .ok (some record) := by
  induction items generalizing records with
  | nil =>
    cases h
    exact absurd hrecord List.not_mem_nil
  | cons item rest ih =>
    have hlater : ∀ {others}, parseItems parse rest = .ok others → record ∈ others →
        ∃ members, Value.object members ∈ item :: rest ∧ parse members = .ok (some record) := by
      intro others hothers hmem
      obtain ⟨members, hitem, hparse⟩ := ih hothers hmem
      exact ⟨members, List.mem_cons_of_mem _ hitem, hparse⟩
    cases item with
    | object members =>
      unfold parseItems at h
      obtain ⟨found, hfound, h⟩ := Outcome.bind_eq_ok.mp h
      cases found with
      | none => exact hlater h hrecord
      | some first =>
        obtain ⟨others, hothers, h⟩ := Outcome.bind_eq_ok.mp h
        cases h
        cases List.mem_cons.mp hrecord with
        | inl heq => exact ⟨members, List.mem_cons_self, heq ▸ hfound⟩
        | inr hmem => exact hlater hothers hmem
    | _ => exact hlater h hrecord

theorem returns_parseItems {α : Type} {parse : Members → Except Raised (Option α)}
    {items : List Value} :
    Outcome.Returns (parseItems parse items) ↔
      ∀ item, .object item ∈ items → Outcome.Returns (parse item) := by
  induction items with
  | nil => exact ⟨fun _ _ h => absurd h List.not_mem_nil, fun _ => Outcome.returns_ok []⟩
  | cons first rest ih =>
    cases first with
    | object members =>
      have hstep : Outcome.Returns (parseItems parse (.object members :: rest)) ↔
          Outcome.Returns (parse members) ∧ Outcome.Returns (parseItems parse rest) := by
        rw [parseItems]
        refine Outcome.returns_bind_const fun found _ => ?_
        cases found with
        | none => exact Iff.rfl
        | some record => exact Outcome.returns_bind_ok
      rw [hstep, ih]
      constructor
      · rintro ⟨hfirst, hrest⟩ item hitem
        rcases List.mem_cons.mp hitem with heq | hitem
        · cases heq
          exact hfirst
        · exact hrest item hitem
      · intro h
        exact ⟨h members List.mem_cons_self, fun item hitem => h item (List.mem_cons_of_mem _ hitem)⟩
    | _ =>
      refine Iff.trans ih ?_
      constructor
      · intro h item hitem
        rcases List.mem_cons.mp hitem with heq | hitem
        · cases heq
        · exact h item hitem
      · exact fun h item hitem => h item (List.mem_cons_of_mem _ hitem)

/-- The loop of `run`. -/
def normalizeAll (normalize : RawSourceItem → Except Raised (Option NormalizedEvidence)) :
    List RawSourceItem → Except Raised (List NormalizedEvidence × List Text)
  | [] => .ok ([], [])
  | raw :: rest => do
      let evidence ← normalize raw
      let (normalized, rejected) ← normalizeAll normalize rest
      match evidence with
      | none => return (normalized, raw.sourceId :: rejected)
      | some found => return (found :: normalized, rejected)

def runFetched (adapterKey : String)
    (normalize : RawSourceItem → Except Raised (Option NormalizedEvidence))
    (fetched : List RawSourceItem) : Except Raised AdapterRunResult := do
  let (normalized, rejected) ← normalizeAll normalize fetched
  return ⟨adapterKey, fetched, normalized, rejected⟩

/-! ### The checks -/

def missing (name : String) (isMissing : Bool) : List String :=
  if isMissing then ["missing " ++ name] else []

/-- `_evidence_errors`; family, type and status are those of the adapters. -/
def evidenceErrors (evidence : NormalizedEvidence) : List String :=
  missing "evidence_id" (evidence.evidenceId = []) ++
    missing "adapter_key" (evidence.adapterKey = "") ++
    missing "source_id" (evidence.sourceId = []) ++
    missing "source_url" (evidence.sourceUrl = []) ++
    missing "source_title" (evidence.sourceTitle = []) ++
    missing "summary" (evidence.summary = []) ++
    if 0 ≤ evidence.confidence ∧ evidence.confidence ≤ 1 then []
    else ["confidence must be between 0.0 and 1.0"]

mutual

/-- The value as the checks of the staged metadata see it. -/
def rawValue : Value → Staging.RawValue
  | .null => .null
  | .boolean b => .boolean b
  | .integer n => .number n
  | .float (.finite q) => .number q
  | .float .negativeZero => .number 0
  | .float (.infinite _) => .other "float"
  | .float .nan => .other "float"
  | .text t => .text (shown t)
  | .list values => .list (rawValues values)
  | .object members => .mapping (rawMembers members)

def rawValues : List Value → List Staging.RawValue
  | [] => []
  | value :: rest => rawValue value :: rawValues rest

def rawMembers : Members → Staging.RawPayload
  | [] => []
  | (name, value) :: rest => (name, rawValue value) :: rawMembers rest

end

def raisedBy : Staging.Failure → Raised
  | .unhashable => .typeError
  | .overflow => .overflowError

/-- `_staging_metadata_errors` of a raw item. -/
def metadataErrors (rawItem : Option RawSourceItem) (eventType : EventType)
    (generation : Option IsoFormat.Reading) : Except Raised (List String) :=
  (Staging.stagingMetadataErrors (rawItem.map fun raw => .mapping (rawMembers raw.payload)) eventType
    generation).mapError raisedBy

/-! ### The staged payload -/

def payloadOf (rawItem : Option RawSourceItem) : Members := (rawItem.map (·.payload)).getD []

/-- `_location_payload`. -/
def locationPayload (payload : Members) : Members :=
  let parts : Members := ["geometry", "query_place"].filterMap fun key =>
    match get payload key with
    | .object members => some (key, .object members)
    | _ => none
  if parts.isEmpty then [] else [("location_payload", .object parts)]

/-- The metrics of some of the keys. -/
def metricsOf (payload : Members) : List String → Except Raised Members
  | [] => .ok []
  | key :: rest =>
      match get payload key with
      | .integer n => do
          let x ← Double.ofInteger n
          return (key, .float x) :: (← metricsOf payload rest)
      | .float x => do return (key, .float x) :: (← metricsOf payload rest)
      | _ => metricsOf payload rest

/-- `_realtime_metrics_payload`. -/
def realtimeMetricsPayload (payload : Members) : Except Raised Members :=
  metricsOf payload Staging.realtimeMetricKeys

def presentMembers (payload : Members) (keys : List String) : Members :=
  keys.filterMap fun key =>
    if (get payload key).isNull then none else some (key, get payload key)

/-- `payload[key] = value` of a dict. -/
def setMember (payload : Members) (key : String) (value : Value) : Members :=
  (key, value) :: payload.filter fun entry => entry.1 ≠ key

/-- The texts that are not blank, each once. -/
def retainedTexts (texts : List Text) : List Text :=
  texts.foldl (fun retained t =>
    if stripText t = [] ∨ stripText t ∈ retained then retained else retained ++ [stripText t]) []

section Staging

variable (runtime : Runtime)

def withLimitations (payload members : Members) : Except Raised Members :=
  match get payload "limitations" with
  | .list values => (values.mapM (str runtime.printing)).map fun texts =>
      setMember members "limitations" (.list ((retainedTexts texts).map .text))
  | _ => .ok members

def withRevision (payload members : Members) : Members :=
  match get payload "dataset_revision" with
  | .text revision =>
      if stripText revision = [] then members
      else setMember members "dataset_revision" (.text (stripText revision))
  | _ => members

/-- `_passthrough_payload`, of an event other than a flood warning. -/
def passthroughPayload (payload : Members) : Except Raised Members :=
  (withLimitations runtime payload
    (presentMembers payload Staging.stagingPayloadPassthroughKeys)).map (withRevision payload)

/-- `StagingEvidenceUpsert`. -/
structure StagedRow where
  rawRef : Text
  evidenceId : Text
  adapterKey : String
  sourceId : Text
  eventType : EventType
  title : Text
  summary : Text
  url : Text
  occurredAt : Datetime
  observedAt : Datetime
  confidence : ℚ
  rejectionReason : Option String
  payload : Members

structure StagingContext where
  rawRef : Text
  generation : Option IsoFormat.Reading
  snapshotGenerationMode : Option String

/-- `_to_staging_upsert`; a row without a reason is accepted. -/
def toStagingUpsert (context : StagingContext) (evidence : NormalizedEvidence)
    (rejectionReason : Option String) (rawItem : Option RawSourceItem)
    (generation : Option IsoFormat.Reading) : Except Raised StagedRow := do
  let metrics ← realtimeMetricsPayload (payloadOf rawItem)
  let passthrough ← passthroughPayload runtime (payloadOf rawItem)
  return {
    rawRef := context.rawRef
    evidenceId := evidence.evidenceId
    adapterKey := evidence.adapterKey
    sourceId := evidence.sourceId
    eventType := evidence.eventType
    title := evidence.sourceTitle
    summary := evidence.summary
    url := evidence.sourceUrl
    occurredAt := evidence.sourceTimestamp
    observedAt := evidence.sourceTimestamp
    confidence := evidence.confidence
    rejectionReason := rejectionReason
    payload := [("location_text", .text evidence.locationText)] ++
      locationPayload (payloadOf rawItem) ++ metrics ++ passthrough ++
      (generation.toList.map fun started =>
        ("ingestion_generation_started_at", .text (text (isoformat started)))) ++
      (context.snapshotGenerationMode.toList.map fun mode =>
        ("snapshot_generation_mode", .text (text mode))) ++
      [("attribution", .text evidence.attribution),
        ("tags", .list (evidence.tags.map fun tag => .text (text tag)))] }

/-- `raw_by_source_id`: a later raw item replaces an earlier one. -/
def rawBySourceId (fetched : List RawSourceItem) (sourceId : Text) : Option RawSourceItem :=
  fetched.reverse.find? fun raw => raw.sourceId = sourceId

/-- The row of one evidence. -/
def stagedRow (context : StagingContext) (fetched : List RawSourceItem)
    (evidence : NormalizedEvidence) : Except Raised StagedRow := do
  let rawItem := rawBySourceId fetched evidence.sourceId
  if evidenceErrors evidence ≠ [] then
    toStagingUpsert runtime context evidence
      (some (String.intercalate "; " (evidenceErrors evidence))) rawItem none
  else
    let errors ← metadataErrors rawItem evidence.eventType context.generation
    if errors = [] then
      toStagingUpsert runtime context evidence none rawItem context.generation
    else
      toStagingUpsert runtime context evidence
        (some ("invalid staging metadata: " ++ String.intercalate "; " errors)) rawItem none

structure AdapterStagingBatch where
  adapterKey : String
  accepted : List StagedRow
  rejected : List StagedRow
  rejectedRawSourceIds : List Text

def AdapterStagingBatch.rows (batch : AdapterStagingBatch) : List StagedRow :=
  batch.accepted ++ batch.rejected

/-- `build_staging_batch`; evidence that fails its own checks is staged last. -/
def buildStagingBatch (context : StagingContext) (result : AdapterRunResult) :
    Except Raised AdapterStagingBatch :=
  if result.fetched.isEmpty then .error .valueError
  else if context.generation.any fun started => started.offset.isNone then .error .valueError
  else do
    let checked ← (result.normalized.filter fun evidence => evidenceErrors evidence = []).mapM
      (stagedRow runtime context result.fetched)
    let failed ← (result.normalized.filter fun evidence => evidenceErrors evidence ≠ []).mapM
      (stagedRow runtime context result.fetched)
    return {
      adapterKey := result.adapterKey
      accepted := checked.filter fun row => row.rejectionReason.isNone
      rejected := (checked.filter fun row => row.rejectionReason.isSome) ++ failed
      rejectedRawSourceIds := result.rejected }

/-- What `_json` prints of a staged row. -/
def stagedDocument (row : StagedRow) : Value :=
  .object (row.payload ++ [("evidence_id", .text row.evidenceId),
    ("adapter_key", .text (text row.adapterKey)), ("raw_ref", .text row.rawRef)])

end Staging

end FloodRisk.Adapters
