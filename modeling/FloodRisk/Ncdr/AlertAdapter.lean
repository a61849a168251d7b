import FloodRisk.Ncdr.ActiveIndex

/-!
# A poll of the NCDR adapter (adapters/ncdr/cap_alerts.py, adapters/contracts.py)

`run` selects the documents of the index, audits the rows of each and decides
whether the poll found no active event.
-/

namespace FloodRisk.Ncdr

abbrev maxNcdrAuditedRows : ℕ := 256

/-- `AdapterRunResult`; its fields carry the checks of `__post_init__`. -/
structure AdapterRunResult where
  adapterKey : String
  fetched : List RawSourceItem
  normalized : List NormalizedEvidence
  rejected : List String
  sourceRejections : List SourceRejection
  noActiveEvent : Bool
  bounded : sourceRejections.length ≤ 256
  distinct : (sourceRejections.map SourceRejection.sourceId).Nodup
  listed : ∀ rejection ∈ sourceRejections, rejection.sourceId ∈ rejected
  disjoint : ∀ rejection ∈ sourceRejections, ∀ evidence ∈ normalized,
    rejection.sourceId ≠ evidence.sourceId

/-- The configured adapter, the time of the poll and what its two fetchers
return or raise. -/
structure Poll where
  runtime : Runtime
  apiKey : Option String
  datastoreUrl : String
  dumpUrl : String
  activeFeedUrl : String
  configuredMaxCapIds : ℤ
  rawSnapshotKey : Option String
  fetchedAt : ℤ
  callJsonFetcher : String → List (String × String) → Except NcdrError Json
  callTextFetcher : String → List (String × String) → Except NcdrError String

structure SelectedDocument where
  capId : String
  capUrl : String
  dumpParams : List (String × String)
  deriving DecidableEq

/-- The lists and counters of `_fetch_audited_rows`. -/
structure AuditedRows where
  fetched : List RawSourceItem := []
  normalized : List NormalizedEvidence := []
  rejections : List SourceRejection := []
  seenSourceIds : List String := []
  successfulDumpCount : ℕ := 0
  auditedRowCount : ℕ := 0
  maxRetryAfterSeconds : Option ℤ := none

/-- `_bounded_retry_after`. -/
def boundedRetryAfter (value : Option ℤ) : Option ℤ := value.map fun seconds => min 3600 (max 0 seconds)

namespace Poll

variable (poll : Poll)

def key : String := strip (poll.apiKey.getD "")

def maxCapIdsPerRun : ℕ := (min 200 (max 1 poll.configuredMaxCapIds)).toNat

/-! ### Selection -/

/-- The dump of an id of the member datastore. -/
def dumpDocument (capId : String) : SelectedDocument :=
  ⟨capId, poll.dumpUrl, [("apikey", poll.key), ("capid", capId), ("format", "xml")]⟩

def publicDocument (document : String × String) : SelectedDocument := ⟨document.1, document.2, []⟩

def fetchIndex : Except NcdrError Json :=
  poll.callJsonFetcher poll.datastoreUrl
    [("apikey", poll.key), ("format", "json"), ("limit", toString poll.maxCapIdsPerRun)]

/-- `selected_documents` of `_fetch_audited_rows`. -/
def selectedDocuments : Except NcdrError (List SelectedDocument) :=
  if poll.key ≠ "" && (isSubtext poll.key poll.datastoreUrl || isSubtext poll.key poll.dumpUrl) then
    .error (.configuration "NCDR endpoint contained [REDACTED] credential material")
  else if poll.key ≠ "" then do
    let indexPayload ← poll.fetchIndex
    let capIds ← parseDatastoreCapIds indexPayload poll.key poll.maxCapIdsPerRun
    return capIds.map poll.dumpDocument
  else do
    let feedXml ← poll.callTextFetcher poll.activeFeedUrl []
    let documents ←
      parsePublicActiveFeed poll.runtime poll.activeFeedUrl feedXml poll.maxCapIdsPerRun
    return documents.map publicDocument

/-! ### One document -/

/-- What the fetch and the parse of a dump give: its messages, or a failed dump
with the cooldown of a rate limit. -/
inductive Dump where
  | failed (retryAfterSeconds : Option ℤ)
  | parsed (messages : List ParsedCapMessage)

def fetchDump (document : SelectedDocument) : Except NcdrError Dump :=
  match poll.callTextFetcher document.capUrl document.dumpParams with
  | .error (.rateLimit _ retryAfterSeconds) => .ok (.failed retryAfterSeconds)
  | .error error => if error.isAdapterError then .ok (.failed none) else .error error
  | .ok xmlText =>
      if poll.key ≠ "" && isSubtext poll.key xmlText then .ok (.failed none)
      else
        match parseCapDocument poll.runtime xmlText with
        | .ok messages => .ok (.parsed messages)
        | .error _ => .ok (.failed none)

/-- `message.areas or (None,)`. -/
def auditAreas (message : ParsedCapMessage) : List (Option ParsedCapArea) :=
  if message.areas.isEmpty then [none] else message.areas.map some

def auditPairs (messages : List ParsedCapMessage) :
    List (ParsedCapMessage × Option ParsedCapArea) :=
  messages.flatMap fun message => (auditAreas message).map fun area => (message, area)

def rowCount (messages : List ParsedCapMessage) : ℕ :=
  (messages.map fun message => if message.areas.length = 0 then 1 else message.areas.length).sum

def prepareRow (document : SelectedDocument) (pair : ParsedCapMessage × Option ParsedCapArea) :
    Except CapDocumentError (RawSourceItem × Option String) :=
  prepareAuditRow poll.runtime pair.1 pair.2 document.capId poll.fetchedAt document.capUrl
    poll.rawSnapshotKey

def prepareRows (document : SelectedDocument) (messages : List ParsedCapMessage) :
    Except CapDocumentError (List (RawSourceItem × Option String)) :=
  (auditPairs messages).mapM (poll.prepareRow document)

/-- `_reject_secret_bearing_raw`. -/
def rejectSecretBearingRaw (raw : RawSourceItem) : Except NcdrError Unit :=
  if poll.key ≠ "" && (isSubtext poll.key raw.sourceId || isSubtext poll.key raw.sourceUrl ||
      raw.rawSnapshotKey.any (isSubtext poll.key) ||
      membersContainSecret poll.runtime.isoformat poll.key raw.payload) then
    .error (.payload "NCDR CAP raw audit contained [REDACTED] credential material")
  else .ok ()

/-- The row that stands for a failed dump. -/
def failureRaw (document : SelectedDocument) (retryAfterSeconds : Option ℤ) : RawSourceItem where
  sourceId := "ncdr-transport:" ++ poll.runtime.transportDigest document.capId
  sourceUrl := document.capUrl
  fetchedAt := poll.fetchedAt
  payload :=
    [("transport_capid", .text document.capId), ("error", .text "NCDR CAP dump fetch failed")] ++
      (match retryAfterSeconds with
      | some seconds => [("retry_after_seconds", .number seconds)]
      | none => [])
  rawSnapshotKey := poll.rawSnapshotKey

def addFailedDump (rows : AuditedRows) (document : SelectedDocument)
    (retryAfterSeconds : Option ℤ) : Except NcdrError AuditedRows :=
  if maxNcdrAuditedRows < rows.auditedRowCount + 1 then
    .error (.payload "NCDR CAP exceeds the 256 audited-row limit")
  else do
    let raw := poll.failureRaw document retryAfterSeconds
    poll.rejectSecretBearingRaw raw
    return { rows with
      fetched := rows.fetched ++ [raw]
      rejections := rows.rejections ++ [⟨raw.sourceId, "ncdr_dump_fetch_failed"⟩]
      auditedRowCount := rows.auditedRowCount + 1
      maxRetryAfterSeconds :=
        match retryAfterSeconds with
        | some seconds => some (max (rows.maxRetryAfterSeconds.getD 0) seconds)
        | none => rows.maxRetryAfterSeconds }

/-- One prepared row: the first of its source id is kept. -/
def keepRow (rows : AuditedRows) (row : RawSourceItem × Option String) : AuditedRows :=
  if row.1.sourceId ∈ rows.seenSourceIds then rows
  else
    let kept := { rows with
      seenSourceIds := rows.seenSourceIds ++ [row.1.sourceId]
      fetched := rows.fetched ++ [row.1] }
    match row.2 with
    | some reason => { kept with rejections := kept.rejections ++ [⟨row.1.sourceId, reason⟩] }
    | none =>
        match normalizeReviewedRaw poll.runtime row.1 with
        | some evidence => { kept with normalized := kept.normalized ++ [evidence] }
        | none =>
            { kept with
              rejections := kept.rejections ++ [⟨row.1.sourceId, "ncdr_normalization_failed"⟩] }

def addDump (rows : AuditedRows) (prepared : List (RawSourceItem × Option String)) (count : ℕ) :
    Except NcdrError AuditedRows := do
  prepared.forM fun row => poll.rejectSecretBearingRaw row.1
  return prepared.foldl poll.keepRow
    { rows with
      successfulDumpCount := rows.successfulDumpCount + 1
      auditedRowCount := rows.auditedRowCount + count }

def auditDump (rows : AuditedRows) (document : SelectedDocument) (dump : Dump) :
    Except NcdrError AuditedRows :=
  match dump with
  | .failed retryAfterSeconds => poll.addFailedDump rows document retryAfterSeconds
  | .parsed messages =>
      if maxNcdrAuditedRows < rows.auditedRowCount + rowCount messages then
        .error (.payload "NCDR CAP exceeds the 256 audited-row limit")
      else
        match poll.prepareRows document messages with
        | .ok prepared => poll.addDump rows prepared (rowCount messages)
        | .error _ => poll.addFailedDump rows document none

/-- The body of the loop over `selected_documents`. -/
def auditDocument (rows : AuditedRows) (document : SelectedDocument) :
    Except NcdrError AuditedRows := do
  let dump ← poll.fetchDump document
  poll.auditDump rows document dump

/-! ### The poll -/

/-- `_fetch_audited_rows` with the number of selected documents. -/
def fetchAuditedRows : Except NcdrError (AuditedRows × ℕ) := do
  let selected ← poll.selectedDocuments
  let rows ← selected.foldlM poll.auditDocument {}
  return (rows, selected.length)

def isActualCancel (raw : RawSourceItem) : Bool :=
  (getMember raw.payload "cap_status").isText "Actual" &&
    (getMember raw.payload "cap_message_type").isText "Cancel"

/-- `_is_cancel_only_snapshot`. -/
def isCancelOnlySnapshot (fetched : List RawSourceItem) : Bool :=
  !fetched.isEmpty && fetched.all isActualCancel

/-- `AdapterRunResult(...)`. -/
def makeRunResult (fetched : List RawSourceItem) (normalized : List NormalizedEvidence)
    (rejected : List String) (sourceRejections : List SourceRejection) (noActiveEvent : Bool) :
    Except NcdrError AdapterRunResult :=
  if bounded : sourceRejections.length ≤ 256 then
    if distinct : (sourceRejections.map SourceRejection.sourceId).Nodup then
      if listed : ∀ rejection ∈ sourceRejections, rejection.sourceId ∈ rejected then
        if disjoint : ∀ rejection ∈ sourceRejections, ∀ evidence ∈ normalized,
            rejection.sourceId ≠ evidence.sourceId then
          .ok ⟨ncdrAdapterKey, fetched, normalized, rejected, sourceRejections, noActiveEvent,
            bounded, distinct, listed, disjoint⟩
        else
          .error (.value
            "source_rejections source_ids must be disjoint from normalized source_ids")
      else .error (.value "source_rejections source_ids must be a subset of rejected")
    else .error (.value "source_rejections source_ids must be unique")
  else .error (.value "source_rejections must contain at most 256 records")

/-- The `no_active_event` argument of `run`. -/
def isNoActiveEvent (rows : AuditedRows) (selectedCount : ℕ) : Bool :=
  selectedCount = 0 ||
    (0 < rows.successfulDumpCount && rows.rejections.isEmpty &&
      (rows.fetched.isEmpty || isCancelOnlySnapshot rows.fetched))

/-- The result of `run` for the audited rows. -/
def resultOf (rows : AuditedRows) (selectedCount : ℕ) : Except NcdrError AdapterRunResult :=
  if 0 < selectedCount && rows.successfulDumpCount = 0 then
    .error (.fetch "all selected NCDR CAP dumps failed" (boundedRetryAfter rows.maxRetryAfterSeconds))
  else
    makeRunResult rows.fetched rows.normalized (rows.rejections.map SourceRejection.sourceId)
      rows.rejections (isNoActiveEvent rows selectedCount)

def run : Except NcdrError AdapterRunResult := do
  let (rows, selectedCount) ← poll.fetchAuditedRows
  resultOf rows selectedCount

end Poll

end FloodRisk.Ncdr
