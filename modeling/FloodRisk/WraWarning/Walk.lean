import FloodRisk.Lib.TextOrder
import FloodRisk.WraWarning.Documents

/-!
# The walk over the warning documents

`WraFloodWarningAdapter.run` of an index payload, over what the fetches of the documents return.
-/

namespace FloodRisk.WraWarning
open Python Adapters WraHistorical

structure WarningItem where
  sourceId : Text
  document : Document
  networkLinkSource : Option Document
  payload : WarningPayload

/-- The lists and sets that `_collect_document` shares. -/
structure WalkState where
  seenDocuments : List Document
  seenIds : List Text
  fetched : List WarningItem
  rejected : List Text
  candidates : List SourceRejection
  failures : ℕ

/-- The texts of the documents; nothing where the fetch raises. -/
abbrev Fetch := Document → Option Text

variable (runtime : WarningRuntime) (fetch : Fetch)

/-- What the document yields when it is fetched at the index or through a link; nothing where that
raises an error of the adapter. -/
def readDocument (allowNetworkLink : Bool) (document : Document) :
    Except Raised (Option (List Document × List PlacemarkRecord)) :=
  match fetch document with
  | none => .ok none
  | some t => do
      match ← parseKmlDocument runtime t with
      | none => .ok none
      | some root =>
          match networkLinks runtime root allowNetworkLink with
          | none => .ok none
          | some links => do
              let records ← placemarkRecords runtime document root
              return some (links, records)

/-- The loop over the records of a document. -/
def collectRecords (document : Document) (source : Option Document) :
    List PlacemarkRecord → WalkState → Except Raised WalkState
  | [], state => .ok state
  | record :: rest, state =>
      if record.sourceId ∈ state.seenIds then collectRecords document source rest state
      else
        match record.outcome with
        | .inl payload =>
            collectRecords document source rest { state with
              seenIds := state.seenIds ++ [record.sourceId]
              fetched := state.fetched ++ [⟨record.sourceId, document, source, payload⟩] }
        | .inr reason => do
            let rejection ← sourceRejection record.sourceId reason
            collectRecords document source rest { state with
              seenIds := state.seenIds ++ [record.sourceId]
              rejected := state.rejected ++ [record.sourceId]
              candidates := state.candidates ++ [rejection] }

def failureId (document : Document) : Text := text "kml:" ++ text document.filename

/-- A document that could not be read. -/
def recordFailure (document : Document) (state : WalkState) : Except Raised WalkState :=
  if failureId document ∈ state.seenIds then .ok { state with failures := state.failures + 1 }
  else do
    let rejection ← sourceRejection (failureId document) "wra_flood_warning_child_read_failed"
    return { state with
      seenIds := state.seenIds ++ [failureId document]
      rejected := state.rejected ++ [failureId document]
      candidates := state.candidates ++ [rejection]
      failures := state.failures + 1 }

/-- A document that was not seen, up to its links. -/
def visitDocument (source : Option Document) (document : Document) (state : WalkState) :
    Except Raised (WalkState × List Document) := do
  let seen := { state with seenDocuments := document :: state.seenDocuments }
  match ← readDocument runtime fetch source.isNone document with
  | none => do
      let failed ← recordFailure document seen
      return (failed, [])
  | some (links, records) => do
      let collected ← collectRecords document source records seen
      return (collected, links)

/-- `_collect_document` of the links of a document; these have no links themselves. -/
def collectLinks (source : Document) : List Document → WalkState → Except Raised WalkState
  | [], state => .ok state
  | link :: rest, state =>
      if link ∈ state.seenDocuments then collectLinks source rest state
      else do
        let visited ← visitDocument runtime fetch (some source) link state
        collectLinks source rest visited.1

/-- `_collect_document` of a selected document. -/
def collectDocument (document : Document) (state : WalkState) : Except Raised WalkState :=
  if document ∈ state.seenDocuments then .ok state
  else do
    let visited ← visitDocument runtime fetch none document state
    collectLinks runtime fetch document visited.2 visited.1

/-- The loop over the selected documents, with those that failed so far. -/
def collectSelected :
    List Document → ℕ → WalkState → Except Raised (ℕ × WalkState)
  | [], failed, state => .ok (failed, state)
  | document :: rest, failed, state => do
      let next ← collectDocument runtime fetch document state
      collectSelected rest (if state.failures < next.failures then failed + 1 else failed) next

inductive RunError where
  | nothingSelected
  | allFailed
  | raised (cause : Raised)
  deriving DecidableEq

structure RunResult where
  fetched : List WarningItem
  rejected : List Text
  rejections : List SourceRejection
  noActiveEvent : Bool

def maxAuditedRejections : ℕ := 256

/-- `run`; every fetched item is normalized, since it has a time and a precision. -/
def run (payload : Value) : Except RunError RunResult := do
  let selected := selectedDocuments runtime payload
  if selected = [] then .error .nothingSelected
  else
    let walked ← (collectSelected runtime fetch selected 0 ⟨[], [], [], [], [], 0⟩).mapError .raised
    if 0 < walked.1 ∧ walked.1 = selected.length then .error .allFailed
    else
      let rejections := (walked.2.candidates.mergeSort fun a b =>
        textLe a.sourceId b.sourceId).take maxAuditedRejections
      (checkRejections (walked.2.fetched.map WarningItem.sourceId) walked.2.rejected
        rejections).mapError .raised
      return ⟨walked.2.fetched, walked.2.rejected, rejections,
        walked.2.fetched.isEmpty && walked.2.rejected.isEmpty && walked.2.failures = 0⟩

end FloodRisk.WraWarning
