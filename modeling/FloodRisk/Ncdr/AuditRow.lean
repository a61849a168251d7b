import FloodRisk.Ncdr.CapXml
import FloodRisk.Promotion.Payload
import Mathlib.Data.List.Sort
import Mathlib.Data.Prod.Lex
import Mathlib.Data.String.Basic

/-!
# Audit rows of CAP messages (adapters/ncdr/cap_alerts.py, adapters/cap_identity.py)

Each area of a message, or the message itself where it has none, is prepared as
one raw row with the reason for its rejection, if it has one.
-/

namespace FloodRisk.Ncdr
open Promotion

/-- A value of a raw payload.  The text that `isoformat` prints of an instant is
kept as the instant. -/
inductive PayloadValue where
  | null
  | text (value : String)
  | instant (value : ℤ)
  | number (value : ℚ)
  | items (values : List PayloadValue)
  | object (members : List (String × PayloadValue))

abbrev RawPayload := List (String × PayloadValue)

structure RawSourceItem where
  sourceId : String
  sourceUrl : String
  fetchedAt : ℤ
  payload : RawPayload
  rawSnapshotKey : Option String

inductive IngestionStatus where
  | fetched | normalized | rejected
  deriving DecidableEq

structure NormalizedEvidence where
  evidenceId : String
  adapterKey : String
  sourceFamily : SourceType
  eventType : EventType
  sourceId : String
  sourceUrl : String
  sourceTitle : String
  sourceTimestamp : ℤ
  fetchedAt : ℤ
  summary : String
  locationText : Option String
  confidence : ℚ
  status : IngestionStatus
  attribution : String
  tags : List String

structure SourceRejection where
  sourceId : String
  reasonCode : String
  deriving DecidableEq

abbrev ncdrAdapterKey : String := "official.ncdr.cap"
abbrev ncdrGeocodeProfile : String := "Taiwan_Geocode_103"

def isTownshipGeocodeName (name : String) : Bool :=
  (strip name).toLower ∈ ["towncode", "taiwan_geocode_103"]

/-! ### Payload values -/

/-- `payload.get(key)`; a missing member reads as `None`. -/
def getMember (payload : RawPayload) (key : String) : PayloadValue :=
  (payload.lookup key).getD .null

def optionalMember : Option String → PayloadValue
  | some value => .text value
  | none => .null

/-- `optional_str` of a payload value that is a text or `None`. -/
def optionalStr : PayloadValue → Option String
  | .text value => optionalText (some value)
  | _ => none

def PayloadValue.isText (value : PayloadValue) (expected : String) : Bool :=
  match value with
  | .text actual => actual = expected
  | _ => false

def isSubtext (secret text : String) : Bool :=
  text.toList.tails.any fun rest => secret.toList.isPrefixOf rest

mutual

/-- `_contains_exact_secret`. -/
def containsExactSecret (isoformat : ℤ → String) (secret : String) : PayloadValue → Bool
  | .null => false
  | .number _ => false
  | .text value => isSubtext secret value
  | .instant value => isSubtext secret (isoformat value)
  | .items values => itemsContainSecret isoformat secret values
  | .object members => membersContainSecret isoformat secret members

def itemsContainSecret (isoformat : ℤ → String) (secret : String) : List PayloadValue → Bool
  | [] => false
  | value :: rest =>
      containsExactSecret isoformat secret value || itemsContainSecret isoformat secret rest

def membersContainSecret (isoformat : ℤ → String) (secret : String) :
    List (String × PayloadValue) → Bool
  | [] => false
  | (key, value) :: rest =>
      isSubtext secret key || containsExactSecret isoformat secret value ||
        membersContainSecret isoformat secret rest

end

/-! ### Geocodes and source ids -/

/-- `_reviewed_township_geocode`: the value that all township geocodes of the
area share, and the first of their names. -/
def reviewedTownshipGeocode (area : Option ParsedCapArea) : Option (String × String) :=
  match area with
  | none => none
  | some area =>
      let found := (area.geocodes.filter fun geocode => isTownshipGeocodeName geocode.1).map
        fun geocode => (strip geocode.1, strip geocode.2)
      match (found.map Prod.snd).dedup with
      | [value] =>
          if fullmatchDigits 7 value then ((found.map Prod.fst).min?).map fun name => (name, value)
          else none
      | _ => none

section Rows

variable (runtime : Runtime)

/-- `cap_message_digest`. -/
def capMessageDigest (message : ParsedCapMessage) : String :=
  runtime.capMessageDigest (strip message.sender) (strip message.identifier) message.sent

/-- `cap_source_id` of a message. -/
def messageSourceId (message : ParsedCapMessage) : String :=
  "cap:" ++ capMessageDigest runtime message ++ ":message"

/-- `cap_source_id` of a township of a message. -/
def areaSourceId (message : ParsedCapMessage) (adminCode : String) : String :=
  "cap:" ++ capMessageDigest runtime message ++ ":area:" ++ adminCode

/-- `_unresolved_area_source_id`. -/
def unresolvedAreaSourceId (message : ParsedCapMessage) (area : ParsedCapArea) : String :=
  "cap:" ++ capMessageDigest runtime message ++ ":unresolved-area:" ++
    runtime.areaDigest area.areaDesc
      (area.geocodes.insertionSort fun first second => toLex first ≤ toLex second)
      area.polygon area.circle

def auditSourceId (message : ParsedCapMessage) (area : Option ParsedCapArea) : String :=
  match area with
  | none => messageSourceId runtime message
  | some parsed =>
      match reviewedTownshipGeocode area with
      | some (_, value) =>
          if parsed.polygon.isNone && parsed.circle.isNone then
            areaSourceId runtime message (value ++ "0")
          else unresolvedAreaSourceId runtime message parsed
      | none => unresolvedAreaSourceId runtime message parsed

/-! ### Preparation -/

/-- `_audit_rejection_reason`. -/
def auditRejectionReason (message : ParsedCapMessage) (area : Option ParsedCapArea)
    (activeFrom fetchedAt : ℤ) (reviewedGeocode : Option (String × String)) : Option String :=
  if message.status ≠ "Actual" then some "ncdr_inactive_status"
  else if message.scope ≠ "Public" then some "ncdr_inactive_scope"
  else if message.messageType = "Cancel" then
    if area.isNone || reviewedGeocode.isSome then none else some "ncdr_unreviewed_admin_geometry"
  else if fetchedAt < activeFrom then some "ncdr_inactive_future"
  else if message.expires.any (· ≤ fetchedAt) then some "ncdr_inactive_expired"
  else
    match area with
    | none => some "ncdr_unreviewed_message_geometry"
    | some area =>
        if area.circle.isSome then some "ncdr_circle_geometry_unreviewed"
        else if area.polygon.isSome then some "ncdr_polygon_geometry_unreviewed"
        else if reviewedGeocode.isNone then some "ncdr_unreviewed_admin_geometry"
        else none

/-- The lifecycle checks of `_prepare_audit_row`: the times of the warning. -/
def messageLifecycle (message : ParsedCapMessage) : Except CapDocumentError (ℤ × ℤ) :=
  if message.messageType ∉ ["Alert", "Update", "Cancel"] then
    .error ⟨"NCDR CAP msgType must be Alert, Update, or Cancel"⟩
  else if message.messageType ∈ ["Update", "Cancel"] && message.references.isEmpty then
    .error ⟨"NCDR CAP Update and Cancel messages require references"⟩
  else
    match message.onset.or message.effective, message.expires with
    | some activeFrom, some expires =>
        if expires ≤ activeFrom then .error ⟨"NCDR CAP expires must be later than active_from"⟩
        else .ok (activeFrom, expires)
    | _, _ => .error ⟨"NCDR CAP lifecycle requires effective or onset and expires"⟩

def referencePayload (reference : ParsedCapReference) : PayloadValue :=
  .object [("sender", .text reference.sender), ("identifier", .text reference.identifier),
    ("sent", .instant reference.sent)]

def geocodePayload (geocode : String × String) : PayloadValue :=
  .object [("valueName", .text geocode.1), ("value", .text geocode.2)]

/-- The payload of an audit row before the parts of its area. -/
def messagePayload (message : ParsedCapMessage) (area : Option ParsedCapArea)
    (transportCapid : String) (activeFrom expires : ℤ) : RawPayload :=
  [("evidence_scope", .text "current"), ("location_precision", .text "admin_area"),
    ("transport_capid", .text transportCapid), ("cap_sender", .text message.sender),
    ("cap_identifier", .text message.identifier), ("cap_sent", .instant message.sent),
    ("cap_references", .items (message.references.map referencePayload)),
    ("cap_status", .text message.status), ("cap_message_type", .text message.messageType),
    ("cap_scope", .text message.scope), ("cap_event", .text message.event),
    ("headline", optionalMember message.headline),
    ("description", optionalMember message.description), ("active_from", .instant activeFrom),
    ("active_until", .instant expires), ("areaDesc", optionalMember (area.map ParsedCapArea.areaDesc)),
    ("source_geocodes", .items ((area.elim [] ParsedCapArea.geocodes).map geocodePayload))]

def geocodeMembers (reviewedGeocode : Option (String × String)) : RawPayload :=
  match reviewedGeocode with
  | some (name, value) =>
      [("admin_code", .text (value ++ "0")), ("ncdr_geocode_profile", .text ncdrGeocodeProfile),
        ("ncdr_geocode_name", .text name), ("ncdr_geocode", .text value)]
  | none => []

def polygonMembers (polygon : Option (List Position)) : RawPayload :=
  match polygon with
  | some positions =>
      [("polygon", .items (positions.map fun position =>
        .object [("latitude", .number position.1), ("longitude", .number position.2)]))]
  | none => []

def circleMembers (circle : Option (ℚ × ℚ × ℚ)) : RawPayload :=
  match circle with
  | some (latitude, longitude, radius) =>
      [("circle", .object [("latitude", .number latitude), ("longitude", .number longitude),
        ("radius_km", .number radius)])]
  | none => []

/-- `_prepare_audit_row`. -/
def prepareAuditRow (message : ParsedCapMessage) (area : Option ParsedCapArea)
    (transportCapid : String) (fetchedAt : ℤ) (sourceUrl : String) (rawSnapshotKey : Option String) :
    Except CapDocumentError (RawSourceItem × Option String) := do
  let (activeFrom, expires) ← messageLifecycle message
  let reviewedGeocode := reviewedTownshipGeocode area
  let payload := messagePayload message area transportCapid activeFrom expires ++
    geocodeMembers reviewedGeocode ++ polygonMembers (area.bind ParsedCapArea.polygon) ++
    circleMembers (area.bind ParsedCapArea.circle)
  return ({ sourceId := auditSourceId runtime message area, sourceUrl, fetchedAt, payload,
            rawSnapshotKey },
    auditRejectionReason message area activeFrom fetchedAt reviewedGeocode)

/-! ### Normalization -/

/-- `_aware_datetime`. -/
def awareDatetime : PayloadValue → Option ℤ
  | .instant value => some value
  | .text value => awareInstant (runtime.fromisoformat (strip value))
  | _ => none

/-- The geocode condition of `_normalize_reviewed_raw` for an Alert or Update. -/
def hasReviewedCode (payload : RawPayload) : Bool :=
  let adminCode := optionalStr (getMember payload "admin_code")
  let geocode := optionalStr (getMember payload "ncdr_geocode")
  fullmatchDigits 8 (adminCode.getD "") && fullmatchDigits 7 (geocode.getD "") &&
    adminCode = some (geocode.getD "" ++ "0") &&
    (getMember payload "ncdr_geocode_profile").isText ncdrGeocodeProfile

scoped instance lawfulBEq_optionalText : LawfulBEq (Option String) := inferInstance

/-- `_normalize_reviewed_raw`. -/
def normalizeReviewedRaw (raw : RawSourceItem) : Option NormalizedEvidence :=
  let messageType := optionalStr (getMember raw.payload "cap_message_type")
  let status := optionalStr (getMember raw.payload "cap_status")
  if status ≠ some "Actual" || messageType ∉ [some "Alert", some "Update", some "Cancel"] then none
  else if messageType ∈ [some "Alert", some "Update"] && !hasReviewedCode raw.payload then none
  else
    match awareDatetime runtime (getMember raw.payload "cap_sent") with
    | none => none
    | some sent =>
        let headline := optionalStr (getMember raw.payload "headline")
        let description := optionalStr (getMember raw.payload "description")
        some
          { evidenceId := ncdrAdapterKey ++ ":" ++ raw.sourceId
            adapterKey := ncdrAdapterKey
            sourceFamily := .official
            eventType := .floodWarning
            sourceId := raw.sourceId
            sourceUrl := raw.sourceUrl
            sourceTitle := headline.getD "NCDR 淹水警戒"
            sourceTimestamp := sent
            fetchedAt := raw.fetchedAt
            summary := (description.or headline).getD "NCDR 發布淹水警戒 CAP 訊息。"
            locationText := optionalStr (getMember raw.payload "areaDesc")
            confidence := 95 / 100
            status := .normalized
            attribution := "國家災害防救科技中心（NCDR）"
            tags := ["official", "ncdr", "cap", "flood_warning"] }

end Rows

end FloodRisk.Ncdr
