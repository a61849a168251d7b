import FloodRisk.IsoText
import FloodRisk.Ncdr.AuditRow

/-!
# Staged metadata (pipelines/staging.py)

The checks of a raw payload before it is staged and the payload that is staged.
-/

namespace FloodRisk.Staging
open Promotion

/-- A value of a raw payload, by the type that `isinstance` sees. -/
inductive RawValue where
  | null
  | boolean (value : Bool)
  | number (value : ℚ)
  | text (value : String)
  | list (values : List RawValue)
  | tuple (values : List RawValue)
  | mapping (members : List (String × RawValue))
  | other (name : String)

abbrev RawPayload := List (String × RawValue)

/-- What the checks raise: a member that cannot be hashed is looked up in a set,
or a reference lies outside the calendar in UTC. -/
inductive Failure where
  | unhashable
  | overflow
  deriving DecidableEq

/-- `payload.get(key)`. -/
def getMember (payload : RawPayload) (key : String) : RawValue :=
  (payload.lookup key).getD .null

def RawValue.isNull : RawValue → Bool
  | .null => true
  | _ => false

def RawValue.textOf : RawValue → Option String
  | .text value => some value
  | _ => none

mutual

def RawValue.isHashable : RawValue → Bool
  | .list _ => false
  | .mapping _ => false
  | .tuple values => allHashable values
  | _ => true

def allHashable : List RawValue → Bool
  | [] => true
  | value :: rest => value.isHashable && allHashable rest

end

/-- `value in texts`, of a set of texts. -/
def isMember (value : RawValue) (texts : List String) : Except Failure Bool :=
  if value.isHashable then .ok (value.textOf.any (· ∈ texts)) else .error .unhashable

/-- A text with 1 to `limit` characters after the blanks around it are dropped. -/
def isBoundedText (limit : ℕ) (value : RawValue) : Bool :=
  value.textOf.any fun text => strip text ≠ "" && (strip text).length ≤ limit

/-! ### Timestamps and references -/

/-- `_aware_rfc3339`. -/
def awareRfc3339 (value : RawValue) : Option ℤ :=
  match value with
  | .text text => if strip text = "" then none else awareInstant (fromisoformat (strip text))
  | _ => none

/-- `sent.astimezone(UTC).isoformat()`. -/
def utcText (instant : ℤ) : Except Failure String :=
  if InCalendar instant then .ok (isoformat (utcReading instant)) else .error .overflow

/-- Sender, identifier and sent of a reference. -/
abbrev ReferenceKey := String × String × String

def hasReferenceKeys (members : RawPayload) : Bool :=
  (members.all fun member => member.1 ∈ ["sender", "identifier", "sent"]) &&
    ["sender", "identifier", "sent"].all fun name => name ∈ members.map Prod.fst

/-- One round of the loop of `_canonical_cap_references`. -/
def canonicalReference (item : RawValue) : Except Failure (Option ReferenceKey) :=
  match item with
  | .mapping members =>
      if !hasReferenceKeys members then .ok none
      else
        let sender := getMember members "sender"
        let identifier := getMember members "identifier"
        match sender.textOf, identifier.textOf, awareRfc3339 (getMember members "sent") with
        | some senderText, some identifierText, some instant =>
            if isBoundedText 512 sender && isBoundedText 512 identifier then
              (utcText instant).map fun sent => some (strip senderText, strip identifierText, sent)
            else .ok none
        | _, _, _ => .ok none
  | _ => .ok none

def canonicalReferenceKeys : List RawValue → Except Failure (Option (List ReferenceKey))
  | [] => .ok (some [])
  | item :: rest => do
      match ← canonicalReference item with
      | none => return none
      | some key =>
          match ← canonicalReferenceKeys rest with
          | none => return none
          | some keys => return some (key :: keys)

def keyOrder (key : ReferenceKey) : String ×ₗ String ×ₗ String := toLex (key.1, toLex key.2)

/-- `_canonical_cap_references`; the references are those of the sorted keys. -/
def canonicalCapReferences (values : List RawValue) : Except Failure (Option (List ReferenceKey)) :=
  (canonicalReferenceKeys values).map fun keys => keys.map fun keys =>
    keys.dedup.insertionSort fun first second => keyOrder first ≤ keyOrder second

/-! ### Checks of `_staging_metadata_errors` -/

def evidenceScopes : List String := ["current", "historical", "context"]

def locationPrecisions : List String :=
  ["point", "road_or_lane", "poi", "admin_area", "polygon", "inferred", "map_click", "unknown"]

/-- A member that may be missing, else one of the texts. -/
def choiceErrors (payload : RawPayload) (key : String) (texts : List String) (error : String) :
    Except Failure (List String) :=
  let value := getMember payload key
  if value.isNull then .ok []
  else (isMember value texts).map fun found => if found then [] else [error]

def adminCodeErrors (payload : RawPayload) : List String :=
  let adminCode := getMember payload "admin_code"
  if adminCode.isNull || adminCode.textOf.any (fullmatchDigits 8) then []
  else ["admin_code must be a canonical 8-digit code"]

def geocodeErrors (payload : RawPayload) : List String :=
  let profile := getMember payload "ncdr_geocode_profile"
  let geocode := getMember payload "ncdr_geocode"
  if profile.isNull && geocode.isNull then []
  else
    (if profile.textOf = some "Taiwan_Geocode_103" then []
      else ["ncdr_geocode_profile is not reviewed"]) ++
    (if geocode.textOf.any (fullmatchDigits 7) then []
      else ["ncdr_geocode must be a canonical 7-digit code"]) ++
    (if geocode.textOf.any fun code =>
          (getMember payload "admin_code").textOf ≠ some (code ++ "0") then
        ["admin_code does not match ncdr_geocode"]
      else [])

/-- The loop stops at the first limitation that is not a short text. -/
def limitationListErrors (values : List RawValue) : List String :=
  let kept := (values.takeWhile (isBoundedText 256)).filterMap fun value => value.textOf.map strip
  (if values.all (isBoundedText 256) then []
    else ["limitations must contain 1..256 character strings"]) ++
  (if kept.dedup.length ≤ 16 then [] else ["limitations must contain at most 16 unique values"])

def limitationErrors (payload : RawPayload) : List String :=
  match getMember payload "limitations" with
  | .null => []
  | .list values => limitationListErrors values
  | .tuple values => limitationListErrors values
  | _ => ["limitations must be a list"]

def revisionErrors (payload : RawPayload) : List String :=
  let revision := getMember payload "dataset_revision"
  if revision.isNull || isBoundedText 256 revision then []
  else ["dataset_revision must be a 1..256 character string"]

/-- `cap_keys`. -/
def capKeys : List String :=
  ["cap_sender", "cap_identifier", "cap_sent", "cap_references", "cap_status", "cap_message_type",
    "active_from", "active_until"]

def identityErrors (payload : RawPayload) (key : String) : List String :=
  if isBoundedText 512 (getMember payload key) then []
  else [key ++ " must be a 1..512 character string"]

/-- The canonical references of `cap_references`, if it is a list of exact triples. -/
def stagedReferences (payload : RawPayload) : Except Failure (Option (List ReferenceKey)) :=
  match getMember payload "cap_references" with
  | .list values => canonicalCapReferences values
  | _ => .ok none

def referenceErrors (payload : RawPayload) (references : Option (List ReferenceKey)) :
    List String :=
  match getMember payload "cap_references", references with
  | .list _, none => ["cap_references must contain exact canonical triples"]
  | .list _, some keys =>
      if keys.length ≤ 64 then [] else ["cap_references must contain at most 64 unique triples"]
  | _, _ => ["cap_references must be a list"]

/-- A canonical reference is read back before it is compared. -/
def hasEarlierReference (sent : Option ℤ) (references : Option (List ReferenceKey)) : Bool :=
  match sent, references with
  | some own, some keys => keys.any fun key => (awareRfc3339 (.text key.2.2)).any (· < own)
  | _, _ => false

def windowErrors (payload : RawPayload) : List String :=
  match awareRfc3339 (getMember payload "active_from"),
      awareRfc3339 (getMember payload "active_until") with
  | some activeFrom, some activeUntil =>
      if activeFrom < activeUntil then [] else ["Alert and Update require a valid active window"]
  | _, _ => ["Alert and Update require a valid active window"]

/-- The checks of a flood warning. -/
def lifecycleErrors (payload : RawPayload) (generation : Option IsoFormat.Reading) :
    Except Failure (List String) := do
  let sent := awareRfc3339 (getMember payload "cap_sent")
  let messageType := getMember payload "cap_message_type"
  let validType ← isMember messageType ["Alert", "Update", "Cancel"]
  let references ← stagedReferences payload
  return (if generation.isSome then [] else ["CAP lifecycle requires an ingestion generation"]) ++
    identityErrors payload "cap_sender" ++ identityErrors payload "cap_identifier" ++
    (if sent.isSome then [] else ["cap_sent must be timezone-aware RFC3339"]) ++
    (if (getMember payload "cap_status").textOf = some "Actual" then []
      else ["cap_status must be Actual"]) ++
    (if validType then [] else ["cap_message_type is invalid"]) ++
    referenceErrors payload references ++
    (if messageType.textOf.any (· ∈ ["Update", "Cancel"]) && !hasEarlierReference sent references
      then ["Update and Cancel require an earlier reference"] else []) ++
    (if messageType.textOf.any (· ∈ ["Alert", "Update"]) then windowErrors payload else [])

/-- `_staging_metadata_errors`; the payload of a raw item need not be a mapping. -/
def stagingMetadataErrors (rawItem : Option RawValue) (eventType : EventType)
    (generation : Option IsoFormat.Reading) : Except Failure (List String) :=
  match rawItem with
  | none => .ok ["normalized evidence requires a matching fetched raw item"]
  | some (.mapping payload) => do
      let scope ← choiceErrors payload "evidence_scope" evidenceScopes
        "evidence_scope is not reviewed"
      let precision ← choiceErrors payload "location_precision" locationPrecisions
        "location_precision is not public"
      let reviewed := scope ++ precision ++ adminCodeErrors payload ++ geocodeErrors payload ++
        limitationErrors payload ++ revisionErrors payload
      if eventType = .floodWarning then
        return reviewed ++ (← lifecycleErrors payload generation)
      else
        return reviewed ++ (if capKeys.any fun key => key ∈ payload.map Prod.fst then
          ["CAP lifecycle fields require flood_warning"] else [])
  | some _ => .ok ["matching fetched raw item payload must be a mapping"]

/-! ### The staged payload -/

/-- `_STAGING_PAYLOAD_PASSTHROUGH_KEYS`. -/
def stagingPayloadPassthroughKeys : List String :=
  ["station_id", "station_name", "authority", "station_type", "station_attribute",
    "realtime_station_enabled", "metadata_station_enabled", "alarm_state", "status_only",
    "source_url", "resource_url", "station_metadata_url", "source_weight", "county", "town", "area",
    "tide_level_label", "county_code", "area_code", "areaDesc", "identifier", "effective",
    "expires", "expired", "severity", "certainty", "urgency", "evidence_scope",
    "location_precision", "context_kind", "verification_status", "incident_state",
    "upstream_updated_at", "warning_kind", "network_link_source_url", "limitations", "admin_code",
    "ncdr_geocode_profile", "ncdr_geocode_name", "ncdr_geocode", "dataset_revision"]

/-- `_REALTIME_METRIC_KEYS`. -/
def realtimeMetricKeys : List String :=
  ["rainfall_mm", "rainfall_mm_10m", "rainfall_mm_1h", "rainfall_mm_3h", "rainfall_mm_6h",
    "rainfall_mm_12h", "rainfall_mm_24h", "flood_depth_cm", "water_level_m", "warning_level_m"]

/-- The members of the keys whose value is present. -/
def presentMembers (payload : RawPayload) (keys : List String) : RawPayload :=
  keys.filterMap fun key =>
    let value := getMember payload key
    if value.isNull then none else some (key, value)

def realtimeMetricsPayload (payload : RawPayload) : RawPayload :=
  realtimeMetricKeys.filterMap fun key =>
    match getMember payload key with
    | .number value => some (key, .number value)
    | _ => none

/-- `payload[key] = value` of a dict. -/
def setMember (payload : RawPayload) (key : String) (value : RawValue) : RawPayload :=
  (key, value) :: payload.filter fun member => member.1 ≠ key

def locationPayload (payload : RawPayload) : RawPayload :=
  let parts := ["geometry", "query_place"].filterMap fun key =>
    match getMember payload key with
    | .mapping members => some (key, RawValue.mapping members)
    | _ => none
  if parts.isEmpty then [] else [("location_payload", .mapping parts)]

def RawValue.stripped : RawValue → RawValue
  | .text value => .text (strip value)
  | value => value

def referenceValue (key : ReferenceKey) : RawValue :=
  .mapping [("sender", .text key.1), ("identifier", .text key.2.1), ("sent", .text key.2.2)]

/-- The texts that are not blank, each once, in the order of their first appearance. -/
def retainedTexts (texts : List String) : List String :=
  texts.foldl (fun retained text =>
    if strip text = "" ∨ strip text ∈ retained then retained else retained ++ [strip text]) []

def withRevision (payload members : RawPayload) : RawPayload :=
  match (getMember payload "dataset_revision").textOf with
  | some revision =>
      if strip revision = "" then members
      else setMember members "dataset_revision" (.text (strip revision))
  | none => members

def capTextKeys : List String :=
  ["cap_sender", "cap_identifier", "cap_sent", "cap_status", "cap_message_type", "active_from",
    "active_until"]

/-- The members of a flood warning. -/
def capPayload (payload : RawPayload) : Except Failure RawPayload := do
  let texts := (presentMembers payload capTextKeys).map fun member => (member.1, member.2.stripped)
  match ← stagedReferences payload with
  | some keys => return texts ++ [("cap_references", .list (keys.map referenceValue))]
  | none => return texts

section Passthrough

-- `str` of the values that are not texts.
variable (str : RawValue → String)

def strOf : RawValue → String
  | .text value => value
  | value => str value

def retainedLimitations (payload : RawPayload) : Option RawValue :=
  match getMember payload "limitations" with
  | .list values => some (.list ((retainedTexts (values.map (strOf str))).map .text))
  | .tuple values => some (.list ((retainedTexts (values.map (strOf str))).map .text))
  | _ => none

def withLimitations (payload members : RawPayload) : RawPayload :=
  match retainedLimitations str payload with
  | some limitations => setMember members "limitations" limitations
  | none => members

/-- `_passthrough_payload`. -/
def passthroughPayload (payload : RawPayload) (eventType : EventType) :
    Except Failure RawPayload := do
  let members := withRevision payload
    (withLimitations str payload (presentMembers payload stagingPayloadPassthroughKeys))
  if eventType = .floodWarning then return members ++ (← capPayload payload) else return members

/-- The payload of `_to_staging_upsert`. -/
def toStagingPayload (evidence : Ncdr.NormalizedEvidence) (rawItem : Option RawValue)
    (generation : Option IsoFormat.Reading) (snapshotGenerationMode : Option String) :
    Except Failure RawPayload := do
  let payload := match rawItem with
    | some (.mapping payload) => payload
    | _ => []
  let passthrough ← passthroughPayload str payload evidence.eventType
  return [("location_text", (evidence.locationText.map RawValue.text).getD .null)] ++
    locationPayload payload ++ realtimeMetricsPayload payload ++ passthrough ++
    (generation.elim [] fun started =>
      [("ingestion_generation_started_at", .text (isoformat started))]) ++
    (snapshotGenerationMode.elim [] fun mode => [("snapshot_generation_mode", .text mode)]) ++
    [("attribution", .text evidence.attribution), ("tags", .list (evidence.tags.map .text))]

end Passthrough

end FloodRisk.Staging
