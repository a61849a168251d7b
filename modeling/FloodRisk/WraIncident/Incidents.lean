import FloodRisk.Adapters.RunResult

/-!
# Reported flood incidents (adapters/wra/flood_incident.py)
-/

namespace FloodRisk.WraIncident
open Python Adapters

/-- The text of `format(depth, "g")` is a parameter. -/
structure IncidentRuntime extends Runtime where
  formatGeneral : Double → Text

variable (runtime : IncidentRuntime)

def adapterKey : String := "official.wra.flood_incident"
def docsUrl : String := "https://fhy.wra.gov.tw/openapiv3"
def attribution : String := "Water Resources Agency"
def maxIncidentRows : ℕ := 5000

/-- `_optional_bool`. -/
def optionalFlag : Value → Option Bool
  | .boolean b => some b
  | .integer n => some (decide (n ≠ 0))
  | .float x => some !x.isZero
  | .text t =>
      let normalized := runtime.casefold (stripText t)
      if normalized ∈ ["true", "1", "yes", "y"].map text then some true
      else if normalized ∈ ["false", "0", "no", "n"].map text then some false
      else none
  | _ => none

/-- The payload of a raw item; the members that are the same in all of them are left out. -/
structure IncidentRecord where
  incidentId : Text
  occurredAt : ℤ
  locationText : Option Text
  location : Option Text
  operatorName : Option Text
  cityCode : Option Text
  townCode : Option Text
  categoryCode : Option Text
  sourceCode : Option Text
  caseNo : Option Text
  incidentType : Option Text
  isReceded : Option Bool
  recededAt : Option ℤ
  reportedDepth : Option Double
  point : Option (Double × Double)

def IncidentRecord.locationPrecision (record : IncidentRecord) : String :=
  if record.point.isSome then "point" else "admin_area"

/-- The latitude and the longitude of a point, where it lies in the bounds. -/
def pointOf : Value → Except Raised (Option (Double × Double))
  | .object point => do
      let latitude ← optionalFloat runtime.toRuntime (get point "Latitude")
      let longitude ← optionalFloat runtime.toRuntime (get point "Longitude")
      match latitude, longitude with
      | some latitude, some longitude =>
          if Double.le (.finite 20) latitude && latitude.le (.finite 27) &&
              Double.le (.finite 118) longitude && longitude.le (.finite (247 / 2)) then
            return some (latitude, longitude)
          else return none
      | _, _ => return none
  | _ => .ok none

/-- `_parse_incident`. -/
def parseIncident (cityCode : Option Text) (incident : Members) :
    Except Raised (Option IncidentRecord) := do
  let incidentId ← optionalStr runtime.toRuntime (get incident "DisasterFloodingID")
  let occurredAt ← parseObservedAt runtime.toRuntime localZone (get incident "Time")
  match incidentId, occurredAt with
  | some incidentId, some occurredAt =>
      let location ← optionalStr runtime.toRuntime (get incident "Location")
      let operatorName ← optionalStr runtime.toRuntime (get incident "OperatorName")
      let townCode ← optionalStr runtime.toRuntime (get incident "TownCode")
      let point ← pointOf runtime (get incident "Point")
      let categoryCode ← optionalStr runtime.toRuntime (get incident "CategoryCode")
      let sourceCode ← optionalStr runtime.toRuntime (get incident "SourceCode")
      let caseNo ← optionalStr runtime.toRuntime (get incident "CaseNo")
      let incidentType ← optionalStr runtime.toRuntime (get incident "Type")
      let recededAt ← parseObservedAt runtime.toRuntime localZone (get incident "RecededDate")
      let reportedDepth ← optionalFloat runtime.toRuntime (get incident "Depth")
      return some {
        incidentId := incidentId
        occurredAt := occurredAt
        locationText := ((location.or operatorName).or townCode).or cityCode
        location := location
        operatorName := operatorName
        cityCode := cityCode
        townCode := townCode
        categoryCode := categoryCode
        sourceCode := sourceCode
        caseNo := caseNo
        incidentType := incidentType
        isReceded := optionalFlag runtime (get incident "IsReceded")
        recededAt := recededAt
        reportedDepth := reportedDepth
        point := point }
  | _, _ => return none

inductive IncidentError where
  | notObject | missingData | notList | tooManyRows
  | raised (cause : Raised)
  deriving DecidableEq

/-- The loop over the incidents of a city, after the records so far. -/
def parseIncidents (cityCode : Option Text) :
    List IncidentRecord → List Value → Except IncidentError (List IncidentRecord)
  | parsed, [] => .ok parsed
  | parsed, .object incident :: rest => do
      let record ← (parseIncident runtime cityCode incident).mapError .raised
      let found := parsed ++ record.toList
      if maxIncidentRows < found.length then .error .tooManyRows
      else parseIncidents cityCode found rest
  | parsed, _ :: rest => parseIncidents cityCode parsed rest

/-- The loop over the cities. -/
def parseCities : List IncidentRecord → List Value → Except IncidentError (List IncidentRecord)
  | parsed, [] => .ok parsed
  | parsed, .object city :: rest => do
      let cityCode ← (optionalStr runtime.toRuntime (get city "CityCode")).mapError .raised
      match get city "DisasterFlooding" with
      | .null => parseCities parsed rest
      | .list incidents => do
          let found ← parseIncidents runtime cityCode parsed incidents
          parseCities found rest
      | _ => .error .notList
  | parsed, _ :: rest => parseCities parsed rest

/-- `parse_wra_flood_incident_payload`. -/
def parseIncidentPayload : Value → Except IncidentError (List IncidentRecord)
  | .object payload =>
      match get payload "Data" with
      | .list cities => parseCities runtime [] cities
      | _ => .error .missingData
  | _ => .error .notObject

structure IncidentEvidence where
  evidenceId : Text
  sourceId : Text
  sourceTitle : Text
  sourceTimestamp : ℤ
  summary : Text
  locationText : Text
  confidence : ℚ
  tags : List Text

def beforeColon (t : Text) : Text := stripText (t.takeWhile fun c => c ≠ .scalar ':')

/-- `_is_direct_official_category`. -/
def isDirectOfficialCategory (categoryCode : Option Text) : Bool :=
  categoryCode.any fun code => beforeColon code ∉ ["3", "7"].map text

/-- `_normalize_flood_incident`. -/
def normalize (record : IncidentRecord) : Except Raised (Option IncidentEvidence) :=
  match record.locationText.filter fun t => stripText t ≠ [] with
  | none => .ok none
  | some location =>
      if record.locationPrecision ≠ "point" || record.point.isNone then .ok none
      else do
        let locationText := stripText location
        let statusLabel := match record.isReceded with
          | some true => "已退水"
          | some false => "未退水"
          | none => "退水狀態未提供"
        let depthLabel := match record.reportedDepth with
          | some depth => text "；上游回報深度值 " ++ runtime.formatGeneral depth ++ text "（API 未標示單位）"
          | none => []
        let recession := match record.isReceded with
          | some true => "receded"
          | some false => "not_receded"
          | none => "recession_unknown"
        let evidenceId ← stableEvidenceId runtime.toRuntime adapterKey record.incidentId
        return some {
          evidenceId := evidenceId
          sourceId := record.incidentId
          sourceTitle := text "水利署淹水災情：" ++ locationText
          sourceTimestamp := record.occurredAt
          summary := text ("水利署最後事件淹水災情；" ++ statusLabel) ++ depthLabel
          locationText := locationText
          confidence := if isDirectOfficialCategory record.categoryCode then 47 / 50 else 39 / 50
          tags := ["official", "wra", "flood_incident", "historical", recession].map text ++
            record.sourceCode.toList.map fun code => text "source_code:" ++ beforeColon code }

/-- `_rejection_reason`. -/
def rejectionReason (record : IncidentRecord) : String :=
  if record.locationPrecision ≠ "point" || record.point.isNone then
    "missing_reviewed_point_geometry"
  else "invalid_incident_fields"

structure RunState where
  normalized : List IncidentEvidence
  rejected : List Text
  rejectionDetails : List SourceRejection

/-- The loop of `run`. -/
def runLoop : RunState → List IncidentRecord → Except Raised RunState
  | state, [] => .ok state
  | state, record :: rest => do
      match ← normalize runtime record with
      | some evidence => runLoop { state with normalized := state.normalized ++ [evidence] } rest
      | none =>
          let rejected := state.rejected ++ [record.incidentId]
          if state.rejectionDetails.length < 256 then do
            let rejection ← sourceRejection record.incidentId (rejectionReason record)
            runLoop ⟨state.normalized, rejected, state.rejectionDetails ++ [rejection]⟩ rest
          else runLoop ⟨state.normalized, rejected, state.rejectionDetails⟩ rest

/-- `WraFloodIncidentApiAdapter.run` of a payload. -/
def run (payload : Value) : Except IncidentError RunState := do
  let fetched ← parseIncidentPayload runtime payload
  let state ← (runLoop runtime ⟨[], [], []⟩ fetched).mapError .raised
  (checkRejections (state.normalized.map IncidentEvidence.sourceId) state.rejected
    state.rejectionDetails).mapError .raised
  return state

end FloodRisk.WraIncident
