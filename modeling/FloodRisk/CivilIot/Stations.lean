import FloodRisk.CivilIot.Things

/-!
# The Civil IoT stations (adapters/civil_iot)

The raw items and the evidence of the flood sensors, the rivers and the other water levels.
-/

namespace FloodRisk.CivilIot
open Python Adapters

variable (runtime : Runtime)

/-! ### Flood sensors (flood_sensor.py) -/

namespace FloodSensor

def key : String := "official.civil_iot.flood_sensor"
def sourceUrl : String := "https://ci.taiwan.gov.tw/dsp/Views/dataset/detail.aspx?id=water_12"
def attribution : String := "Water Resources Agency / Civil IoT Taiwan"

/-- `_normalize_raw_payload`. -/
def rawPayload (record : Members) (sourceUrl : Text) : Except Raised Members := do
  let payload := setMember (setMember record "source_url" (.text sourceUrl)) "evidence_scope"
    (.text (text "current"))
  match ← optionalFloat runtime (get payload "value") with
  | some value => return setMember payload "flood_depth_cm" (.float value)
  | none => return payload

def rawItemOf (record : Members) : Except Raised RawSourceItem := do
  let payload ← rawPayload runtime record (textOf record "source_url")
  return ⟨sourceIdOf record, textOf record "source_url", payload⟩

/-- `_normalize_flood_sensor_record`. -/
def normalize (raw : RawSourceItem) : Except Raised (Option NormalizedEvidence) := do
  let stationName ← optionalStr runtime (get raw.payload "station_name")
  let observedAt ← parseDatetime runtime (get raw.payload "observed_at")
  let depthCm ← optionalFloat runtime (get raw.payload "value")
  match stationName, observedAt, depthCm with
  | some stationName, some observedAt, some depthCm =>
      let locationText ← optionalStr runtime (get raw.payload "location_text")
      let reading := depthReading runtime "路面淹水感測" "乾燥，" depthCm stationName
      let evidenceId ← stableEvidenceId runtime key raw.sourceId
      let credit ← optionalStr runtime (get raw.payload "attribution")
      return some {
        evidenceId := evidenceId
        adapterKey := key
        eventType := .floodReport
        sourceId := raw.sourceId
        sourceUrl := raw.sourceUrl
        sourceTitle := text "路面淹水感測器觀測：" ++ stationName
        sourceTimestamp := observedAt
        summary := reading.1
        locationText := locationText.getD stationName
        confidence := confidenceOf raw.payload (9 / 10)
        attribution := credit.getD (text attribution)
        tags := ["official", "wra", "flood_sensor", "civil_iot"] ++ reading.2 }
  | _, _, _ => return none

end FloodSensor

/-! ### Water levels (river_water_level.py, sta_water_level.py) -/

structure WaterLevelNetwork where
  key : String
  sourceUrl : String
  attribution : String
  summaryHead : String
  titleHead : String
  tags : List String
  nameTokens : List Text
  neverDry : "dry" ∉ tags

def riverWaterLevel : WaterLevelNetwork where
  key := "official.civil_iot.river_water_level"
  sourceUrl := "https://ci.taiwan.gov.tw/dsp/dataset_iow01.aspx"
  attribution := "Water Resources Agency / Civil IoT Taiwan"
  summaryHead := "河川水位觀測："
  titleHead := "河川水位觀測："
  tags := ["official", "wra", "water_level", "civil_iot"]
  nameTokens := []
  neverDry := by decide

/-- A source of `sta_water_level.py`. -/
def staWaterLevel (key displayName sourceUrl attribution : String) (nameTokens : List Text) :
    WaterLevelNetwork where
  key := key
  sourceUrl := sourceUrl
  attribution := attribution
  summaryHead := displayName ++ " 觀測："
  titleHead := displayName ++ "："
  tags := ["official", "civil_iot", "water_level"]
  nameTokens := nameTokens
  neverDry := by decide

def pondWaterLevel : WaterLevelNetwork :=
  staWaterLevel "official.civil_iot.pond_water_level"
    "Agricultural pond water level adapter (Civil IoT)"
    "https://ci.taiwan.gov.tw/dsp/dataset_iow12.aspx"
    "Agency of Rural Development and Soil and Water Conservation / Civil IoT Taiwan" []

def sewerWaterLevel : WaterLevelNetwork :=
  staWaterLevel "official.civil_iot.sewer_water_level"
    "Storm sewer water level adapter (Civil IoT)"
    "https://ci.taiwan.gov.tw/dsp/Views/dataset/detail.aspx?id=nlma1"
    "National Land Management Agency / Civil IoT Taiwan" []

def pumpWaterLevel : WaterLevelNetwork :=
  staWaterLevel "official.civil_iot.pump_water_level"
    "Pump station water level adapter (Civil IoT)"
    "https://ci.taiwan.gov.tw/dsp/Views/dataset/detail.aspx?id=water_14"
    "Water Resources Agency / local governments / Civil IoT Taiwan" [text "外水位", text "水位"]

def gateWaterLevel : WaterLevelNetwork :=
  staWaterLevel "official.civil_iot.gate_water_level"
    "Water gate external water level adapter (Civil IoT)"
    "https://ci.taiwan.gov.tw/dsp/Views/dataset/detail.aspx?id=water_15"
    "Water Resources Agency / local governments / Civil IoT Taiwan" [text "閘門外水位"]

namespace WaterLevel

/-- The level of a payload, which may only have a value. -/
def levelOf (payload : Members) : Except Raised (Option Double) := do
  match ← optionalFloat runtime (get payload "water_level_m") with
  | some level => return some level
  | none => optionalFloat runtime (get payload "value")

def withFloat (payload : Members) (key : String) : Option Double → Members
  | some x => setMember payload key (.float x)
  | none => payload

/-- `_raw_payload_with_water_level_metric`. -/
def rawPayload (record : Members) : Except Raised Members := do
  let payload := setMember record "evidence_scope" (.text (text "current"))
  let waterLevelM ← levelOf runtime payload
  let measured := withFloat payload "water_level_m" waterLevelM
  let warningLevelM ← optionalFloat runtime (get measured "warning_level_m")
  return withFloat measured "warning_level_m" warningLevelM

def rawItemOf (record : Members) : Except Raised RawSourceItem := do
  let payload ← rawPayload runtime record
  return ⟨sourceIdOf record, textOf record "source_url", payload⟩

/-- `_normalize_river_record` and `_normalize`. -/
def normalize (network : WaterLevelNetwork) (raw : RawSourceItem) :
    Except Raised (Option NormalizedEvidence) := do
  let stationName ← optionalStr runtime (get raw.payload "station_name")
  let observedAt ← parseDatetime runtime (get raw.payload "observed_at")
  let waterLevelM ← levelOf runtime raw.payload
  match stationName, observedAt, waterLevelM with
  | some stationName, some observedAt, some waterLevelM =>
      if waterLevelM.le (.finite (-90)) then return none
      else
        let locationText ← optionalStr runtime (get raw.payload "location_text")
        let evidenceId ← stableEvidenceId runtime network.key raw.sourceId
        let credit ← optionalStr runtime (get raw.payload "attribution")
        return some {
          evidenceId := evidenceId
          adapterKey := network.key
          eventType := .waterLevel
          sourceId := raw.sourceId
          sourceUrl := raw.sourceUrl
          sourceTitle := text network.titleHead ++ stationName
          sourceTimestamp := observedAt
          summary := text network.summaryHead ++ runtime.formatFixed 2 waterLevelM ++
            text " 公尺（" ++ stationName ++ text "）"
          locationText := locationText.getD stationName
          confidence := confidenceOf raw.payload (9 / 10)
          attribution := credit.getD (text network.attribution)
          tags := network.tags }
  | _, _, _ => return none

end WaterLevel

/-! ### Pages -/

/-- Whether a page of Datastreams holds Things. -/
def isLegacyPage (items : List Value) : Bool :=
  !items.isEmpty && items.all fun item =>
    match item with
    | .object members => hasMember members "Datastreams" && !hasMember members "Thing"
    | _ => false

/-- The records of a page of Things. -/
def thingRecords (sourceUrl : Text) (nameTokens : List Text) (items : List Value) :
    Except Raised (List Members) :=
  parseItems (parseThing runtime sourceUrl nameTokens) items

/-- The records of a page of Datastreams. -/
def datastreamRecords (sourceUrl : Text) (items : List Value) : Except Raised (List Members) :=
  if isLegacyPage items then parseItems (parseThing runtime sourceUrl []) items
  else parseItems (parseDatastream runtime sourceUrl) items

end FloodRisk.CivilIot
