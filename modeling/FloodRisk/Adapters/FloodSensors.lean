import FloodRisk.Adapters.StationRun

/-!
# Flood sensors (adapters/wra_iow/flood_depth.py, adapters/local_tainan/flood_sensor.py)

The lists of items are those that `_payload_items` finds in a payload.
-/

namespace FloodRisk.Adapters
open Python

variable (runtime : Runtime)

/-! ### What the two adapters share -/

/-- `_station_lookup_key` of a text. -/
def stationLookupKey (stationId : Text) : Text := runtime.casefold (stripText stationId)

/-- `_metadata_text`; the members of the metadata are texts, floats and flags. -/
def metadataText (metadata : Members) (key : String) : Option Text :=
  match get metadata key with
  | .text t => if stripText t = [] then none else some (stripText t)
  | _ => none

def hasMember (members : Members) (key : String) : Bool := (members.lookup key).isSome

/-- The members of some of the keys, as far as they are there. -/
def copiedMembers (metadata : Members) (keys : List String) : Members :=
  keys.filterMap fun key => (metadata.lookup key).map fun value => (key, value)

/-- A flag of `quality_flags` that is set. -/
def qualityFlag (payload : Members) (name : String) : Bool :=
  match get payload "quality_flags" with
  | .object flags =>
      match get flags name with
      | .boolean b => b
      | _ => false
  | _ => false

/-- `_quality_flag_tags`. -/
def qualityFlagTags (payload : Members) : List String :=
  match get payload "quality_flags" with
  | .object flags => flags.filterMap fun flag =>
      match flag.2 with
      | .boolean true => some flag.1
      | _ => none
  | _ => []

def confidenceOf (payload : Members) (default : ℚ) : ℚ :=
  match get payload "confidence" with
  | .float (.finite q) => q
  | _ => default

def joinTexts (parts : List (Option Text)) : Text :=
  List.intercalate (text " ") ((parts.filterMap id).filter fun part => part ≠ [])

/-- The coordinate of two members, where it lies in the bounds. -/
def boundedCoordinate (longitude latitude : Option Double) : Option (Double × Double) :=
  match longitude, latitude with
  | some longitude, some latitude =>
      if Double.le (.finite 118) longitude && longitude.le (.finite (247 / 2)) &&
          Double.le (.finite 21) latitude && latitude.le (.finite (53 / 2)) then
        some (longitude, latitude)
      else none
  | _, _ => none

def coordinateMembers (coordinate : Option (Double × Double)) : Members :=
  match coordinate with
  | some (longitude, latitude) =>
      [("longitude", .float longitude), ("latitude", .float latitude),
        ("geometry", pointValue longitude latitude)]
  | none => []

/-- The summary of a depth, and its tags. -/
def depthReading (head dryNote : String) (depthCm : Double) (stationName : Text) :
    Text × List String :=
  if depthCm.isZero then
    (text (head ++ "：無觀測到淹水（" ++ dryNote ++ "0 公分）（") ++ stationName ++ text "）",
      ["dry", "no_flooding_observed"])
  else if depthCm.lt (.finite 3) then
    (text (head ++ "：低水深觀測 ") ++ formatDepthCm runtime depthCm ++ text " 公分（" ++ stationName ++
        text "）",
      ["below_flood_threshold", "low_depth_observation"])
  else
    (text (head ++ "：水深 ") ++ formatDepthCm runtime depthCm ++ text " 公分（" ++ stationName ++
        text "）", [])

/-! ### WRA IoW -/

namespace WraIow

def key : String := "official.wra_iow.flood_depth"
def sourceUrl : String := "https://data.gov.tw/dataset/142980"
def attribution : String := "Water Resources Agency / IoW flood depth"

/-- `_coordinate`. -/
def coordinate (item : Members) : Except Raised (Option (Double × Double)) := do
  let longitude ← optionalFloat runtime (firstPresent item ["longitude", "Longitude", "lng", "x"])
  let latitude ← optionalFloat runtime (firstPresent item ["latitude", "Latitude", "lat", "y"])
  return boundedCoordinate longitude latitude

/-- `_parse_metadata_record`, with its key. -/
def parseMetadataRecord (item : Members) : Except Raised (Option (Text × Members)) := do
  match ← firstText runtime item ["sensorid", "SensorID", "station_id"] with
  | none => return none
  | some stationId =>
      let stationName ← firstText runtime item
        ["stationname", "observatoryname", "sensorfullname", "sensorname"]
      let authority ← firstText runtime item ["orgname", "authority"]
      let county ← firstText runtime item ["countyname", "county"]
      let town ← firstText runtime item ["townname", "town"]
      let countyCode ← firstText runtime item ["countycode"]
      let areaCode ← firstText runtime item ["areacode"]
      let category ← firstText runtime item ["category"]
      let unit ← firstText runtime item ["unit"]
      let enabled ← optionalBool runtime (firstPresent item ["isenable", "isEnable", "enabled"])
      let coordinate ← coordinate runtime item
      return some (stationLookupKey runtime stationId,
        [("station_id", .text stationId)] ++ textMember "station_name" stationName ++
          textMember "authority" authority ++ textMember "county" county ++ textMember "town" town ++
          textMember "county_code" countyCode ++ textMember "area_code" areaCode ++
          textMember "category" category ++ textMember "unit" unit ++
          booleanMember "sensor_enabled" enabled ++ coordinateMembers coordinate)

/-- `parse_wra_iow_flood_sensor_metadata_payload`, the last record of a station first. -/
def parseMetadata (items : List Value) : Except Raised (List (Text × Members)) :=
  (parseItems (parseMetadataRecord runtime) items).map List.reverse

/-- `_confidence`. -/
def confidence (metadataMissing coordinatesMissing disabled : Bool) : ℚ :=
  max (2 / 5) (43 / 50 - (if coordinatesMissing then 7 / 50 else 0) -
    (if metadataMissing then 2 / 25 else 0) - if disabled then 3 / 10 else 0)

section Latest

variable (resourceUrl metadataUrl : Text) (stations : List (Text × Members))

/-- The record that `_parse_latest_record` builds of what it has read. -/
def latestRecord (stationId : Text) (observedAt : ℤ) (depthCm : Double)
    (countyCode areaCode : Option Text) : Members :=
  let known := stations.lookup (stationLookupKey runtime stationId)
  let metadata := known.getD []
  let disabled := match get metadata "sensor_enabled" with
    | .boolean enabled => !enabled
    | _ => false
  let coordinatesMissing := !hasMember metadata "geometry"
  let stationName := (metadataText metadata "station_name").getD stationId
  [("station_id", .text stationId), ("station_name", .text stationName),
    ("observed_at", .text (isoText observedAt)), ("flood_depth_cm", .float depthCm),
    ("source_url", .text (text sourceUrl)),
    ("location_text", .text (joinTexts
      [metadataText metadata "county", metadataText metadata "town", some stationName])),
    ("authority", .text ((metadataText metadata "authority").getD (text attribution))),
    ("attribution", .text (text attribution)),
    ("confidence", .float (.finite (confidence known.isNone coordinatesMissing disabled))),
    ("quality_flags", .object [("station_metadata_missing", .boolean known.isNone),
      ("missing_station_coordinates", .boolean coordinatesMissing),
      ("sensor_disabled", .boolean disabled)]),
    ("resource_url", .text resourceUrl), ("station_metadata_url", .text metadataUrl)] ++
    textMember "county_code" (countyCode.or (metadataText metadata "county_code")) ++
    textMember "area_code" (areaCode.or (metadataText metadata "area_code")) ++
    copiedMembers metadata
      ["county", "town", "category", "unit", "longitude", "latitude", "geometry", "sensor_enabled"]

/-- `_parse_latest_record`. -/
def parseLatestRecord (item : Members) : Except Raised (Option Members) := do
  let stationId ← firstText runtime item ["sensorid", "SensorID", "station_id"]
  let observedAt ← parseObservedAt runtime 0 (firstPresent item ["timestamp", "observed_at"])
  let depthCm ← optionalFloat runtime (firstPresent item ["latestvalue", "flood_depth_cm"])
  match stationId, observedAt, depthCm with
  | some stationId, some observedAt, some depthCm =>
      if depthCm.lt (.finite 0) then return none
      else
        let countyCode ← firstText runtime item ["countycode"]
        let areaCode ← firstText runtime item ["areacode"]
        return some (latestRecord runtime resourceUrl metadataUrl stations stationId observedAt depthCm
          countyCode areaCode)
  | _, _, _ => return none

end Latest

/-- `_normalize_wra_iow_flood_depth_record`. -/
def normalize (raw : RawSourceItem) : Except Raised (Option NormalizedEvidence) := do
  if qualityFlag raw.payload "missing_station_coordinates" ||
      qualityFlag raw.payload "sensor_disabled" then return none
  let stationName ← optionalStr runtime (get raw.payload "station_name")
  let observedAt ← parseDatetime runtime (get raw.payload "observed_at")
  let depthCm ← optionalFloat runtime (get raw.payload "flood_depth_cm")
  match stationName, observedAt, depthCm with
  | some stationName, some observedAt, some depthCm =>
      let reading := depthReading runtime "WRA IoW 淹水深度" "" depthCm stationName
      let evidenceId ← stableEvidenceId runtime key raw.sourceId
      let locationText ← optionalStr runtime (get raw.payload "location_text")
      let credit ← optionalStr runtime (get raw.payload "attribution")
      return some {
        evidenceId := evidenceId
        adapterKey := key
        eventType := .floodReport
        sourceId := raw.sourceId
        sourceUrl := raw.sourceUrl
        sourceTitle := text "WRA IoW 淹水深度觀測：" ++ stationName
        sourceTimestamp := observedAt
        summary := reading.1
        locationText := locationText.getD stationName
        confidence := confidenceOf raw.payload (43 / 50)
        attribution := credit.getD (text attribution)
        tags := (["official", "wra_iow", "flood_sensor"] ++ reading.2 ++
          qualityFlagTags raw.payload).eraseDups }
  | _, _, _ => return none

end WraIow

/-! ### Tainan -/

namespace Tainan

def key : String := "local.tainan.flood_sensor"
def sourceUrl : String := "https://data.tainan.gov.tw/DataSet/Detail/03dd4536-3fe7-46ec-9920-a120cb5c502c"
def attribution : String := "臺南市政府水利局 / 臺南市政府資料開放平台"

def longitudeKeys : List String := ["Longitude", "longitude", "lng", "x"]
def latitudeKeys : List String := ["Latitude", "latitude", "lat", "y"]

/-- A coordinate of the point, and of the item where the point has none. -/
def pointFloat (point : Value) (item : Members) (keys : List String) :
    Except Raised (Option Double) := do
  let found ← match point with
    | .object members => optionalFloat runtime (firstPresent members keys)
    | _ => .ok none
  match found with
  | some x => return some x
  | none => optionalFloat runtime (firstPresent item keys)

/-- `_metadata_coordinate`. -/
def coordinate (item : Members) : Except Raised (Option (Double × Double)) := do
  let point := if (get item "Point").truthy then get item "Point" else get item "point"
  let longitude ← pointFloat runtime point item longitudeKeys
  let latitude ← pointFloat runtime point item latitudeKeys
  return boundedCoordinate longitude latitude

/-- `_parse_tainan_metadata_record`, with its key. -/
def parseMetadataRecord (item : Members) : Except Raised (Option (Text × Members)) := do
  match ← firstText runtime item ["StationID", "station_id", "stationId"] with
  | none => return none
  | some stationId =>
      let stationName ← firstText runtime item ["StationName", "station_name"]
      let authority ← firstText runtime item ["Owner", "owner", "authority"]
      let districtId ← firstText runtime item ["DistrictID", "district_id"]
      let landLevel ← optionalFloat runtime (firstPresent item ["LandLevel", "land_level_m"])
      let alertLevel ← optionalFloat runtime (firstPresent item ["AlertLevel", "alert_level_cm"])
      let enabled ← optionalBool runtime (firstPresent item ["IsEnabled", "is_enabled"])
      let coordinate ← coordinate runtime item
      return some (stationLookupKey runtime stationId,
        [("station_id", .text stationId)] ++ textMember "station_name" stationName ++
          textMember "authority" authority ++ textMember "district_id" districtId ++
          floatMember "land_level_m" landLevel ++ floatMember "alert_level_cm" alertLevel ++
          booleanMember "metadata_station_enabled" enabled ++ coordinateMembers coordinate)

/-- `parse_tainan_flood_sensor_metadata_payload`, the last record of a station first. -/
def parseMetadata (items : List Value) : Except Raised (List (Text × Members)) :=
  (parseItems (parseMetadataRecord runtime) items).map List.reverse

/-- `_confidence`. -/
def confidence (coordinatesMissing metadataMissing innerDoubt : Bool) : ℚ :=
  max (2 / 5) (41 / 50 - (if coordinatesMissing then 3 / 25 else 0) -
    (if metadataMissing then 2 / 25 else 0) - if innerDoubt then 1 / 5 else 0)

section Latest

variable (resourceUrl metadataUrl : Text) (stations : List (Text × Members))

/-- The record that `_parse_tainan_realtime_record` builds of what it has read. -/
def realtimeRecord (stationId : Text) (observedAt : ℤ) (depthCm : Double)
    (innerDoubt : Option Bool) (battery rssi snr : Option Double) (enabled : Option Bool) :
    Members :=
  let known := stations.lookup (stationLookupKey runtime stationId)
  let metadata := known.getD []
  let coordinatesMissing := !hasMember metadata "geometry"
  let stationName := (metadataText metadata "station_name").getD stationId
  [("station_id", .text stationId), ("station_name", .text stationName),
    ("observed_at", .text (isoText observedAt)), ("flood_depth_cm", .float depthCm),
    ("source_url", .text (text sourceUrl)), ("location_text", .text stationName),
    ("authority", .text ((metadataText metadata "authority").getD (text attribution))),
    ("attribution", .text (text attribution)),
    ("confidence", .float (.finite
      (confidence coordinatesMissing known.isNone (innerDoubt = some true)))),
    ("quality_flags", .object [("missing_station_coordinates", .boolean coordinatesMissing),
      ("station_metadata_missing", .boolean known.isNone),
      ("water_inner_doubt", .boolean (innerDoubt = some true))]),
    ("resource_url", .text resourceUrl), ("station_metadata_url", .text metadataUrl)] ++
    floatMember "battery_voltage" battery ++ floatMember "rssi" rssi ++ floatMember "snr" snr ++
    booleanMember "realtime_station_enabled" enabled ++
    copiedMembers metadata
      ["district_id", "land_level_m", "alert_level_cm", "metadata_station_enabled", "latitude",
        "longitude", "geometry"]

/-- `_parse_tainan_realtime_record`. -/
def parseRealtimeRecord (item : Members) : Except Raised (Option Members) := do
  let stationId ← firstText runtime item ["StationID", "station_id", "stationId"]
  let observedAt ← parseObservedAt runtime localZone (firstPresent item ["InfoTime", "info_time"])
  let depthCm ← optionalFloat runtime (firstPresent item ["WaterDepth", "water_depth_cm"])
  match stationId, observedAt, depthCm with
  | some stationId, some observedAt, some depthCm =>
      if depthCm.lt (.finite 0) then return none
      else
        let innerDoubt ← optionalBool runtime (firstPresent item ["IsWaterInnerDoubt"])
        let battery ← optionalFloat runtime (firstPresent item ["BatteryVoltage"])
        let rssi ← optionalFloat runtime (firstPresent item ["RSSI"])
        let snr ← optionalFloat runtime (firstPresent item ["SNR"])
        let enabled ← optionalBool runtime (firstPresent item ["IsEnabled", "is_enabled"])
        return some (realtimeRecord runtime resourceUrl metadataUrl stations stationId observedAt
          depthCm innerDoubt battery rssi snr enabled)
  | _, _, _ => return none

end Latest

def isDisabled (payload : Members) (key : String) : Bool :=
  match get payload key with
  | .boolean enabled => !enabled
  | _ => false

/-- `_normalize_tainan_flood_sensor_record`. -/
def normalize (raw : RawSourceItem) : Except Raised (Option NormalizedEvidence) := do
  let inactiveStation := isDisabled raw.payload "realtime_station_enabled" ||
    isDisabled raw.payload "metadata_station_enabled"
  if !inactiveStation && qualityFlag raw.payload "missing_station_coordinates" then return none
  let stationName ← optionalStr runtime (get raw.payload "station_name")
  let observedAt ← parseDatetime runtime (get raw.payload "observed_at")
  let depthCm ← optionalFloat runtime (get raw.payload "flood_depth_cm")
  match stationName, observedAt, depthCm with
  | some stationName, some observedAt, some depthCm =>
      let reading := depthReading runtime "台南地方淹水感測" "" depthCm stationName
      let evidenceId ← stableEvidenceId runtime key raw.sourceId
      let locationText ← optionalStr runtime (get raw.payload "location_text")
      let credit ← optionalStr runtime (get raw.payload "attribution")
      return some {
        evidenceId := evidenceId
        adapterKey := key
        eventType := .floodReport
        sourceId := raw.sourceId
        sourceUrl := raw.sourceUrl
        sourceTitle := text "台南地方淹水感測器觀測：" ++ stationName
        sourceTimestamp := observedAt
        summary := reading.1
        locationText := locationText.getD stationName
        confidence := confidenceOf raw.payload (41 / 50)
        attribution := credit.getD (text attribution)
        tags := (["official", "local_tainan", "flood_sensor", "supplemental_civil_iot"] ++
          reading.2 ++ qualityFlagTags raw.payload).eraseDups }
  | _, _, _ => return none

end Tainan

/-- The raw item of a record; the record of an adapter has no scope yet. -/
def rawItemOf (record : Members) : RawSourceItem :=
  ⟨sourceIdOf record, textOf record "source_url",
    record ++ [("evidence_scope", .text (text "current"))]⟩

end FloodRisk.Adapters
