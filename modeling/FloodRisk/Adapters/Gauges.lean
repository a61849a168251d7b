import FloodRisk.Adapters.FloodSensors

/-!
# Rain and river gauges (adapters/cwa/rainfall.py, adapters/wra/water_level.py)
-/

namespace FloodRisk.Adapters
open Python

variable (runtime : Runtime)

/-- Nothing where the value is none, or below zero. -/
def nonNegative (x : Option Double) : Option Double := x.filter fun x => !x.lt (.finite 0)

/-! ### CWA rainfall -/

namespace CwaRainfall

def key : String := "official.cwa.rainfall"
def sourceUrl : String := "https://data.gov.tw/dataset/9177"
def attribution : String := "Central Weather Administration"

/-- `_precipitation_value`. -/
def precipitationValue (value : Value) : Except Raised (Option Double) :=
  (optionalFloat runtime (match value with
    | .object members => get members "Precipitation"
    | value => value)).map nonNegative

/-- `_wgs84_coordinate`, latitude first: the first one of that name, else the last one. -/
def wgs84Coordinate (fallback : Option (Double × Double)) :
    List Value → Except Raised (Option (Double × Double))
  | [] => .ok fallback
  | .object coordinate :: rest => do
      let latitude ← optionalFloat runtime (get coordinate "StationLatitude")
      let longitude ← optionalFloat runtime (get coordinate "StationLongitude")
      match latitude, longitude with
      | some latitude, some longitude =>
          match get coordinate "CoordinateName" with
          | .text name =>
              if name = text "WGS84" then return some (latitude, longitude)
              else wgs84Coordinate (some (latitude, longitude)) rest
          | _ => wgs84Coordinate (some (latitude, longitude)) rest
      | _, _ => wgs84Coordinate fallback rest
  | _ :: rest => wgs84Coordinate fallback rest

def coordinateOf : Value → Except Raised (Option (Double × Double))
  | .list coordinates => wgs84Coordinate runtime none coordinates
  | _ => .ok none

def coordinateMembers (coordinate : Option (Double × Double)) : Members :=
  match coordinate with
  | some (latitude, longitude) =>
      [("latitude", .float latitude), ("longitude", .float longitude),
        ("geometry", pointValue longitude latitude)]
  | none => []

def stationRecord (resourceUrl stationId stationName : Text) (observedAt : ℤ)
    (rainfall1h rainfall10m rainfall24h : Option Double) (county town : Option Text)
    (coordinate : Option (Double × Double)) : Members :=
  [("station_id", .text stationId), ("station_name", .text stationName),
    ("observed_at", .text (isoText observedAt)), ("source_url", .text (text sourceUrl)),
    ("attribution", .text (text attribution)), ("confidence", .float (.finite (93 / 100))),
    ("resource_url", .text resourceUrl)] ++
    floatMember "rainfall_mm_1h" rainfall1h ++ floatMember "rainfall_mm_10m" rainfall10m ++
    floatMember "rainfall_mm_24h" rainfall24h ++ textMember "county" county ++
    textMember "town" town ++ coordinateMembers coordinate

/-- `_parse_cwa_station_record`. -/
def parseStationRecord (resourceUrl : Text) (item : Members) : Except Raised (Option Members) :=
  match get item "GeoInfo", get item "RainfallElement", get item "ObsTime" with
  | .object geoInfo, .object rainfall, .object obsTime => do
      let stationId ← optionalStr runtime (get item "StationId")
      let stationName ← optionalStr runtime (get item "StationName")
      let observedAt ← parseObservedAt runtime 0 (get obsTime "DateTime")
      let rainfall1h ← precipitationValue runtime (get rainfall "Past1hr")
      let rainfall10m ← precipitationValue runtime (get rainfall "Past10Min")
      let rainfall24h ← precipitationValue runtime (get rainfall "Past24hr")
      match stationId, stationName, observedAt with
      | some stationId, some stationName, some observedAt =>
          if rainfall1h.isNone && rainfall10m.isNone && rainfall24h.isNone then return none
          else
            let county ← optionalStr runtime (get geoInfo "CountyName")
            let town ← optionalStr runtime (get geoInfo "TownName")
            let coordinate ← coordinateOf runtime (get geoInfo "Coordinates")
            return some (stationRecord resourceUrl stationId stationName observedAt rainfall1h
              rainfall10m rainfall24h county town coordinate)
      | _, _, _ => return none
  | _, _, _ => .ok none

def summaryOf (rainfall1h rainfall24h rainfall10m : Option Double) : Text :=
  (match rainfall1h, rainfall10m with
    | some amount, _ =>
        text "Observed rainfall: " ++ runtime.formatFixed 1 amount ++ text " mm in 1 hour"
    | none, some amount =>
        text "Observed rainfall: " ++ runtime.formatFixed 1 amount ++ text " mm in 10 minutes"
    | none, none => text "Observed rainfall station online (no 1-hour reading)") ++
  match rainfall24h with
  | some amount => text "; " ++ runtime.formatFixed 1 amount ++ text " mm in 24 hours"
  | none => []

/-- `_normalize_rainfall_record`. -/
def normalize (raw : RawSourceItem) : Except Raised (Option NormalizedEvidence) := do
  let stationName := stripText (textOf raw.payload "station_name")
  let observedAt ← parseDatetime runtime (get raw.payload "observed_at")
  let rainfall1h ← optionalFloat runtime (get raw.payload "rainfall_mm_1h")
  let rainfall24h ← optionalFloat runtime (get raw.payload "rainfall_mm_24h")
  let rainfall10m ← optionalFloat runtime (get raw.payload "rainfall_mm_10m")
  match observedAt with
  | some observedAt =>
      if stationName = [] || rainfall1h.isNone && rainfall24h.isNone && rainfall10m.isNone then
        return none
      else
        let county ← optionalStr runtime (get raw.payload "county")
        let town ← optionalStr runtime (get raw.payload "town")
        let evidenceId ← stableEvidenceId runtime key raw.sourceId
        let credit ← optionalStr runtime (get raw.payload "attribution")
        return some {
          evidenceId := evidenceId
          adapterKey := key
          eventType := .rainfall
          sourceId := raw.sourceId
          sourceUrl := raw.sourceUrl
          sourceTitle := text "CWA rainfall observation: " ++ stationName
          sourceTimestamp := observedAt
          summary := summaryOf runtime rainfall1h rainfall24h rainfall10m
          locationText := joinTexts [county, town, some stationName]
          confidence := confidenceOf raw.payload (9 / 10)
          attribution := credit.getD (text attribution)
          tags := ["official", "cwa", "rainfall"] }
  | none => return none

end CwaRainfall

/-! ### WRA water level -/

namespace WraWaterLevel

def key : String := "official.wra.water_level"
def sourceUrl : String := "https://data.gov.tw/dataset/25768"
def attribution : String := "Water Resources Agency"

/-- `_twd97_xy_to_wgs84`: its arithmetic on the two numbers of a text is a parameter. -/
def twd97XyToWgs84 (value : Value) : Except Raised (Option (Double × Double)) :=
  match value with
  | .text t =>
      match (t.splitOnP fun c => isWhitespace c.shown).filter fun part => part ≠ [] with
      | [x, y] =>
          match runtime.parseFloat (shown x), runtime.parseFloat (shown y) with
          | some x, some y => (runtime.twd97ToWgs84 x y).map some
          | _, _ => .ok none
      | _ => .ok none
  | _ => .ok none

def latitudeKeys : List String := ["latitude", "Latitude", "Lat"]
def longitudeKeys : List String := ["longitude", "Longitude", "Lon", "Lng"]

/-- `_wra_station_metadata_coordinate`, latitude first. -/
def metadataCoordinate (item : Members) : Except Raised (Option (Double × Double)) := do
  let latitude ← optionalFloat runtime (firstNotNone item latitudeKeys)
  let longitude ← optionalFloat runtime (firstNotNone item longitudeKeys)
  match latitude, longitude with
  | some latitude, some longitude => return some (latitude, longitude)
  | _, _ =>
      twd97XyToWgs84 runtime
        (firstNotNone item ["locationbytwd97_xy", "LocationByTWD97_XY", "TWD97_XY"])

structure StationMetadata where
  stationId : Text
  latitude : Double
  longitude : Double
  observatoryIdentifier : Option Text
  stationName : Option Text
  riverName : Option Text
  alertLevel1M : Option Double
  alertLevel2M : Option Double

/-- `_parse_wra_station_metadata_record`. -/
def parseMetadataRecord (item : Members) : Except Raised (Option StationMetadata) := do
  let status ← textOfFirst runtime item ["observationstatus", "ObservationStatus"]
  if status = some (text "已廢") then return none
  else
    match ← textOfFirst runtime item
        ["basinidentifier", "stationid", "StationId", "StationID", "StationNo", "ST_NO"] with
    | none => return none
    | some stationId =>
        match ← metadataCoordinate runtime item with
        | none => return none
        | some (latitude, longitude) =>
            let observatoryIdentifier ← textOfFirst runtime item
              ["observatoryidentifier", "ObservatoryIdentifier"]
            let stationName ← textOfFirst runtime item
              ["observatoryname", "StationName", "station_name"]
            let riverName ← textOfFirst runtime item ["rivername", "RiverName", "river_name"]
            let alertLevel1M ← optionalFloat runtime
              (firstNotNone item ["alertlevel1", "AlertLevel1"])
            let alertLevel2M ← optionalFloat runtime
              (firstNotNone item ["alertlevel2", "AlertLevel2"])
            return some ⟨stationId, latitude, longitude, observatoryIdentifier, stationName,
              riverName, alertLevel1M, alertLevel2M⟩

/-- `_station_metadata_lookup_keys` finds the station by either of its ids. -/
def StationMetadata.hasKey (record : StationMetadata) (stationId : Text) : Bool :=
  record.stationId = stationId || record.observatoryIdentifier = some stationId

/-- `parse_wra_station_metadata_payload`, the last record of a station first. -/
def parseMetadata (items : List Value) : Except Raised (List StationMetadata) :=
  (parseItems (parseMetadataRecord runtime) items).map List.reverse

section Latest

variable (resourceUrl metadataUrl : Text) (stations : List StationMetadata)

def stationRecord (stationId stationName : Text) (observedAt : ℤ) (waterLevelM : Double)
    (riverName : Option Text) (warningLevelM latitude longitude : Option Double) : Members :=
  [("station_id", .text stationId), ("station_name", .text stationName),
    ("observed_at", .text (isoText observedAt)), ("water_level_m", .float waterLevelM),
    ("source_url", .text (text sourceUrl)), ("attribution", .text (text attribution)),
    ("confidence", .float (.finite (23 / 25))), ("resource_url", .text resourceUrl),
    ("station_metadata_url", .text metadataUrl)] ++
    textMember "river_name" riverName ++ floatMember "warning_level_m" warningLevelM ++
    match latitude, longitude with
    | some latitude, some longitude =>
        [("latitude", .float latitude), ("longitude", .float longitude),
          ("geometry", pointValue longitude latitude)]
    | _, _ => []

/-- `_parse_wra_station_record`. -/
def parseStationRecord (item : Members) : Except Raised (Option Members) := do
  let stationId ← textOfFirst runtime item
    ["station_id", "StationId", "StationID", "StationNo", "ST_NO", "ObservatoryIdentifier",
      "stationid", "basinidentifier"]
  let ownName ← textOfFirst runtime item
    ["station_name", "StationName", "StationNameEng", "observatoryname"]
  let observedAt ← parseObservedAt runtime localZone (firstNotNone item
    ["observed_at", "Time", "DateTime", "RecordTime", "ObserveTime", "datetime"])
  let waterLevelM ← optionalFloat runtime (firstNotNone item
    ["water_level_m", "WaterLevel", "WaterLevelM", "Stage", "waterlevel"])
  match stationId, observedAt, waterLevelM with
  | some stationId, some observedAt, some waterLevelM =>
      if waterLevelM.le (.finite (-90)) then return none
      else
        let metadata := stations.find? fun record => record.hasKey stationId
        let ownRiver ← textOfFirst runtime item ["river_name", "RiverName", "rivername"]
        let ownWarning ← optionalFloat runtime (firstNotNone item
          ["warning_level_m", "WarningLevel", "WarningStage", "alertlevel2", "AlertLevel2",
            "alertlevel1", "AlertLevel1"])
        let ownLatitude ← optionalFloat runtime (firstNotNone item latitudeKeys)
        let ownLongitude ← optionalFloat runtime (firstNotNone item longitudeKeys)
        return some (stationRecord resourceUrl metadataUrl stationId
          ((ownName.or (metadata.bind (·.stationName))).getD stationId) observedAt waterLevelM
          (ownRiver.or (metadata.bind (·.riverName)))
          ((ownWarning.or (metadata.bind (·.alertLevel2M))).or (metadata.bind (·.alertLevel1M)))
          (ownLatitude.or (metadata.map (·.latitude)))
          (ownLongitude.or (metadata.map (·.longitude))))
  | _, _, _ => return none

end Latest

/-- The summary and the tags of a level. -/
def levelReading (waterLevelM : Double) (warningLevelM : Option Double) : Text × List String :=
  let summary := text "Observed water level: " ++ runtime.formatFixed 2 waterLevelM ++ text " m"
  match warningLevelM with
  | some warningLevelM =>
      let gap := runtime.subtract warningLevelM waterLevelM
      (summary ++ text "; " ++ runtime.formatFixed 2 gap ++ text " m below warning level",
        if gap.le (.finite 0) then ["warning_threshold_reached"] else [])
  | none => (summary, [])

/-- `_normalize_water_level_record`. -/
def normalize (raw : RawSourceItem) : Except Raised (Option NormalizedEvidence) := do
  let stationName := stripText (textOf raw.payload "station_name")
  let observedAt ← parseDatetime runtime (get raw.payload "observed_at")
  let waterLevelM ← optionalFloat runtime (get raw.payload "water_level_m")
  let warningLevelM ← optionalFloat runtime (get raw.payload "warning_level_m")
  match observedAt, waterLevelM with
  | some observedAt, some waterLevelM =>
      if stationName = [] then return none
      else
        let riverName ← optionalStr runtime (get raw.payload "river_name")
        let reading := levelReading runtime waterLevelM warningLevelM
        let evidenceId ← stableEvidenceId runtime key raw.sourceId
        let credit ← optionalStr runtime (get raw.payload "attribution")
        return some {
          evidenceId := evidenceId
          adapterKey := key
          eventType := .waterLevel
          sourceId := raw.sourceId
          sourceUrl := raw.sourceUrl
          sourceTitle := text "WRA water level observation: " ++ stationName
          sourceTimestamp := observedAt
          summary := reading.1
          locationText := joinTexts [riverName, some stationName]
          confidence := confidenceOf raw.payload (9 / 10)
          attribution := credit.getD (text attribution)
          tags := ["official", "wra", "water_level"] ++ reading.2 }
  | _, _ => return none

end WraWaterLevel

end FloodRisk.Adapters
