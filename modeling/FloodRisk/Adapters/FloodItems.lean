import FloodRisk.Adapters.FloodSensors

/-!
# What flood sensors ask of an item

An item is read without a raise exactly where each value that is asked for is printed, fits a float
and is in the calendar.
-/

namespace FloodRisk.Adapters
open Python

variable {runtime : Runtime}

/-! ### Depths -/

/-- A station, a time and a depth that is not below zero. -/
structure FloodReading where
  stationId : Text
  observedAt : ℤ
  depthCm : Double

section FloodReadings

variable (runtime)

/-- The members of an item with its station, its time and its depth. -/
structure FloodKeys where
  station : List String
  time : List String
  depth : List String
  zone : ℤ

def floodReading (keys : FloodKeys) (item : Members) : Except Raised (Option FloodReading) := do
  let stationId ← firstText runtime item keys.station
  let observedAt ← parseObservedAt runtime keys.zone (firstPresent item keys.time)
  let depthCm ← optionalFloat runtime (firstPresent item keys.depth)
  match stationId, observedAt, depthCm with
  | some stationId, some observedAt, some depthCm =>
      if depthCm.lt (.finite 0) then return none
      else return some ⟨stationId, observedAt, depthCm⟩
  | _, _, _ => return none

structure FloodReads (keys : FloodKeys) (item : Members) : Prop where
  station : FirstTextReads runtime item keys.station
  time : FitsCalendar runtime keys.zone (firstPresent item keys.time)
  depth : FitsFloat (firstPresent item keys.depth)

end FloodReadings

namespace WraIow

section Conditions

variable (runtime)

structure CoordinateReads (item : Members) : Prop where
  longitude : FitsFloat (firstPresent item ["longitude", "Longitude", "lng", "x"])
  latitude : FitsFloat (firstPresent item ["latitude", "Latitude", "lat", "y"])

/-- The members that are copied of a station. -/
def copiedKeys : List (List String) :=
  [["stationname", "observatoryname", "sensorfullname", "sensorname"], ["orgname", "authority"],
    ["countyname", "county"], ["townname", "town"], ["countycode"], ["areacode"], ["category"],
    ["unit"]]

structure DescriptionReads (item : Members) : Prop where
  copied : ∀ keys ∈ copiedKeys, FirstTextReads runtime item keys
  enabled : FlagReads runtime (firstPresent item ["isenable", "isEnable", "enabled"])
  coordinate : CoordinateReads item

def floodKeys : FloodKeys :=
  ⟨["sensorid", "SensorID", "station_id"], ["timestamp", "observed_at"],
    ["latestvalue", "flood_depth_cm"], 0⟩

structure ItemReads (item : Members) : Prop where
  reading : FloodReads runtime floodKeys item
  codes : ∀ reading, floodReading runtime floodKeys item = .ok (some reading) →
    FirstTextReads runtime item ["countycode"] ∧ FirstTextReads runtime item ["areacode"]

end Conditions

variable {resourceUrl metadataUrl : Text} {stations : List (Text × Members)} {item : Members}

end WraIow

/-! ### Tainan -/

namespace Tainan

section Conditions

variable (runtime)

/-- What `pointFloat` asks of the point, and of the item where the point has no number. -/
structure PointFloatReads (point : Value) (item : Members) (keys : List String) : Prop where
  first : ∀ members, point = .object members → FitsFloat (firstPresent members keys)
  item : (∀ members, point = .object members →
    optionalFloat runtime (firstPresent members keys) = .ok none) → FitsFloat (firstPresent item keys)

def pointOf (item : Members) : Value :=
  if (get item "Point").truthy then get item "Point" else get item "point"

structure CoordinateReads (item : Members) : Prop where
  longitude : PointFloatReads runtime (pointOf item) item longitudeKeys
  latitude : PointFloatReads runtime (pointOf item) item latitudeKeys

structure DescriptionReads (item : Members) : Prop where
  name : FirstTextReads runtime item ["StationName", "station_name"]
  authority : FirstTextReads runtime item ["Owner", "owner", "authority"]
  district : FirstTextReads runtime item ["DistrictID", "district_id"]
  landLevel : FitsFloat (firstPresent item ["LandLevel", "land_level_m"])
  alertLevel : FitsFloat (firstPresent item ["AlertLevel", "alert_level_cm"])
  enabled : FlagReads runtime (firstPresent item ["IsEnabled", "is_enabled"])
  coordinate : CoordinateReads runtime item

def floodKeys : FloodKeys :=
  ⟨["StationID", "station_id", "stationId"], ["InfoTime", "info_time"],
    ["WaterDepth", "water_depth_cm"], localZone⟩

/-- The state of the sensor. -/
structure DeviceReads (item : Members) : Prop where
  innerDoubt : FlagReads runtime (firstPresent item ["IsWaterInnerDoubt"])
  battery : FitsFloat (firstPresent item ["BatteryVoltage"])
  rssi : FitsFloat (firstPresent item ["RSSI"])
  snr : FitsFloat (firstPresent item ["SNR"])
  enabled : FlagReads runtime (firstPresent item ["IsEnabled", "is_enabled"])

structure ItemReads (item : Members) : Prop where
  reading : FloodReads runtime floodKeys item
  device : ∀ reading, floodReading runtime floodKeys item = .ok (some reading) →
    DeviceReads runtime item

end Conditions

variable {resourceUrl metadataUrl : Text} {stations : List (Text × Members)} {item : Members}

end Tainan

end FloodRisk.Adapters
