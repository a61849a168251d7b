import FloodRisk.Adapters.Gauges

/-!
# What gauges ask of an item
-/

namespace FloodRisk.Adapters
open Python

variable {runtime : Runtime}

/-! ### CWA rainfall -/

namespace CwaRainfall

section Conditions

variable (runtime)

/-- The member that is the amount. -/
def amountOf : Value → Value
  | .object members => get members "Precipitation"
  | value => value

/-- Both numbers of a coordinate of the name that the search stops at. -/
def StopsAt (coordinate : Members) : Prop :=
  (∃ latitude, optionalFloat runtime (get coordinate "StationLatitude") = .ok (some latitude)) ∧
    (∃ longitude, optionalFloat runtime (get coordinate "StationLongitude") =
      .ok (some longitude)) ∧
    get coordinate "CoordinateName" = .text (text "WGS84")

/-- The numbers of the coordinates, up to the first that the search stops at. -/
def CoordinatesRead : List Value → Prop
  | [] => True
  | .object coordinate :: rest => FitsFloat (get coordinate "StationLatitude") ∧
      FitsFloat (get coordinate "StationLongitude") ∧
      (¬ StopsAt runtime coordinate → CoordinatesRead rest)
  | _ :: rest => CoordinatesRead rest

/-- A station, a time and amounts of rain. -/
structure RainReading where
  stationId : Text
  stationName : Text
  observedAt : ℤ
  amounts : Option Double × Option Double × Option Double

def rainReading (item rainfall obsTime : Members) : Except Raised (Option RainReading) := do
  let stationId ← optionalStr runtime (get item "StationId")
  let stationName ← optionalStr runtime (get item "StationName")
  let observedAt ← parseObservedAt runtime 0 (get obsTime "DateTime")
  let rainfall1h ← precipitationValue runtime (get rainfall "Past1hr")
  let rainfall10m ← precipitationValue runtime (get rainfall "Past10Min")
  let rainfall24h ← precipitationValue runtime (get rainfall "Past24hr")
  match stationId, stationName, observedAt with
  | some stationId, some stationName, some observedAt =>
      if rainfall1h.isNone && rainfall10m.isNone && rainfall24h.isNone then return none
      else return some ⟨stationId, stationName, observedAt, rainfall1h, rainfall10m, rainfall24h⟩
  | _, _, _ => return none

structure RainReads (item rainfall obsTime : Members) : Prop where
  id : Prints runtime (get item "StationId")
  name : Prints runtime (get item "StationName")
  time : FitsCalendar runtime 0 (get obsTime "DateTime")
  rainfall1h : FitsFloat (amountOf (get rainfall "Past1hr"))
  rainfall10m : FitsFloat (amountOf (get rainfall "Past10Min"))
  rainfall24h : FitsFloat (amountOf (get rainfall "Past24hr"))

structure PlaceReads (geoInfo : Members) : Prop where
  county : Prints runtime (get geoInfo "CountyName")
  town : Prints runtime (get geoInfo "TownName")
  coordinates : ∀ coordinates, get geoInfo "Coordinates" = .list coordinates →
    CoordinatesRead runtime coordinates

/-- What is asked of an item with the three objects. -/
def ItemReads (item : Members) : Prop :=
  ∀ geoInfo rainfall obsTime, get item "GeoInfo" = .object geoInfo →
    get item "RainfallElement" = .object rainfall → get item "ObsTime" = .object obsTime →
      RainReads runtime item rainfall obsTime ∧
        ∀ reading, rainReading runtime item rainfall obsTime = .ok (some reading) →
          PlaceReads runtime geoInfo

end Conditions

section Coordinates

variable {fallback : Option (Double × Double)} {coordinate : Members} {rest : List Value}

end Coordinates

variable {resourceUrl : Text} {item rainfall obsTime geoInfo : Members}

end CwaRainfall

/-! ### WRA water level -/

namespace WraWaterLevel

section Conditions

variable (runtime)

/-- The arithmetic on the two numbers of a text does not raise. -/
def GridReads (value : Value) : Prop :=
  ∀ t a b x y, value = .text t →
    ((t.splitOnP fun c => isWhitespace c.shown).filter fun part => part ≠ []) = [a, b] →
    runtime.parseFloat (shown a) = some x → runtime.parseFloat (shown b) = some y →
      Outcome.Returns (runtime.twd97ToWgs84 x y)

def idKeys : List String :=
  ["basinidentifier", "stationid", "StationId", "StationID", "StationNo", "ST_NO"]
def gridKeys : List String := ["locationbytwd97_xy", "LocationByTWD97_XY", "TWD97_XY"]

structure CoordinateReads (item : Members) : Prop where
  latitude : FitsFloat (firstNotNone item latitudeKeys)
  longitude : FitsFloat (firstNotNone item longitudeKeys)
  grid : optionalFloat runtime (firstNotNone item latitudeKeys) = .ok none ∨
    optionalFloat runtime (firstNotNone item longitudeKeys) = .ok none →
      GridReads runtime (firstNotNone item gridKeys)

structure DescriptionReads (item : Members) : Prop where
  observatory : FirstPrints runtime item ["observatoryidentifier", "ObservatoryIdentifier"]
  name : FirstPrints runtime item ["observatoryname", "StationName", "station_name"]
  river : FirstPrints runtime item ["rivername", "RiverName", "river_name"]
  alertLevel1 : FitsFloat (firstNotNone item ["alertlevel1", "AlertLevel1"])
  alertLevel2 : FitsFloat (firstNotNone item ["alertlevel2", "AlertLevel2"])

/-- What is asked of a station that is not abandoned. -/
structure PlaceReads (item : Members) : Prop where
  id : FirstPrints runtime item idKeys
  coordinate : ∀ stationId, textOfFirst runtime item idKeys = .ok (some stationId) →
    CoordinateReads runtime item
  described : ∀ stationId place, textOfFirst runtime item idKeys = .ok (some stationId) →
    metadataCoordinate runtime item = .ok (some place) → DescriptionReads runtime item

def readingIdKeys : List String :=
  ["station_id", "StationId", "StationID", "StationNo", "ST_NO", "ObservatoryIdentifier",
    "stationid", "basinidentifier"]
def nameKeys : List String := ["station_name", "StationName", "StationNameEng", "observatoryname"]
def timeKeys : List String :=
  ["observed_at", "Time", "DateTime", "RecordTime", "ObserveTime", "datetime"]
def levelKeys : List String := ["water_level_m", "WaterLevel", "WaterLevelM", "Stage", "waterlevel"]
def warningKeys : List String :=
  ["warning_level_m", "WarningLevel", "WarningStage", "alertlevel2", "AlertLevel2", "alertlevel1",
    "AlertLevel1"]

/-- A station, a time and a level that is not the code of a missing one. -/
structure LevelReading where
  stationId : Text
  ownName : Option Text
  observedAt : ℤ
  waterLevelM : Double

def levelReadingOf (item : Members) : Except Raised (Option LevelReading) := do
  let stationId ← textOfFirst runtime item readingIdKeys
  let ownName ← textOfFirst runtime item nameKeys
  let observedAt ← parseObservedAt runtime localZone (firstNotNone item timeKeys)
  let waterLevelM ← optionalFloat runtime (firstNotNone item levelKeys)
  match stationId, observedAt, waterLevelM with
  | some stationId, some observedAt, some waterLevelM =>
      if waterLevelM.le (.finite (-90)) then return none
      else return some ⟨stationId, ownName, observedAt, waterLevelM⟩
  | _, _, _ => return none

structure LevelReads (item : Members) : Prop where
  id : FirstPrints runtime item readingIdKeys
  name : FirstPrints runtime item nameKeys
  time : FitsCalendar runtime localZone (firstNotNone item timeKeys)
  level : FitsFloat (firstNotNone item levelKeys)

structure RiverReads (item : Members) : Prop where
  river : FirstPrints runtime item ["river_name", "RiverName", "rivername"]
  warning : FitsFloat (firstNotNone item warningKeys)
  latitude : FitsFloat (firstNotNone item latitudeKeys)
  longitude : FitsFloat (firstNotNone item longitudeKeys)

structure ItemReads (item : Members) : Prop where
  reading : LevelReads runtime item
  river : ∀ reading, levelReadingOf runtime item = .ok (some reading) → RiverReads runtime item

end Conditions

variable {resourceUrl metadataUrl : Text} {stations : List StationMetadata} {item : Members}

end WraWaterLevel

end FloodRisk.Adapters
