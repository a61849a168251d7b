import FloodRisk.Adapters.FloodRecords
import FloodRisk.Adapters.GaugeItems

/-!
# The records of gauges
-/

namespace FloodRisk.Adapters
open Python

variable {runtime : Runtime}

namespace CwaRainfall

variable {resourceUrl : Text} {item : Members}

/-- The numbers of the amounts and of the place. -/
def numbersOf (amounts : Option Double × Option Double × Option Double)
    (place : Option (Double × Double)) : List Double :=
  amounts.1.toList ++ amounts.2.1.toList ++ amounts.2.2.toList ++
    place.toList.flatMap fun coordinate => [coordinate.1, coordinate.2]

/-- What is staged of an item. -/
def itemReading (runtime : Runtime) (item : Members) : Except Raised (Option StationReading) :=
  match get item "GeoInfo", get item "RainfallElement", get item "ObsTime" with
  | .object geoInfo, .object rainfall, .object obsTime => do
      match ← rainReading runtime item rainfall obsTime with
      | some reading =>
          let place ← coordinateOf runtime (get geoInfo "Coordinates")
          return some ⟨reading.stationId, reading.observedAt, numbersOf reading.amounts place, true⟩
      | none => return none
  | _, _, _ => .ok none

section Record

variable {stationId stationName : Text} {observedAt : ℤ}
  {rainfall1h rainfall10m rainfall24h : Option Double} {county town : Option Text}
  {place : Option (Double × Double)} {raw : RawSourceItem}

end Record

end CwaRainfall

namespace WraWaterLevel

variable {resourceUrl metadataUrl : Text} {stations : List StationMetadata} {item : Members}

def placeOf (latitude longitude : Option Double) : Option (Double × Double) :=
  match latitude, longitude with
  | some latitude, some longitude => some (latitude, longitude)
  | _, _ => none

/-- The numbers of the levels and of the place. -/
def numbersOf (waterLevelM : Double) (warningLevelM : Option Double)
    (place : Option (Double × Double)) : List Double :=
  [waterLevelM] ++ warningLevelM.toList ++
    place.toList.flatMap fun coordinate => [coordinate.1, coordinate.2]

/-- What is staged of an item, with what the metadata of its station adds. -/
def itemReading (runtime : Runtime) (stations : List StationMetadata) (item : Members) :
    Except Raised (Option StationReading) := do
  match ← levelReadingOf runtime item with
  | some reading =>
      let ownWarning ← optionalFloat runtime (firstNotNone item warningKeys)
      let ownLatitude ← optionalFloat runtime (firstNotNone item latitudeKeys)
      let ownLongitude ← optionalFloat runtime (firstNotNone item longitudeKeys)
      let metadata := stations.find? fun record => record.hasKey reading.stationId
      return some ⟨reading.stationId, reading.observedAt, numbersOf reading.waterLevelM
        ((ownWarning.or (metadata.bind (·.alertLevel2M))).or (metadata.bind (·.alertLevel1M)))
        (placeOf (ownLatitude.or (metadata.map (·.latitude)))
          (ownLongitude.or (metadata.map (·.longitude)))), true⟩
  | none => return none

section Record

variable {stationId stationName : Text} {observedAt : ℤ} {waterLevelM : Double}
  {riverName : Option Text} {warningLevelM latitude longitude : Option Double} {raw : RawSourceItem}

end Record

end WraWaterLevel

end FloodRisk.Adapters
