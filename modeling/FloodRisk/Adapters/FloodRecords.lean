import FloodRisk.Adapters.FloodItems
import FloodRisk.Adapters.Polls

/-!
# The records of flood sensors

What a record takes over of its item, and what is read again of it.
-/

namespace FloodRisk.Adapters
open Python

variable {runtime : Runtime}

/-! ### Members of a record -/

section Members

variable {numbers : List Double}

end Members

namespace WraIow

variable {resourceUrl metadataUrl : Text} {stations : List (Text × Members)} {item : Members}

/-- The station has coordinates and is not disabled. -/
def isStaged (runtime : Runtime) (stations : List (Text × Members)) (stationId : Text) : Bool :=
  let metadata := (stations.lookup (stationLookupKey runtime stationId)).getD []
  hasMember metadata "geometry" && !Tainan.isDisabled metadata "sensor_enabled"

/-- What is staged of an item. -/
def itemReading (runtime : Runtime) (stations : List (Text × Members)) (item : Members) :
    Except Raised (Option StationReading) :=
  (floodReading runtime floodKeys item).map fun found => found.map fun reading =>
    ⟨reading.stationId, reading.observedAt, [reading.depthCm],
      isStaged runtime stations reading.stationId⟩

end WraIow

namespace Tainan

variable {resourceUrl metadataUrl : Text} {stations : List (Text × Members)} {item : Members}

/-- The station has coordinates, or it is switched off. -/
def isStaged (runtime : Runtime) (stations : List (Text × Members)) (stationId : Text)
    (enabled : Option Bool) : Bool :=
  let metadata := (stations.lookup (stationLookupKey runtime stationId)).getD []
  (enabled = some false || isDisabled metadata "metadata_station_enabled") ||
    hasMember metadata "geometry"

/-- What is staged of an item. -/
def itemReading (runtime : Runtime) (stations : List (Text × Members)) (item : Members) :
    Except Raised (Option StationReading) := do
  match ← floodReading runtime floodKeys item with
  | some reading =>
      let enabled ← optionalBool runtime (firstPresent item ["IsEnabled", "is_enabled"])
      return some ⟨reading.stationId, reading.observedAt, [reading.depthCm],
        isStaged runtime stations reading.stationId enabled⟩
  | none => return none

section Record

variable {stationId : Text} {observedAt : ℤ} {depthCm : Double} {innerDoubt enabled : Option Bool}
  {battery rssi snr : Option Double}

end Record

end Tainan

end FloodRisk.Adapters
