import FloodRisk.Adapters.DryReadings
import FloodRisk.Adapters.GaugeRecords

/-!
# One item of a station source

When no item of a poll takes the source down.
-/

namespace FloodRisk.Adapters
open Python

variable {runtime : Runtime}

/-- The four adapters, each with the metadata of its stations. -/
inductive StationAdapter where
  | cwaRainfall (resourceUrl : Text)
  | wraWaterLevel (resourceUrl metadataUrl : Text) (stations : List Value)
  | wraIow (resourceUrl metadataUrl : Text) (stations : List Value)
  | tainan (resourceUrl metadataUrl : Text) (stations : List Value)

namespace StationAdapter

def stations : StationAdapter → List Value
  | .cwaRainfall _ => []
  | .wraWaterLevel _ _ stations => stations
  | .wraIow _ _ stations => stations
  | .tainan _ _ stations => stations

section Conditions

variable (runtime : Runtime)

def ItemReads : StationAdapter → Members → Prop
  | .cwaRainfall _ => CwaRainfall.ItemReads runtime
  | .wraWaterLevel .. => WraWaterLevel.ItemReads runtime
  | .wraIow .. => WraIow.ItemReads runtime
  | .tainan .. => Tainan.ItemReads runtime

/-- What is staged of the items, in their order. -/
def readings : StationAdapter → List Value → Except Raised (List StationReading)
  | .cwaRainfall _, items => parseItems (CwaRainfall.itemReading runtime) items
  | .wraWaterLevel _ _ stations, items => do
      let metadata ← WraWaterLevel.parseMetadata runtime stations
      parseItems (WraWaterLevel.itemReading runtime metadata) items
  | .wraIow _ _ stations, items => do
      let metadata ← WraIow.parseMetadata runtime stations
      parseItems (WraIow.itemReading runtime metadata) items
  | .tainan _ _ stations, items => do
      let metadata ← Tainan.parseMetadata runtime stations
      parseItems (Tainan.itemReading runtime metadata) items

end Conditions

end StationAdapter

end FloodRisk.Adapters
