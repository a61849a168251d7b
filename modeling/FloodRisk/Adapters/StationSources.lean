import FloodRisk.CivilIot.Stations

/-!
# The station sources

The adapters whose source ids are a station and a time, each with what it is given.
-/

namespace FloodRisk.Adapters
open Python CivilIot

/-- A source with the items of its payloads; the SensorThings sources have pages of items. -/
inductive StationSource where
  | wraIow (resourceUrl metadataUrl : Text) (stations latest : List Value)
  | tainan (resourceUrl metadataUrl : Text) (stations latest : List Value)
  | cwaRainfall (resourceUrl : Text) (latest : List Value)
  | wraWaterLevel (resourceUrl metadataUrl : Text) (stations latest : List Value)
  | civilIotFloodSensor (pages : List (List Value))
  | civilIotWaterLevel (network : WaterLevelNetwork) (pages : List (List Value))

namespace StationSource

variable (runtime : Runtime)

/-- `fetch`. -/
def fetch : StationSource → Except Raised (List RawSourceItem)
  | .wraIow resourceUrl metadataUrl stations latest => do
      let metadata ← WraIow.parseMetadata runtime stations
      let records ← parseItems
        (WraIow.parseLatestRecord runtime resourceUrl metadataUrl metadata) latest
      return records.map rawItemOf
  | .tainan resourceUrl metadataUrl stations latest => do
      let metadata ← Tainan.parseMetadata runtime stations
      let records ← parseItems
        (Tainan.parseRealtimeRecord runtime resourceUrl metadataUrl metadata) latest
      return records.map rawItemOf
  | .cwaRainfall resourceUrl latest => do
      let records ← parseItems (CwaRainfall.parseStationRecord runtime resourceUrl) latest
      return records.map rawItemOf
  | .wraWaterLevel resourceUrl metadataUrl stations latest => do
      let metadata ← WraWaterLevel.parseMetadata runtime stations
      let records ← parseItems
        (WraWaterLevel.parseStationRecord runtime resourceUrl metadataUrl metadata) latest
      return records.map rawItemOf
  | .civilIotFloodSensor pages => do
      let records ← pages.mapM (datastreamRecords runtime (text FloodSensor.sourceUrl))
      records.flatten.mapM (FloodSensor.rawItemOf runtime)
  | .civilIotWaterLevel network pages => do
      let records ← pages.mapM (thingRecords runtime (text network.sourceUrl) network.nameTokens)
      records.flatten.mapM (WaterLevel.rawItemOf runtime)

def key : StationSource → String
  | .wraIow .. => WraIow.key
  | .tainan .. => Tainan.key
  | .cwaRainfall .. => CwaRainfall.key
  | .wraWaterLevel .. => WraWaterLevel.key
  | .civilIotFloodSensor _ => FloodSensor.key
  | .civilIotWaterLevel network _ => network.key

def normalize : StationSource → RawSourceItem → Except Raised (Option NormalizedEvidence)
  | .wraIow .. => WraIow.normalize runtime
  | .tainan .. => Tainan.normalize runtime
  | .cwaRainfall .. => CwaRainfall.normalize runtime
  | .wraWaterLevel .. => WraWaterLevel.normalize runtime
  | .civilIotFloodSensor _ => FloodSensor.normalize runtime
  | .civilIotWaterLevel network _ => WaterLevel.normalize runtime network

/-- `run`. -/
def run (source : StationSource) : Except Raised AdapterRunResult := do
  let fetched ← source.fetch runtime
  runFetched source.key (source.normalize runtime) fetched

end StationSource

end FloodRisk.Adapters
