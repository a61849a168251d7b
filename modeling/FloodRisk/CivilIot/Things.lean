import FloodRisk.Adapters.Gauges
import Mathlib.Data.List.Infix

/-!
# Things and Datastreams (adapters/civil_iot/sta_client.py)

What is read of one item of a SensorThings page.
-/

namespace FloodRisk.CivilIot
open Python Adapters

variable (runtime : Runtime)

def membersOf : Value → Members
  | .object members => members
  | _ => []

/-- `TAIWAN_COUNTY_ALIASES`. -/
def taiwanCountyAliases : List (String × String) :=
  [("桃園巿", "桃園市"), ("臺北市", "臺北市"), ("台北市", "臺北市"), ("新北市", "新北市"),
    ("桃園市", "桃園市"), ("臺中市", "臺中市"), ("台中市", "臺中市"), ("臺南市", "臺南市"),
    ("台南市", "臺南市"), ("高雄市", "高雄市"), ("基隆市", "基隆市"), ("新竹市", "新竹市"),
    ("嘉義市", "嘉義市"), ("新竹縣", "新竹縣"), ("苗栗縣", "苗栗縣"), ("彰化縣", "彰化縣"),
    ("南投縣", "南投縣"), ("雲林縣", "雲林縣"), ("嘉義縣", "嘉義縣"), ("屏東縣", "屏東縣"),
    ("宜蘭縣", "宜蘭縣"), ("花蓮縣", "花蓮縣"), ("臺東縣", "臺東縣"), ("台東縣", "臺東縣"),
    ("澎湖縣", "澎湖縣"), ("金門縣", "金門縣"), ("連江縣", "連江縣")]

/-! ### Ids -/

/-- `_thing_station_id`. -/
def thingStationId (thing : Members) : Except Raised (Option Text) := do
  let ofProperties ← textOfFirst runtime (membersOf (get thing "properties"))
    ["stationID", "stationId", "station_id", "stationNo", "ID", "id"]
  match ofProperties with
  | some stationId => return some stationId
  | none => textOfFirst runtime thing ["@iot.id"]

/-- The id of a record, which may be its name. -/
def recordStationId (thing : Members) : Except Raised (Option Text) := do
  match ← thingStationId runtime thing with
  | some stationId => return some stationId
  | none => textOfFirst runtime thing ["name"]

/-- `_datastream_station_id`. -/
def datastreamStationId (datastream : Members) : Except Raised (Option Text) :=
  match get datastream "Thing" with
  | .object thing => recordStationId runtime thing
  | _ => .ok none

/-! ### Observations -/

def firstObservation : List Value → Option Members
  | [] => none
  | .object observation :: rest =>
      if (get observation "result").isNull then firstObservation rest else some observation
  | _ :: rest => firstObservation rest

/-- `_latest_observation`. -/
def latestObservation (datastream : Members) : Option Members :=
  match get datastream "Observations" with
  | .list observations => firstObservation observations
  | _ => none

/-- `_datastreams`. -/
def datastreams (thing : Members) : List Members :=
  match get thing "Datastreams" with
  | .list items => items.filterMap fun item =>
      match item with
      | .object members => some members
      | _ => none
  | _ => []

/-- The first datastream with the token in its name and an observation. -/
def datastreamNamed (token : Text) : List Members → Except Raised (Option Members)
  | [] => .ok none
  | datastream :: rest => do
      let name ← optionalStr runtime (get datastream "name")
      if token <:+: name.getD [] ∧ (latestObservation datastream).isSome then
        return some datastream
      else datastreamNamed token rest

/-- The first of the tokens that names a datastream. -/
def firstNamed (streams : List Members) : List Text → Except Raised (Option Members)
  | [] => .ok none
  | token :: rest => do
      match ← datastreamNamed runtime token streams with
      | some datastream => return some datastream
      | none => firstNamed streams rest

/-- `_select_datastream`, for the tokens of `_datastream_name_tokens`. -/
def selectDatastream (thing : Members) (nameTokens : List Text) :
    Except Raised (Option Members) :=
  if nameTokens = [] then
    .ok ((datastreams thing).find? fun datastream => (latestObservation datastream).isSome)
  else firstNamed runtime (datastreams thing) nameTokens

/-- `_datastream_unit`. -/
def datastreamUnit (datastream : Members) : Except Raised (Option Text) :=
  match get datastream "unitOfMeasurement" with
  | .object unit => textOfFirst runtime unit ["symbol", "name"]
  | _ => .ok none

/-! ### Places -/

/-- The point of a coordinate list, latitude first. -/
def coordinatesPoint : Value → Except Raised (Option (Double × Double))
  | .list (first :: second :: _) => do
      let longitude ← optionalFloat runtime first
      let latitude ← optionalFloat runtime second
      match latitude, longitude with
      | some latitude, some longitude =>
          if Double.le (.finite (-90)) latitude && latitude.le (.finite 90) &&
              Double.le (.finite (-180)) longitude && longitude.le (.finite 180) then
            return some (latitude, longitude)
          else return none
      | _, _ => return none
  | _ => .ok none

def Wraps : Value → Bool
  | .object _ => true
  | _ => false

mutual

/-- `_geojson_point`. -/
def geojsonPoint : Value → Except Raised (Option (Double × Double))
  | .object members =>
      match wrappedPoint members with
      | some point => point
      | none => coordinatesPoint runtime (get members "coordinates")
  | _ => .ok none

/-- The point of the geometry that the members of a Feature wrap. -/
def wrappedPoint : Members → Option (Except Raised (Option (Double × Double)))
  | [] => none
  | (name, value) :: rest =>
      if name = "geometry" then if Wraps value then some (geojsonPoint value) else none
      else wrappedPoint rest

end

def firstPoint : List Value → Except Raised (Option (Double × Double))
  | [] => .ok none
  | .object location :: rest => do
      match ← geojsonPoint runtime (get location "location") with
      | some point => return some point
      | none => firstPoint rest
  | _ :: rest => firstPoint rest

/-- `_thing_coordinate`. -/
def thingCoordinate (thing : Members) : Except Raised (Option (Double × Double)) :=
  match get thing "Locations" with
  | .list locations => firstPoint runtime locations
  | _ => .ok none

/-- `_location_text`. -/
def locationText (properties : Members) : Except Raised (Option Text) := do
  let city ← textOfFirst runtime properties ["city", "City", "county", "County"]
  let town ← textOfFirst runtime properties ["town", "Town", "district", "District"]
  let address ← textOfFirst runtime properties ["address", "Address"]
  return (some (joinTexts [city, town, address])).filter fun joined => joined ≠ []

def countyIn (t : Text) : Option Text :=
  (taiwanCountyAliases.find? fun entry => text entry.1 <:+: t).map fun entry => text entry.2

/-- `_infer_county`. -/
def inferCounty (properties : Members) (stationName : Text) : Except Raised (Option Text) := do
  let authority ← textOfFirst runtime properties ["authority", "Authority", "owner"]
  let name ← textOfFirst runtime properties ["stationName", "StationName", "STATIONNAME"]
  return ([authority, name, some stationName].filterMap id).findSome? countyIn

def countyKeys : List String :=
  ["county", "County", "city", "City", "countyName", "CountyName", "COUNTYNAME", "cityName",
    "CityName", "CITYNAME"]

def townKeys : List String :=
  ["town", "Town", "district", "District", "townName", "TownName", "TOWNNAME", "districtName",
    "DistrictName", "DISTRICTNAME", "areaName", "AreaName", "AREANAME"]

def countyCodeKeys : List String :=
  ["countyCode", "CountyCode", "COUNTYCODE", "county_code", "COUNTY_CODE", "cityCode", "CityCode",
    "CITYCODE"]

def areaCodeKeys : List String :=
  ["areaCode", "AreaCode", "AREACODE", "area_code", "AREA_CODE", "townCode", "TownCode",
    "TOWNCODE", "districtCode", "DistrictCode", "DISTRICTCODE"]

/-! ### Records -/

/-- The members after the value, which say what was measured where. -/
def describedMembers (thing datastream : Members) (stationName : Text) :
    Except Raised Members := do
  let properties := membersOf (get thing "properties")
  let unit ← datastreamUnit runtime datastream
  let datastreamName ← optionalStr runtime (get datastream "name")
  let authority ← textOfFirst runtime properties ["authority", "Authority", "owner"]
  let location ← locationText runtime properties
  let ownCounty ← textOfFirst runtime properties countyKeys
  let county ← match ownCounty with
    | some county => .ok (some county)
    | none => inferCounty runtime properties stationName
  let town ← textOfFirst runtime properties townKeys
  let countyCode ← textOfFirst runtime properties countyCodeKeys
  let areaCode ← textOfFirst runtime properties areaCodeKeys
  let coordinate ← thingCoordinate runtime thing
  return textMember "unit" unit ++ textMember "datastream_name" datastreamName ++
    textMember "authority" authority ++ textMember "location_text" location ++
    textMember "county" county ++ textMember "town" town ++ textMember "county_code" countyCode ++
    textMember "area_code" areaCode ++ CwaRainfall.coordinateMembers coordinate

/-- `_parse_thing`. -/
def parseThing (sourceUrl : Text) (nameTokens : List Text) (thing : Members) :
    Except Raised (Option Members) := do
  match ← recordStationId runtime thing with
  | none => return none
  | some stationId =>
      let ownName ← textOfFirst runtime thing ["name", "description"]
      let stationName := ownName.getD stationId
      match ← selectDatastream runtime thing nameTokens with
      | none => return none
      | some datastream =>
          match latestObservation datastream with
          | none => return none
          | some observation =>
              let observedAt ← parseObservedAt runtime 0
                (firstNotNone observation ["phenomenonTime", "resultTime"])
              let value ← optionalFloat runtime (get observation "result")
              match observedAt, value with
              | some observedAt, some value =>
                  let described ← describedMembers runtime thing datastream stationName
                  return some ([("station_id", .text stationId), ("station_name", .text stationName),
                    ("observed_at", .text (isoText observedAt)), ("value", .float value),
                    ("source_url", .text sourceUrl)] ++ described)
              | _, _ => return none

/-- One round of `_parse_sta_datastream_items`. -/
def parseDatastream (sourceUrl : Text) (datastream : Members) : Except Raised (Option Members) :=
  match get datastream "Thing" with
  | .object thing =>
      parseThing runtime sourceUrl []
        (setMember thing "Datastreams" (.list [.object datastream]))
  | _ => .ok none

end FloodRisk.CivilIot
