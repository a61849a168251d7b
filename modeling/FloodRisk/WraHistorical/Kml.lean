import FloodRisk.Lib.RoseTree
import FloodRisk.Values
import FloodRisk.WraHistorical.Rings

/-!
# The historical flood KML (adapters/wra/historical_flood.py)

Elements as the XML parser returns them. The limits of `_validate_kml_complexity` only refuse
trees and are left out.
-/

namespace FloodRisk.WraHistorical

structure ElementData where
  tag : String
  attrib : List (String × String)
  text : Option String

abbrev Element := Rose ElementData

def tagOf (element : Element) : String := element.label.tag

def kmlNamespace : String := "\x7bhttp://www.opengis.net/kml/2.2\x7d"

def kmlTag (name : String) : String := kmlNamespace ++ name

def kmlPlacemark : String := kmlTag "Placemark"
def kmlPoint : String := kmlTag "Point"
def kmlPolygon : String := kmlTag "Polygon"
def kmlMultiGeometry : String := kmlTag "MultiGeometry"
def kmlOuterBoundary : String := kmlTag "outerBoundaryIs"
def kmlInnerBoundary : String := kmlTag "innerBoundaryIs"
def kmlLinearRing : String := kmlTag "LinearRing"
def kmlCoordinates : String := kmlTag "coordinates"

def kmlContainerTags : List String := [kmlTag "Document", kmlTag "Folder"]
def kmlSupportedGeometryTags : List String := [kmlPoint, kmlPolygon, kmlMultiGeometry]

def kmlStructuralLocalNames : List String :=
  ["kml", "Document", "Folder", "Placemark", "Point", "Polygon", "MultiGeometry",
    "outerBoundaryIs", "innerBoundaryIs", "LinearRing", "coordinates"]

def kmlStructuralTags : List String := kmlStructuralLocalNames.map kmlTag

/-- `_KML_ALLOWED_STRUCTURAL_PARENTS`. -/
def kmlAllowedStructuralParents : List (String × List String) :=
  [(kmlPoint, [kmlPlacemark]), (kmlPolygon, [kmlPlacemark, kmlMultiGeometry]),
    (kmlMultiGeometry, [kmlPlacemark]), (kmlOuterBoundary, [kmlPolygon]),
    (kmlInnerBoundary, [kmlPolygon]), (kmlLinearRing, [kmlOuterBoundary, kmlInnerBoundary]),
    (kmlCoordinates, [kmlPoint, kmlLinearRing])]

def geometryLocalNames : List String :=
  ["LineString", "LinearRing", "Model", "MultiGeometry", "MultiTrack", "Point", "Polygon", "Track"]

/-- `_local_name`: what follows the last brace. -/
def localName (tag : String) : String :=
  String.ofList (tag.toList.reverse.takeWhile fun c => c ≠ '\x7d').reverse

/-- The parts of Python that are not modelled: the search for an event time in a text, lower
case, and `float` of a finite number. -/
structure Runtime where
  searchTimestamp : String → Option ℤ
  lower : String → String
  parseFloat : String → Option ℚ

inductive Geometry where
  | point (coordinates : Point)
  | polygon (coordinates : List Ring)
  | multiPolygon (coordinates : List (List Ring))
  deriving DecidableEq

structure Record where
  placemarkId : String
  placemarkName : String
  eventName : String
  geometry : Geometry
  locationPrecision : String
  sourceTimestamp : Option ℤ
  deriving DecidableEq

section Geometry

variable (runtime : Runtime)

/-- `_event_timestamp`. -/
def eventTimestamp (value : Option String) : Option ℤ :=
  (optionalText value).bind runtime.searchTimestamp

/-- `_direct_kml_child_text`. -/
def directKmlChildText (element : Element) (childTag : String) : Option String :=
  match element.children.find? fun child => tagOf child = childTag with
  | none => none
  | some child => optionalText child.label.text

/-- What `_valid_placemark_geometry_graph` asks of an element below its parent. -/
def graphAllows (parentTag : String) (element : Element) : Bool :=
  !(localName (tagOf element) ∈ kmlStructuralLocalNames && tagOf element ∉ kmlStructuralTags) &&
    tagOf element ∉ [kmlTag "kml", kmlTag "Document", kmlTag "Folder", kmlPlacemark] &&
    match kmlAllowedStructuralParents.lookup (tagOf element) with
    | none => true
    | some parents => parentTag ∈ parents

def validPlacemarkGeometryGraph (placemark : Element) : Bool :=
  (placemark.children.flatMap fun child =>
    Rose.collect (fun parentTag element => [graphAllows parentTag element])
      (fun _ element _ => tagOf element) (tagOf placemark) child).all fun allowed => allowed

def containsForeignOrUnsupportedGeometry (placemark : Element) : Bool :=
  placemark.nodes.any fun element =>
    localName (tagOf element) ∈ geometryLocalNames &&
      (!(kmlNamespace.toList.isPrefixOf (tagOf element).toList) ||
        localName (tagOf element) ∈ ["LineString", "Model", "MultiTrack", "Track"])

/-- `text.split()`. -/
def splitWhitespace (text : String) : List (List Char) :=
  (text.toList.splitOnP isWhitespace).filter fun token => token ≠ []

/-- One token of `_coordinate_sequence`. -/
def coordinateOf (token : List Char) : Option Point :=
  match token.splitOnP fun c => c = ',' with
  | longitude :: latitude :: _ =>
      match runtime.parseFloat (String.ofList longitude),
        runtime.parseFloat (String.ofList latitude) with
      | some longitude, some latitude =>
          if coordinateInTaiwan (longitude, latitude) then some (longitude, latitude) else none
      | _, _ => none
  | _ => none

/-- `_coordinate_sequence`. -/
def coordinateSequence (value : Option String) : Option Ring :=
  match optionalText value with
  | none => none
  | some text =>
      match (splitWhitespace text).mapM (coordinateOf runtime) with
      | none => none
      | some [] => none
      | some coordinates => some coordinates

/-- The only element with a tag, when it is a child. -/
def onlyChild (element : Element) (childTag : String) : Option Element :=
  match element.children.filter fun child => tagOf child = childTag with
  | [child] =>
      if (element.nodes.filter fun node => tagOf node = childTag).length = 1 then some child
      else none
  | _ => none

/-- `_boundary_ring`. -/
def boundaryRing (boundary : Element) : Option Ring :=
  match onlyChild boundary kmlLinearRing with
  | none => none
  | some ring =>
      match onlyChild ring kmlCoordinates with
      | none => none
      | some coordinates => coordinateSequence runtime (optionalText coordinates.label.text)

/-- `_point_geometry`. -/
def pointGeometry (point : Element) : Option Point :=
  if point.nodes.tail.any fun element => localName (tagOf element) ∈ geometryLocalNames then none
  else
    match onlyChild point kmlCoordinates with
    | none => none
    | some coordinates =>
        match coordinateSequence runtime (optionalText coordinates.label.text) with
        | some [parsed] => some parsed
        | _ => none

/-- The loop of `_polygon_coordinates`. -/
def boundaries : Option Ring → List Ring → List Element → Option (Option Ring × List Ring)
  | outer, holes, [] => some (outer, holes)
  | outer, holes, child :: rest =>
      if localName (tagOf child) ∈ ["outerBoundaryIs", "innerBoundaryIs"] &&
          tagOf child ∉ [kmlOuterBoundary, kmlInnerBoundary] then none
      else if tagOf child ∉ [kmlOuterBoundary, kmlInnerBoundary] then boundaries outer holes rest
      else
        match boundaryRing runtime child with
        | none => none
        | some ring =>
            if !validLinearRing ring then none
            else if tagOf child = kmlOuterBoundary then
              if outer.isSome then none else boundaries (some ring) holes rest
            else boundaries outer (holes ++ [ring]) rest

/-- `_polygon_coordinates`. -/
def polygonCoordinates (polygon : Element) : Option (List Ring) :=
  match boundaries runtime none [] polygon.children with
  | some (some outer, holes) => if validPolygonTopology outer holes then some (outer :: holes) else none
  | _ => none

/-- `_placemark_geometry`. The descendants contain the geometry and its polygons, so that
their number tells whether there are others. -/
def placemarkGeometry (placemark : Element) : Option Geometry :=
  if !validPlacemarkGeometryGraph placemark || containsForeignOrUnsupportedGeometry placemark then
    none
  else
    match placemark.children.filter fun child => tagOf child ∈ kmlSupportedGeometryTags with
    | [geometry] =>
        let topLevelDescendants :=
          (placemark.nodes.filter fun element => tagOf element ∈ kmlSupportedGeometryTags).length
        if tagOf geometry = kmlPoint then
          if topLevelDescendants ≠ 1 then none
          else (pointGeometry runtime geometry).map .point
        else if tagOf geometry = kmlPolygon then
          if topLevelDescendants ≠ 1 then none
          else (polygonCoordinates runtime geometry).map .polygon
        else
          let polygonElements := geometry.children.filter fun child => tagOf child = kmlPolygon
          if polygonElements.isEmpty || topLevelDescendants ≠ polygonElements.length + 1 then none
          else
            match polygonElements.mapM (polygonCoordinates runtime) with
            | none => none
            | some [polygon] => some (.polygon polygon)
            | some polygons =>
                if validMultipolygonTopology polygons then some (.multiPolygon polygons) else none
    | _ => none

def timestampKeys : List String :=
  ["date", "datetime", "eventdate", "eventdatetime", "eventtimestamp", "occurredat", "timestamp",
    "事件日期", "發生時間", "日期", "時間"]

/-- The key of a `Data` element: lower case, with letters, digits and ideographs only. -/
def dataKey (element : Element) : String :=
  String.ofList ((runtime.lower ((element.label.attrib.lookup "name").getD "")).toList.filter
    fun c => ('a' ≤ c && c ≤ 'z') || ('0' ≤ c && c ≤ '9') || ('一' ≤ c && c.toNat ≤ 0x9fff))

/-- `_placemark_timestamp`. -/
def placemarkTimestamp (placemark : Element) : Option ℤ :=
  match placemark.nodes.findSome? fun element =>
      if tagOf element = kmlTag "when" then eventTimestamp runtime (optionalText element.label.text)
      else none with
  | some parsed => some parsed
  | none =>
      placemark.nodes.findSome? fun element =>
        if tagOf element ∉ [kmlTag "Data", kmlTag "SimpleData"] then none
        else if dataKey runtime element ∉ timestampKeys then none
        else if tagOf element = kmlTag "Data" then
          eventTimestamp runtime ((directKmlChildText element (kmlTag "value")).or
            (optionalText element.label.text))
        else eventTimestamp runtime (optionalText element.label.text)

/-- The event that the containers hand down. -/
structure Inherited where
  eventName : Option String
  timestamp : Option ℤ

/-- `_placemark_record`. -/
def placemarkRecord (inherited : Inherited) (placemark : Element) : Option Record :=
  match placemarkGeometry runtime placemark with
  | none => none
  | some geometry =>
      let placemarkName :=
        (directKmlChildText placemark (kmlTag "name")).getD "historical flood area"
      some
        { placemarkId := (optionalText (placemark.label.attrib.lookup "id")).getD ""
          placemarkName := placemarkName
          eventName := inherited.eventName.getD placemarkName
          geometry := geometry
          locationPrecision :=
            match geometry with
            | .point _ => "point"
            | _ => "polygon"
          sourceTimestamp :=
            ((placemarkTimestamp runtime placemark).or
              (eventTimestamp runtime (some placemarkName))).or inherited.timestamp }

end Geometry

/-! ### The two traversals -/

section Traversals

variable {ι : Type} (runtime : Runtime) (placemarkDigest : Element → ι)

/-- What a container hands down: its own name where that tells the time of an event. -/
def inheritedAt (inherited : Inherited) (element : Element) : Inherited :=
  if tagOf element ∈ kmlContainerTags then
    let containerName := directKmlChildText element (kmlTag "name")
    match eventTimestamp runtime containerName with
    | some timestamp => ⟨containerName, some timestamp⟩
    | none => inherited
  else inherited

mutual

/-- `_walk_kml`, with the records and the rejections so far. -/
def walkKml (inherited : Inherited) : Element → List Record × List ι → List Record × List ι
  | .node label children, found =>
      let here := inheritedAt runtime inherited (.node label children)
      if label.tag = kmlPlacemark then
        match placemarkRecord runtime here (.node label children) with
        | some record => (found.1 ++ [record], found.2)
        | none => (found.1, found.2 ++ [placemarkDigest (.node label children)])
      else walkChildren here children found

def walkChildren (inherited : Inherited) :
    List Element → List Record × List ι → List Record × List ι
  | [], found => found
  | child :: rest, found =>
      if tagOf child ∈ kmlPlacemark :: kmlContainerTags then
        walkChildren inherited rest (walkKml inherited child found)
      else walkChildren inherited rest found

end

/-- Whether the walk reaches an element, and whether it lies in a Placemark. -/
structure Reach where
  reachable : Bool
  inPlacemark : Bool

def reachBelow (reach : Reach) (element child : Element) : Reach :=
  ⟨(reach.reachable && tagOf element ≠ kmlPlacemark) &&
      (tagOf child ∈ kmlContainerTags || tagOf child = kmlPlacemark),
    reach.inPlacemark || tagOf element = kmlPlacemark⟩

/-- The misplaced children of an element, last child first. -/
def misplacedBelow (reach : Reach) (element : Element) : List Element :=
  element.children.reverse.filter fun child =>
    tagOf child = kmlPlacemark && !(reachBelow reach element child).reachable &&
      !(reachBelow reach element child).inPlacemark

/-- `_externally_misplaced_placemark_rejections`. -/
def externallyMisplacedPlacemarkRejections (root : Element) : List ι :=
  Rose.traverse (fun reach element => (misplacedBelow reach element).map placemarkDigest)
    reachBelow ⟨true, false⟩ root

inductive PayloadError where
  | notKml | noPlacemark | noRecord
  deriving DecidableEq

/-- `_parse_wra_historical_flood_kml_with_rejections`, from the parsed tree. -/
def parseKmlWithRejections (root : Element) : Except PayloadError (List Record × List ι) :=
  if tagOf root ≠ kmlTag "kml" then .error .notKml
  else if !(root.nodes.any fun element => tagOf element = kmlPlacemark) then .error .noPlacemark
  else
    let found := walkKml runtime placemarkDigest ⟨none, none⟩ root
      ([], externallyMisplacedPlacemarkRejections placemarkDigest root)
    if found.1.isEmpty then .error .noRecord else .ok found

end Traversals

/-! ### The adapter -/

/-- The identity that `_historical_source_id` hashes. -/
structure RecordIdentity where
  eventName : String
  geometry : Geometry
  placemarkId : String
  placemarkName : String
  sourceTimestamp : Option ℤ
  deriving DecidableEq

def Record.identity (record : Record) : RecordIdentity :=
  ⟨record.eventName, record.geometry, record.placemarkId, record.placemarkName,
    record.sourceTimestamp⟩

structure RawSourceItem (ι : Type) where
  sourceId : ι
  payload : Record

structure NormalizedEvidence (ι : Type) where
  sourceId : ι
  sourceTitle : String
  sourceTimestamp : ℤ
  summary : String
  locationText : String
  confidence : ℚ

structure AdapterRunResult (ι : Type) where
  fetched : List (RawSourceItem ι)
  normalized : List (NormalizedEvidence ι)
  rejected : List ι

section Adapter

variable {ι : Type} [DecidableEq ι] (runtime : Runtime) (recordDigest : RecordIdentity → ι)
  (placemarkDigest : Element → ι)

/-- The rows of the records whose source id is not `seen`. -/
def rowsOf : List ι → List Record → List (RawSourceItem ι)
  | _, [] => []
  | seen, record :: rest =>
      if recordDigest record.identity ∈ seen then rowsOf seen rest
      else ⟨recordDigest record.identity, record⟩ :: rowsOf (recordDigest record.identity :: seen) rest

/-- `_fetch_with_rejections`, from the parsed tree. -/
def fetchWithRejections (root : Element) :
    Except PayloadError (List (RawSourceItem ι) × List ι) :=
  match parseKmlWithRejections runtime placemarkDigest root with
  | .error e => .error e
  | .ok (records, rejections) => .ok (rowsOf recordDigest [] records, rejections)

/-- `normalize`. -/
def normalize (raw : RawSourceItem ι) : Option (NormalizedEvidence ι) :=
  match raw.payload.sourceTimestamp, optionalText (some raw.payload.placemarkName) with
  | some sourceTimestamp, some title =>
      let eventName := optionalText (some raw.payload.eventName)
      some
        { sourceId := raw.sourceId
          sourceTitle := "WRA historical flood: " ++ title
          sourceTimestamp := sourceTimestamp
          summary :=
            match eventName with
            | some name =>
                if name ≠ title then "WRA historical flood record: " ++ title ++ " (" ++ name ++ ")"
                else "WRA historical flood record: " ++ title
            | none => "WRA historical flood record: " ++ title
          locationText := title
          confidence := if raw.payload.locationPrecision = "polygon" then 86 / 100 else 82 / 100 }
  | _, _ => none

/-- The loop of `run` over the rows. -/
def runRows : List (NormalizedEvidence ι) → List ι → List (RawSourceItem ι) →
    List (NormalizedEvidence ι) × List ι
  | normalized, rejected, [] => (normalized, rejected)
  | normalized, rejected, raw :: rest =>
      match normalize raw with
      | none => runRows normalized (rejected ++ [raw.sourceId]) rest
      | some evidence => runRows (normalized ++ [evidence]) rejected rest

/-- `WraHistoricalFloodAdapter.run`, from the parsed tree. -/
def run (root : Element) : Except PayloadError (AdapterRunResult ι) :=
  match fetchWithRejections runtime recordDigest placemarkDigest root with
  | .error e => .error e
  | .ok (fetched, rejections) =>
      .ok ⟨fetched, (runRows [] rejections fetched).1, (runRows [] rejections fetched).2⟩

end Adapter

end FloodRisk.WraHistorical
