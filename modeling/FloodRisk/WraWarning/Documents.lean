import FloodRisk.Adapters.RunResult
import FloodRisk.Lib.UrlSplit
import FloodRisk.WraHistorical.Kml

/-!
# Flood warning documents (adapters/wra/flood_warning.py)

Reading one KML document: its links, and its Placemarks with the reasons that reject them.
-/

namespace FloodRisk.WraWarning
open Python Adapters WraHistorical

/-- The parser of XML, which returns no tree where it raises, and the digest that names a Placemark
without an id are parameters. -/
structure WarningRuntime extends WraHistorical.Runtime where
  rules : UrlRules
  parseXml : Text → Option Element
  syntheticIdentity : ℕ → Option String → Option String → String

variable (runtime : WarningRuntime)

/-! ### Approved URLs -/

inductive Document where
  | floodWarm | waterWarm | reservoirWarm | announceFlood
  deriving DecidableEq

/-- `WRA_FLOOD_WARNING_KML_URLS`. -/
def documents : List Document := [.floodWarm, .waterWarm, .reservoirWarm, .announceFlood]

/-- `_source_filename`. -/
def Document.filename : Document → String
  | .floodWarm => "NewstFloodWarm.kml"
  | .waterWarm => "NewstWaterWarm.kml"
  | .reservoirWarm => "NewstReservoirWarm.kml"
  | .announceFlood => "AnnounceFlood.kml"

def Document.warningKind : Document → String
  | .floodWarm => "flood_warning"
  | .waterWarm => "water_level_warning"
  | .reservoirWarm => "reservoir_warning"
  | .announceFlood => "announced_flood"

inductive ApprovedUrl where
  | kml (document : Document)
  | index
  deriving DecidableEq

/-- The host and the path of an approved URL. -/
def ApprovedUrl.hostAndPath : ApprovedUrl → Text × Text
  | .kml document =>
      (text "fhy.wra.gov.tw", text ("/pub_web_2011/kml/KmlShare/" ++ document.filename))
  | .index => (text "opendata.wra.gov.tw", text "/api/v2/301c0b62-8736-4e03-95ef-55309c1a5e74")

def approvedUrls : List ApprovedUrl := documents.map .kml ++ [.index]

/-- `approved_wra_flood_warning_url` with `allow_http_upgrade`; nothing where it raises. -/
def approvedUrl (value : Option Text) : Option ApprovedUrl :=
  let trimmed := stripText (value.getD [])
  if trimmed = [] then none
  else
    match urlsplit runtime.rules trimmed with
    | none => none
    | some parts =>
        match parts.port with
        | none => none
        | some port =>
            let host := runtime.rules.lower ((parts.hostname runtime.rules).getD [])
            if parts.scheme ∉ ["http", "https"].map text then none
            else if parts.hasUserinfo then none
            else if parts.query ≠ [] ∨ parts.fragment ≠ [] ∨ host = [] then none
            else if port ∉ [none, some (if parts.scheme = text "https" then 443 else 80)] then none
            else approvedUrls.find? fun approved => approved.hostAndPath = (host, parts.path)

/-! ### The index -/

def objectsOf (items : List Value) : List Members :=
  items.filterMap fun item =>
    match item with
    | .object members => some members
    | _ => none

/-- `_index_records`. -/
def indexRecords : Value → List Members
  | .list items => objectsOf items
  | .object payload =>
      match ["responseData", "data", "records", "Data"].findSome? fun key =>
        match get payload key with
        | .list items => some (objectsOf items)
        | _ => none with
      | some records => records
      | none => if (payload.lookup "sourceurl").isSome then [payload] else []
  | _ => []

def textOf : Value → Option Text
  | .text t => some t
  | _ => none

/-- `_selected_kml_urls`, which raises where it is empty. -/
def selectedDocuments (payload : Value) : List Document :=
  let resolved := (indexRecords payload).filterMap fun record =>
    approvedUrl runtime (textOf (get record "sourceurl"))
  documents.filter fun document => .kml document ∈ resolved

/-! ### The tree of a document -/

def maxKmlBytes : ℕ := 2 * 1024 * 1024
def maxXmlDepth : ℕ := 32
def maxXmlElements : ℕ := 20000
def maxPlacemarks : ℕ := 2000
def maxTotalCoordinates : ℕ := 100000
def maxNetworkLinks : ℕ := 4
def maxGeometryParts : ℕ := 64

def utf8Length (t : Text) : ℕ :=
  (t.map fun c =>
    match c with
    | .scalar c => c.utf8Size
    | .surrogate _ => 3).sum

/-- The depths of the elements, the root at 1. -/
def depths (root : Element) : List ℕ :=
  Rose.collect (fun depth _ => [depth]) (fun depth _ _ => depth + 1) 1 root

/-- `_validate_kml_bounds`: any count beyond its bound raises. -/
def validKmlBounds (root : Element) : Bool :=
  root.nodes.length ≤ maxXmlElements && (depths root).all (· ≤ maxXmlDepth) &&
    (root.nodes.filter fun element => tagOf element = kmlPlacemark).length ≤ maxPlacemarks &&
    (((root.nodes.filter fun element => tagOf element = kmlCoordinates).map fun element =>
      (splitWhitespace (element.label.text.getD "")).length).sum ≤ maxTotalCoordinates)

/-- `_parse_kml_document`; nothing where it raises an error of the adapter. -/
def parseKmlDocument (t : Text) : Except Raised (Option Element) :=
  if encodes t then
    if maxKmlBytes < utf8Length t then .ok none
    else
      match runtime.parseXml (stripText (t.dropWhile fun c => c = .scalar '\ufeff')) with
      | none => .ok none
      | some root =>
          .ok (if tagOf root = kmlTag "kml" && validKmlBounds root then some root else none)
  else .error .unicodeEncodeError

/-- The document that one link names. -/
def linkedDocument (link : Element) : Option Document :=
  match link.nodes.filter fun element => tagOf element = kmlTag "href",
    link.children.filter fun child => tagOf child ∈ [kmlTag "Link", kmlTag "Url"] with
  | [href], [_] =>
      match approvedUrl runtime (href.label.text.map text) with
      | some (.kml document) => some document
      | _ => none
  | _, _ => none

/-- `_network_link_urls`; nothing where it raises. -/
def networkLinks (root : Element) (allowNetworkLink : Bool) : Option (List Document) :=
  match root.nodes.filter fun element => tagOf element = kmlTag "NetworkLink" with
  | [] => some []
  | links =>
      if !allowNetworkLink || maxNetworkLinks < links.length then none
      else (links.mapM (linkedDocument runtime)).map List.eraseDups

/-! ### Geometry -/

/-- `_contains_unsupported_geometry`. -/
def containsUnsupportedGeometry (placemark : Element) : Bool :=
  placemark.nodes.any fun element =>
    localName (tagOf element) ∈ ["LineString", "Model", "MultiTrack", "Track"] ||
      (localName (tagOf element) ∈ ["Point", "Polygon", "MultiGeometry"] &&
        !kmlNamespace.toList.isPrefixOf (tagOf element).toList)

/-- The text of the only child with a tag. -/
def onlyChildText (element : Element) (childTag : String) : Option (Option String) :=
  match element.children.filter fun child => tagOf child = childTag with
  | [child] => some child.label.text
  | _ => none

/-- `_point_coordinates`. -/
def pointCoordinates (point : Element) : Option Point :=
  match (onlyChildText point kmlCoordinates).bind (coordinateSequence runtime.toRuntime) with
  | some [parsed] => some parsed
  | _ => none

/-- `_boundary_ring`. -/
def boundaryRing (boundary : Element) : Option Ring :=
  match boundary.children with
  | [ring] =>
      match ring.children with
      | [coordinates] =>
          if tagOf ring = kmlLinearRing && tagOf coordinates = kmlCoordinates then
            coordinateSequence runtime.toRuntime coordinates.label.text
          else none
      | _ => none
  | _ => none

/-- `_valid_linear_ring`. -/
def isClosedRing (ring : Ring) : Bool := 4 ≤ ring.length && ring.head? = ring.getLast?

/-- The loop of `_polygon_coordinates`. -/
def boundaries : Option Ring → List Ring → List Element → Option (Option Ring × List Ring)
  | outer, holes, [] => some (outer, holes)
  | outer, holes, child :: rest =>
      if tagOf child ∉ [kmlOuterBoundary, kmlInnerBoundary] then none
      else
        match boundaryRing runtime child with
        | none => none
        | some ring =>
            if !isClosedRing ring then none
            else if tagOf child = kmlOuterBoundary then
              if outer.isSome then none else boundaries (some ring) holes rest
            else boundaries outer (holes ++ [ring]) rest

/-- `_polygon_coordinates`. -/
def polygonCoordinates (polygon : Element) : Option (List Ring) :=
  match boundaries runtime none [] polygon.children with
  | some (some outer, holes) => some (outer :: holes)
  | _ => none

/-- `_placemark_geometry`. -/
def placemarkGeometry (placemark : Element) : Option WraHistorical.Geometry :=
  if containsUnsupportedGeometry placemark then none
  else
    match placemark.children.filter fun child => tagOf child ∈ kmlSupportedGeometryTags with
    | [geometry] =>
        if tagOf geometry = kmlPoint then (pointCoordinates runtime geometry).map .point
        else if tagOf geometry = kmlPolygon then (polygonCoordinates runtime geometry).map .polygon
        else
          let parts := geometry.children
          if parts.isEmpty || maxGeometryParts < parts.length then none
          else if parts.all fun part => tagOf part = kmlPoint then
            match parts with
            | [part] => (pointCoordinates runtime part).map .point
            | _ => none
          else if parts.all fun part => tagOf part = kmlPolygon then
            match parts.mapM (polygonCoordinates runtime) with
            | none => none
            | some [polygon] => some (.polygon polygon)
            | some polygons => some (.multiPolygon polygons)
          else none
    | _ => none

/-! ### Times -/

/-- `_kml_timestamp`: `astimezone` of a time at the ends of the calendar overflows. -/
def kmlTimestamp (value : Option String) : Except Raised (Option ℤ) :=
  match (optionalText value).bind parseDatetimeText with
  | none => .ok none
  | some stamp =>
      if InCalendar (instantIn localZone stamp) then .ok (some (instantIn localZone stamp))
      else .error .overflowError

structure PlacemarkTimes where
  whenAt : Option ℤ
  activeFrom : Option ℤ
  activeUntil : Option ℤ

/-- A time that is only read where none was found yet. -/
def orTimestamp (found : Option ℤ) (value : Option String) : Except Raised (Option ℤ) :=
  if found.isSome then .ok found else kmlTimestamp value

/-- `_placemark_times`. -/
def placemarkTimes : PlacemarkTimes → List Element → Except Raised PlacemarkTimes
  | times, [] => .ok times
  | times, child :: rest =>
      if tagOf child = kmlTag "TimeStamp" then do
        let whenAt ← orTimestamp times.whenAt (directKmlChildText child (kmlTag "when"))
        placemarkTimes { times with whenAt := whenAt } rest
      else if tagOf child = kmlTag "TimeSpan" then do
        let activeFrom ← orTimestamp times.activeFrom (directKmlChildText child (kmlTag "begin"))
        let activeUntil ← orTimestamp times.activeUntil (directKmlChildText child (kmlTag "end"))
        placemarkTimes ⟨times.whenAt, activeFrom, activeUntil⟩ rest
      else placemarkTimes times rest

/-! ### Placemarks -/

/-- The payload of a Placemark; its texts and the members that are the same in all are left out. -/
structure WarningPayload where
  warningKind : String
  sourceTimestamp : ℤ
  activeFrom : Option ℤ
  activeUntil : Option ℤ
  geometry : WraHistorical.Geometry

/-- A record of `_placemark_records`: a payload, or the reason of the rejection. -/
structure PlacemarkRecord where
  sourceId : Text
  outcome : WarningPayload ⊕ String

/-- `_reachable_placemarks`: below containers, and not below another Placemark. -/
def reachablePlacemarks (root : Element) : List Element :=
  Rose.collect (fun reachable element =>
      if reachable && tagOf element = kmlPlacemark then [element] else [])
    (fun reachable element child => reachable && tagOf element ≠ kmlPlacemark &&
      tagOf child ∈ kmlPlacemark :: kmlContainerTags) true root

def placemarkRecord (document : Document) (index : ℕ) (placemark : Element) :
    Except Raised PlacemarkRecord :=
  let name := directKmlChildText placemark (kmlTag "name")
  let identity := (optionalText (placemark.label.attrib.lookup "id")).getD
    (runtime.syntheticIdentity index name (directKmlChildText placemark (kmlTag "description")))
  let sourceId := text document.filename ++ text ":" ++ text identity
  match placemarkGeometry runtime placemark with
  | none => .ok ⟨sourceId, .inr "wra_flood_warning_invalid_geometry"⟩
  | some geometry => do
      let times ← placemarkTimes ⟨none, none, none⟩ placemark.children
      match times.whenAt.or times.activeFrom with
      | none => .ok ⟨sourceId, .inr "wra_flood_warning_missing_source_time"⟩
      | some sourceTimestamp =>
          .ok ⟨sourceId, .inl ⟨document.warningKind, sourceTimestamp, times.activeFrom,
            times.activeUntil, geometry⟩⟩

/-- `_placemark_records`. -/
def placemarkRecords (document : Document) (root : Element) :
    Except Raised (List PlacemarkRecord) :=
  (reachablePlacemarks root).zipIdx.mapM fun entry =>
    placemarkRecord runtime document entry.2 entry.1

end FloodRisk.WraWarning
