import FloodRisk.Lib.Segments
import Mathlib.Algebra.Order.Field.Rat
import Mathlib.Data.List.DropRight
import Mathlib.Data.List.Dedup

/-!
# Rings of the historical flood polygons (adapters/wra/historical_flood.py)

Coordinates are exact rationals. The geometry tests take the tolerance as an argument, and the
functions of the source are those tests with `_GEOMETRY_EPSILON`.
-/

namespace FloodRisk.WraHistorical
open Segments

abbrev Point := ℚ × ℚ
abbrev Ring := List Point
abbrev Segment := Point × Point

def geometryEpsilon : ℚ := 1 / 10 ^ 12

/-- `_coordinate_in_taiwan`. -/
def coordinateInTaiwan (point : Point) : Bool :=
  117 ≤ point.1 && point.1 ≤ 247 / 2 && 20 ≤ point.2 && point.2 ≤ 55 / 2

/-- The points without those that repeat the one before. -/
def dropRepeats : List Point → List Point → List Point
  | points, [] => points
  | points, point :: rest =>
      if points.getLast? = some point then dropRepeats points rest
      else dropRepeats (points ++ [point]) rest

/-- `_topology_ring`. -/
def topologyRing (ring : Ring) : Option Ring :=
  match dropRepeats [] ring.dropLast with
  | [] => none
  | first :: rest =>
      let points := first :: rest.rdropWhile fun point => point = first
      if points.dedup.length < 3 then none else some (points ++ [first])

/-- `_ring_segments`: `pairwise(ring)`. -/
def ringSegments (ring : Ring) : List Segment := ring.zip ring.tail

/-- `_signed_ring_area`. -/
def signedRingArea (ring : Ring) : ℚ :=
  match ring with
  | [] => 0
  | origin :: _ =>
      (ringSegments ring).foldl (fun twiceArea segment =>
        twiceArea + (segment.1.1 - origin.1) * (segment.2.2 - origin.2) -
          (segment.2.1 - origin.1) * (segment.1.2 - origin.2)) 0 / 2

/-- The four orientations of `_segments_interact`. -/
def orientations (first second : Segment) : List ℚ :=
  [orientation first.1 first.2 second.1, orientation first.1 first.2 second.2,
    orientation second.1 second.2 first.1, orientation second.1 second.2 first.2]

/-! ### The tests with any tolerance -/

section Tolerance

variable (epsilon : ℚ)

def pointOnSegmentWithin (point start stop : Point) : Bool :=
  !(epsilon < |orientation start stop point|) &&
    (min start.1 stop.1 - epsilon ≤ point.1 && point.1 ≤ max start.1 stop.1 + epsilon &&
      min start.2 stop.2 - epsilon ≤ point.2 && point.2 ≤ max start.2 stop.2 + epsilon)

/-- Every one of the four orientations is beyond the tolerance. -/
def clearOfWithin (first second : Segment) : Bool :=
  (orientations first second).all fun value => epsilon < |value|

def segmentsInteractWithin (first second : Segment) : Bool :=
  let firstCrosses :=
    decide (orientation first.1 first.2 second.1 > epsilon) !=
      decide (orientation first.1 first.2 second.2 > epsilon)
  let secondCrosses :=
    decide (orientation second.1 second.2 first.1 > epsilon) !=
      decide (orientation second.1 second.2 first.2 > epsilon)
  if clearOfWithin epsilon first second then firstCrosses && secondCrosses
  else
    pointOnSegmentWithin epsilon second.1 first.1 first.2 ||
      pointOnSegmentWithin epsilon second.2 first.1 first.2 ||
      pointOnSegmentWithin epsilon first.1 second.1 second.2 ||
      pointOnSegmentWithin epsilon first.2 second.1 second.2

def ringsInteractWithin (first second : Ring) : Bool :=
  (ringSegments first).any fun edge => (ringSegments second).any fun other =>
    segmentsInteractWithin epsilon edge other

/-- One edge of the loop; `none` where the point lies on it. -/
def crossEdgeWithin (point : Point) (inside : Option Bool) (edge : Segment) : Option Bool :=
  match inside with
  | none => none
  | some inside =>
      if pointOnSegmentWithin epsilon point edge.1 edge.2 then none
      else if decide (edge.1.2 > point.2) = decide (edge.2.2 > point.2) then some inside
      else
        let intersectionX := edge.1.1 +
          (point.2 - edge.1.2) * (edge.2.1 - edge.1.1) / (edge.2.2 - edge.1.2)
        some (if intersectionX > point.1 then !inside else inside)

def pointInRingStrictWithin (point : Point) (ring : Ring) : Bool :=
  ((ringSegments ring).foldl (crossEdgeWithin epsilon point) (some false)).getD false

def pointInPolygonSurfaceWithin (point : Point) (polygon : List Ring) : Bool :=
  match polygon with
  | [] => false
  | shell :: holes =>
      pointInRingStrictWithin epsilon point shell &&
        !(holes.any fun hole => pointInRingStrictWithin epsilon point hole)

/-- The holes after one another, each against those that follow. -/
def holesApartWithin : List Ring → Bool
  | [] => true
  | hole :: rest =>
      rest.all (fun other => !ringsInteractWithin epsilon hole other &&
        !(pointInRingStrictWithin epsilon (hole.headD (0, 0)) other ||
          pointInRingStrictWithin epsilon (other.headD (0, 0)) hole)) && holesApartWithin rest

def validPolygonTopologyWithin (shell : Ring) (holes : List Ring) : Bool :=
  match topologyRing shell, holes.mapM topologyRing with
  | some shellRing, some holeRings =>
      holeRings.all (fun hole => !ringsInteractWithin epsilon shellRing hole &&
        hole.dropLast.all fun point => pointInRingStrictWithin epsilon point shellRing) &&
        holesApartWithin epsilon holeRings
  | _, _ => false

/-- Two polygons, neither with its first vertex on the other. -/
def polygonsApartWithin (first second : List Ring) : Bool :=
  !(first.any fun ring => second.any fun other => ringsInteractWithin epsilon ring other) &&
    !(pointInPolygonSurfaceWithin epsilon ((first.headD []).headD (0, 0)) second ||
      pointInPolygonSurfaceWithin epsilon ((second.headD []).headD (0, 0)) first)

def allPolygonsApartWithin : List (List Ring) → Bool
  | [] => true
  | polygon :: rest =>
      rest.all (polygonsApartWithin epsilon polygon) && allPolygonsApartWithin rest

def validMultipolygonTopologyWithin (polygons : List (List Ring)) : Bool :=
  match polygons.mapM fun polygon => polygon.mapM topologyRing with
  | none => false
  | some topologyPolygons => allPolygonsApartWithin epsilon topologyPolygons

end Tolerance

/-! ### The tests of the source -/

/-- `_point_on_segment`. -/
def pointOnSegment : Point → Point → Point → Bool := pointOnSegmentWithin geometryEpsilon

def clearOf : Segment → Segment → Bool := clearOfWithin geometryEpsilon

/-- `_segments_interact`. -/
def segmentsInteract : Segment → Segment → Bool := segmentsInteractWithin geometryEpsilon

/-- `_has_adjacent_segment_overlap`. -/
def hasAdjacentSegmentOverlap (ring : Ring) : Bool :=
  let points := ring.dropLast
  (List.range points.length).any fun index =>
    let current := points.getD index (0, 0)
    let previous := points.getD ((index + points.length - 1) % points.length) (0, 0)
    let following := points.getD ((index + 1) % points.length) (0, 0)
    if |orientation previous current following| > geometryEpsilon then false
    else
      (previous.1 - current.1) * (following.1 - current.1) +
        (previous.2 - current.2) * (following.2 - current.2) > geometryEpsilon

/-- The pairs of edges that `_valid_linear_ring` compares. -/
def comparedEdges (count first second : ℕ) : Bool :=
  first < second && !(second = first + 1 || (first = 0 && second = count - 1))

/-- `_valid_linear_ring`. -/
def validLinearRing (ring : Ring) : Bool :=
  if ring.length < 4 || ring.head? ≠ ring.getLast? then false
  else
    match topologyRing ring with
    | none => false
    | some topology =>
        let segments := ringSegments topology
        geometryEpsilon < |signedRingArea topology| && !hasAdjacentSegmentOverlap topology &&
          segments.zipIdx.all fun first => segments.zipIdx.all fun second =>
            !comparedEdges segments.length first.2 second.2 || !segmentsInteract first.1 second.1

/-- `_rings_interact`. -/
def ringsInteract : Ring → Ring → Bool := ringsInteractWithin geometryEpsilon

/-- `_point_in_ring_strict`. -/
def pointInRingStrict : Point → Ring → Bool := pointInRingStrictWithin geometryEpsilon

/-- `_point_in_polygon_surface`. -/
def pointInPolygonSurface : Point → List Ring → Bool :=
  pointInPolygonSurfaceWithin geometryEpsilon

/-- `_valid_polygon_topology`. -/
def validPolygonTopology : Ring → List Ring → Bool := validPolygonTopologyWithin geometryEpsilon

/-- `_valid_multipolygon_topology`. -/
def validMultipolygonTopology : List (List Ring) → Bool :=
  validMultipolygonTopologyWithin geometryEpsilon

end FloodRisk.WraHistorical
