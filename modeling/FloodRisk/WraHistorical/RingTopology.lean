import FloodRisk.WraHistorical.Rings

/-!
# Boundaries of accepted polygons

What the edges of accepted rings share: nothing, but for crossings so small that an
orientation of theirs is within the tolerance.
-/

namespace FloodRisk.WraHistorical
open Segments

variable {edge other : Segment} {ring topology : Ring} {point start stop : Point}

/-- The edges cross, and the tolerance hides one of the orientations. -/
def TinyCrossing (edge other : Segment) : Prop :=
  Crosses edge.1 edge.2 other.1 other.2 ∧ clearOf edge other = false

def EdgesMeet (edge other : Segment) : Prop := Meet edge.1 edge.2 other.1 other.2

/-! ### Two edges -/

theorem geometryEpsilon_pos : 0 < geometryEpsilon := by
  unfold geometryEpsilon
  norm_num

theorem clearOf_iff : clearOf edge other = true ↔
    geometryEpsilon < |orientation edge.1 edge.2 other.1| ∧
      geometryEpsilon < |orientation edge.1 edge.2 other.2| ∧
      geometryEpsilon < |orientation other.1 other.2 edge.1| ∧
      geometryEpsilon < |orientation other.1 other.2 edge.2| := by
  simp [clearOf, clearOfWithin, orientations]

theorem between_ends {x y t : ℚ} (ht0 : 0 ≤ t) (ht1 : t ≤ 1) :
    min x y ≤ x + t * (y - x) ∧ x + t * (y - x) ≤ max x y := by
  rcases le_total x y with hle | hle
  · rw [min_eq_left hle, max_eq_right hle]
    have hpos := mul_nonneg ht0 (sub_nonneg.mpr hle)
    have hrest := mul_nonneg (sub_nonneg.mpr ht1) (sub_nonneg.mpr hle)
    constructor
    · linarith
    · linarith
  · rw [min_eq_right hle, max_eq_left hle]
    have hpos := mul_nonneg ht0 (sub_nonneg.mpr hle)
    have hrest := mul_nonneg (sub_nonneg.mpr ht1) (sub_nonneg.mpr hle)
    constructor
    · linarith
    · linarith

theorem pointOnSegment_of_onSegment (h : OnSegment point start stop) :
    pointOnSegment point start stop = true := by
  have hzero := orientation_of_onSegment h
  obtain ⟨t, ht0, ht1, rfl⟩ := h
  have hpos := geometryEpsilon_pos
  obtain ⟨hx, hx'⟩ := @between_ends start.1 stop.1 t ht0 ht1
  obtain ⟨hy, hy'⟩ := @between_ends start.2 stop.2 t ht0 ht1
  unfold pointOnSegment pointOnSegmentWithin
  rw [hzero, abs_zero]
  simp only [Bool.and_eq_true, Bool.not_eq_true', decide_eq_false_iff_not, along]
  exact ⟨by linarith, ⟨⟨decide_eq_true (by linarith), decide_eq_true (by linarith)⟩,
    decide_eq_true (by linarith)⟩, decide_eq_true (by linarith)⟩

/-- An end of one edge on the other is always seen. -/
theorem interact_of_end
    (h : OnSegment other.1 edge.1 edge.2 ∨ OnSegment other.2 edge.1 edge.2 ∨
      OnSegment edge.1 other.1 other.2 ∨ OnSegment edge.2 other.1 other.2) :
    segmentsInteract edge other = true := by
  have hpos := geometryEpsilon_pos
  have hclose : clearOfWithin geometryEpsilon edge other = false := by
    by_contra hopen
    have hclear := clearOf_iff.mp (eq_true_of_ne_false hopen)
    rcases h with h | h | h | h
    · rw [orientation_of_onSegment h, abs_zero] at hclear
      linarith [hclear.1]
    · rw [orientation_of_onSegment h, abs_zero] at hclear
      linarith [hclear.2.1]
    · rw [orientation_of_onSegment h, abs_zero] at hclear
      linarith [hclear.2.2.1]
    · rw [orientation_of_onSegment h, abs_zero] at hclear
      linarith [hclear.2.2.2]
  simp only [segmentsInteract, segmentsInteractWithin, hclose, Bool.false_eq_true, if_false,
    Bool.or_eq_true]
  rcases h with h | h | h | h
  · exact Or.inl (Or.inl (Or.inl (pointOnSegment_of_onSegment h)))
  · exact Or.inl (Or.inl (Or.inr (pointOnSegment_of_onSegment h)))
  · exact Or.inl (Or.inr (pointOnSegment_of_onSegment h))
  · exact Or.inr (pointOnSegment_of_onSegment h)

/-- Values beyond the tolerance on the two sides of zero are told apart. -/
theorem told_apart {x y : ℚ} (h : x * y < 0) (hx : geometryEpsilon < |x|)
    (hy : geometryEpsilon < |y|) :
    (decide (x > geometryEpsilon) != decide (y > geometryEpsilon)) = true := by
  have hpos := geometryEpsilon_pos
  rcases mul_neg_iff.mp h with ⟨hxpos, hyneg⟩ | ⟨hxneg, hypos⟩
  · rw [abs_of_pos hxpos] at hx
    have hnot : ¬ y > geometryEpsilon := by linarith
    simp [hx, hnot]
  · rw [abs_of_pos hypos] at hy
    have hnot : ¬ x > geometryEpsilon := by linarith
    simp [hy, hnot]

theorem interact_of_clear_crossing (hcross : Crosses edge.1 edge.2 other.1 other.2)
    (hclear : clearOf edge other = true) : segmentsInteract edge other = true := by
  obtain ⟨h0, h1, h2, h3⟩ := clearOf_iff.mp hclear
  have hwithin : clearOfWithin geometryEpsilon edge other = true := hclear
  simp only [segmentsInteract, segmentsInteractWithin, hwithin, if_true, Bool.and_eq_true]
  exact ⟨told_apart hcross.1 h0 h1, told_apart hcross.2 h2 h3⟩

/-- Edges that pass the test share a point exactly where they cross within the tolerance. -/
theorem edgesMeet_iff_tinyCrossing (h : segmentsInteract edge other = false) :
    EdgesMeet edge other ↔ TinyCrossing edge other := by
  unfold EdgesMeet
  rw [meet_iff]
  constructor
  · rintro (hend | hcross)
    · rw [interact_of_end hend] at h
      cases h
    · refine ⟨hcross, ?_⟩
      by_contra hclear
      rw [Bool.not_eq_false] at hclear
      rw [interact_of_clear_crossing hcross hclear] at h
      cases h
  · exact fun htiny => Or.inr htiny.1

/-! ### The edges of a ring -/

/-- The edge after an edge. -/
def nextEdge (count index : ℕ) : ℕ := if index + 1 = count then 0 else index + 1

theorem ringSegments_getElem? {index : ℕ} : (ringSegments ring)[index]? = some edge ↔
    ring[index]? = some edge.1 ∧ ring[index + 1]? = some edge.2 := by
  rw [ringSegments, List.getElem?_zip_eq_some, List.getElem?_tail]

theorem topologyRing_eq (h : topologyRing ring = some topology) :
    ∃ first rest, topology = first :: rest ++ [first] ∧ 2 ≤ rest.length := by
  unfold topologyRing at h
  cases hpoints : dropRepeats [] ring.dropLast with
  | nil =>
    rw [hpoints] at h
    cases h
  | cons first rest =>
    rw [hpoints] at h
    dsimp only at h
    split_ifs at h with hshort
    cases h
    refine ⟨first, rest.rdropWhile fun point => point = first, rfl, ?_⟩
    have hle := (List.dedup_sublist
      (first :: rest.rdropWhile fun point => decide (point = first))).length_le
    rw [List.length_cons] at hle
    omega

/-- What acceptance says of a ring. -/
structure AcceptedTopology (topology : Ring) : Prop where
  closed : ∃ first rest, topology = first :: rest ++ [first] ∧ 2 ≤ rest.length
  area : geometryEpsilon < |signedRingArea topology|
  apart : ∀ index index' : ℕ, comparedEdges (ringSegments topology).length index index' = true →
    ∀ edge other, (ringSegments topology)[index]? = some edge →
      (ringSegments topology)[index']? = some other → segmentsInteract edge other = false

theorem acceptedTopology (h : validLinearRing ring = true)
    (htopology : topologyRing ring = some topology) : AcceptedTopology topology := by
  unfold validLinearRing at h
  split_ifs at h with hshape
  rw [htopology] at h
  simp only [Bool.and_eq_true, decide_eq_true_eq, List.all_eq_true] at h
  obtain ⟨⟨harea, -⟩, hall⟩ := h
  refine ⟨topologyRing_eq htopology, harea, ?_⟩
  intro index index' hcompared edge other hedge hother
  have hpair := hall (edge, index) (List.mem_zipIdx_iff_getElem?.mpr hedge) (other, index')
    (List.mem_zipIdx_iff_getElem?.mpr hother)
  simpa [hcompared] using hpair

/-- Edges that are not adjacent share no point, adjacent ones only their vertex, and the ring
encloses an area. -/
structure SimpleRing (topology : Ring) : Prop where
  nonadjacent : ∀ index index' : ℕ,
    comparedEdges (ringSegments topology).length index index' = true →
    ∀ edge other, (ringSegments topology)[index]? = some edge →
      (ringSegments topology)[index']? = some other → ¬ EdgesMeet edge other
  adjacent : ∀ index edge other, (ringSegments topology)[index]? = some edge →
    (ringSegments topology)[nextEdge (ringSegments topology).length index]? = some other →
    edge.2 = other.1 ∧ ∀ point, OnSegment point edge.1 edge.2 → OnSegment point other.1 other.2 →
      point = edge.2
  area : signedRingArea topology ≠ 0

/-- No two edges that are not adjacent cross within the tolerance. -/
def NoTinyCrossing (topology : Ring) : Prop :=
  ∀ index index' : ℕ, comparedEdges (ringSegments topology).length index index' = true →
    ∀ edge other, (ringSegments topology)[index]? = some edge →
      (ringSegments topology)[index']? = some other → ¬ TinyCrossing edge other

theorem ringSegments_length (first : Point) (rest : List Point) :
    (ringSegments (first :: rest ++ [first])).length = rest.length + 1 := by
  simp [ringSegments]

/-- An edge ends where the next one starts. -/
theorem edge_end_eq (hclosed : ∃ first rest, topology = first :: rest ++ [first]) {index : ℕ}
    (hedge : (ringSegments topology)[index]? = some edge)
    (hother : (ringSegments topology)[nextEdge (ringSegments topology).length index]? =
      some other) : edge.2 = other.1 := by
  obtain ⟨first, rest, rfl⟩ := hclosed
  rw [ringSegments_length] at hother
  rw [ringSegments_getElem?] at hedge hother
  unfold nextEdge at hother
  split_ifs at hother with hlast
  · have hfirst : (first :: rest ++ [first])[index + 1]? = some first := by
      rw [hlast]
      simp
    have hstart : (first :: rest ++ [first])[0]? = some first := rfl
    rw [hfirst] at hedge
    rw [hstart] at hother
    exact (Option.some.inj hedge.2).symm.trans (Option.some.inj hother.1)
  · exact Option.some.inj (hedge.2.symm.trans hother.1)

theorem comparedEdges_iff {count first second : ℕ} : comparedEdges count first second = true ↔
    first < second ∧ second ≠ first + 1 ∧ (first = 0 → second ≠ count - 1) := by
  simp only [comparedEdges, Bool.and_eq_true, Bool.not_eq_true', Bool.or_eq_false_iff,
    Bool.and_eq_false_imp, decide_eq_true_eq, decide_eq_false_iff_not, ne_eq]

/-- Two edges on from an edge, unless the ring is a triangle. -/
theorem compared_two_on {count index : ℕ} (hcount : 4 ≤ count) (hindex : index < count) :
    comparedEdges count index (nextEdge count (nextEdge count index)) = true ∨
      comparedEdges count (nextEdge count (nextEdge count index)) index = true := by
  have htwo : (index + 1 = count ∧ nextEdge count (nextEdge count index) = 1) ∨
      (index + 2 = count ∧ nextEdge count (nextEdge count index) = 0) ∨
      (index + 2 < count ∧ nextEdge count (nextEdge count index) = index + 2) := by
    unfold nextEdge
    split_ifs <;> omega
  rw [comparedEdges_iff, comparedEdges_iff]
  rcases htwo with ⟨hlast, hnext⟩ | ⟨hlast, hnext⟩ | ⟨hlast, hnext⟩
  · right
    omega
  · right
    omega
  · left
    omega

/-- In a ring with four edges or more no end of an edge lies on the edge two on. -/
theorem no_end_two_on (h : AcceptedTopology topology) {index : ℕ}
    (hcount : 4 ≤ (ringSegments topology).length)
    (hedge : (ringSegments topology)[index]? = some edge)
    (hother : (ringSegments topology)[nextEdge (ringSegments topology).length
      (nextEdge (ringSegments topology).length index)]? = some other) :
    ¬ OnSegment other.1 edge.1 edge.2 ∧ ¬ OnSegment edge.2 other.1 other.2 := by
  have hindex : index < (ringSegments topology).length :=
    (List.getElem?_eq_some_iff.mp hedge).1
  rcases compared_two_on hcount hindex with hcompared | hcompared
  · have hapart := h.apart _ _ hcompared edge other hedge hother
    constructor
    · intro hend
      rw [interact_of_end (Or.inl hend)] at hapart
      cases hapart
    · intro hend
      rw [interact_of_end (Or.inr (Or.inr (Or.inr hend)))] at hapart
      cases hapart
  · have hapart := h.apart _ _ hcompared other edge hother hedge
    constructor
    · intro hend
      rw [interact_of_end (Or.inr (Or.inr (Or.inl hend)))] at hapart
      cases hapart
    · intro hend
      rw [interact_of_end (Or.inr (Or.inl hend))] at hapart
      cases hapart

theorem exists_edge {index : ℕ} (h : index < (ringSegments topology).length) :
    ∃ edge, (ringSegments topology)[index]? = some edge :=
  ⟨_, List.getElem?_eq_getElem h⟩

theorem nextEdge_lt {count index : ℕ} (h : index < count) : nextEdge count index < count := by
  unfold nextEdge
  split_ifs <;> omega

theorem exists_nextEdge_eq {count index : ℕ} (h : index < count) :
    ∃ previous < count, nextEdge count previous = index := by
  by_cases hzero : index = 0
  · refine ⟨count - 1, by omega, ?_⟩
    unfold nextEdge
    split_ifs <;> omega
  · refine ⟨index - 1, by omega, ?_⟩
    unfold nextEdge
    split_ifs <;> omega

/-- The area of a triangle. -/
theorem signedRingArea_triangle (a b c : Point) :
    signedRingArea [a, b, c, a] = orientation a b c / 2 := by
  simp only [signedRingArea, ringSegments, List.tail_cons, List.zip_cons_cons, List.zip_nil_right,
    List.foldl_cons, List.foldl_nil, orientation]
  ring

/-- In a triangle two adjacent edges do not lie on one line. -/
theorem orientation_ne_zero_of_triangle {a b c : Point} (h : AcceptedTopology [a, b, c, a])
    {index : ℕ} (hedge : (ringSegments [a, b, c, a])[index]? = some edge)
    (hother : (ringSegments [a, b, c, a])[nextEdge 3 index]? = some other) :
    orientation edge.1 edge.2 other.2 ≠ 0 := by
  have harea := h.area
  have hne : orientation a b c ≠ 0 := by
    intro hzero
    rw [signedRingArea_triangle, hzero, zero_div, abs_zero] at harea
    exact absurd geometryEpsilon_pos (not_lt.mpr harea.le)
  have hsegments : ringSegments [a, b, c, a] = [(a, b), (b, c), (c, a)] := rfl
  rw [hsegments] at hedge hother
  match index, hedge, hother with
  | 0, hedge, hother =>
    cases hedge
    cases hother
    exact hne
  | 1, hedge, hother =>
    cases hedge
    cases hother
    rw [orientation_rotate]
    exact hne
  | 2, hedge, hother =>
    cases hedge
    cases hother
    rw [orientation_rotate, orientation_rotate]
    exact hne
  | index + 3, hedge, _ => cases hedge

/-- Adjacent edges share their vertex only. -/
theorem adjacent_share_vertex (h : AcceptedTopology topology) {index : ℕ}
    (hedge : (ringSegments topology)[index]? = some edge)
    (hother : (ringSegments topology)[nextEdge (ringSegments topology).length index]? = some other)
    (hpoint : OnSegment point edge.1 edge.2) (hpoint' : OnSegment point other.1 other.2) :
    point = edge.2 := by
  obtain ⟨first, rest, hclosed, hrest⟩ := h.closed
  have hends : ∃ first rest, topology = first :: rest ++ [first] := ⟨first, rest, hclosed⟩
  have hvertex := edge_end_eq hends hedge hother
  have hindex : index < (ringSegments topology).length := (List.getElem?_eq_some_iff.mp hedge).1
  by_contra hne
  rw [← hvertex] at hpoint'
  have hfold := onSegment_of_fold (onSegment_swap hpoint) hpoint' hne
  by_cases hcount : 4 ≤ (ringSegments topology).length
  · rcases hfold with hback | hback
    · obtain ⟨third, hthird⟩ := exists_edge (nextEdge_lt (nextEdge_lt hindex))
      have hstart := edge_end_eq hends hother hthird
      rw [hstart] at hback
      exact (no_end_two_on h hcount hedge hthird).1 (onSegment_swap hback)
    · obtain ⟨previous, hprevious, rfl⟩ := exists_nextEdge_eq hindex
      obtain ⟨before, hbefore⟩ := exists_edge hprevious
      have hend := edge_end_eq hends hbefore hedge
      rw [hvertex, ← hend] at hback
      exact (no_end_two_on h hcount hbefore hother).2 hback
  · have hzero : orientation edge.1 edge.2 other.2 = 0 := by
      rcases hfold with hback | hback
      · exact orientation_of_onSegment (onSegment_swap hback)
      · have hline := orientation_of_onSegment hback
        rw [orientation_rotate] at hline
        exact hline
    have hlength := ringSegments_length first rest
    rw [← hclosed] at hlength
    have htriangle : rest.length = 2 := by omega
    obtain ⟨b, c, rfl⟩ := List.length_eq_two.mp htriangle
    subst hclosed
    exact orientation_ne_zero_of_triangle h hedge hother hzero

theorem simpleRing_iff (h : AcceptedTopology topology) :
    SimpleRing topology ↔ NoTinyCrossing topology := by
  constructor
  · intro hsimple index index' hcompared edge other hedge hother htiny
    have hapart := h.apart index index' hcompared edge other hedge hother
    exact hsimple.nonadjacent index index' hcompared edge other hedge hother
      ((edgesMeet_iff_tinyCrossing hapart).mpr htiny)
  · intro hnone
    refine ⟨?_, ?_, ?_⟩
    · intro index index' hcompared edge other hedge hother hmeet
      have hapart := h.apart index index' hcompared edge other hedge hother
      exact hnone index index' hcompared edge other hedge hother
        ((edgesMeet_iff_tinyCrossing hapart).mp hmeet)
    · intro index edge other hedge hother
      obtain ⟨first, rest, hclosed, -⟩ := h.closed
      exact ⟨edge_end_eq ⟨first, rest, hclosed⟩ hedge hother,
        fun point => adjacent_share_vertex h hedge hother⟩
    · intro hzero
      have harea := h.area
      rw [hzero, abs_zero] at harea
      exact absurd geometryEpsilon_pos (not_lt.mpr harea.le)

/-! ### The rings of polygons -/

/-- No edge of one ring shares a point with an edge of the other. -/
def RingsApart (ring other : Ring) : Prop :=
  ∀ edge ∈ ringSegments ring, ∀ edge' ∈ ringSegments other, ¬ EdgesMeet edge edge'

def NoTinyCrossingBetween (ring other : Ring) : Prop :=
  ∀ edge ∈ ringSegments ring, ∀ edge' ∈ ringSegments other, ¬ TinyCrossing edge edge'

/-- The polygons that pass both tests, of rings that pass theirs. -/
structure AcceptedPolygons (polygons : List (List Ring)) : Prop where
  rings : ∀ polygon ∈ polygons, ∀ ring ∈ polygon, validLinearRing ring = true
  polygon : ∀ polygon ∈ polygons, ∃ shell holes, polygon = shell :: holes ∧
    validPolygonTopology shell holes = true
  multipolygon : validMultipolygonTopology polygons = true

/-- All rings, without consecutive repeats. -/
def topologyRings (polygons : List (List Ring)) : List Ring :=
  polygons.flatten.filterMap topologyRing

theorem ringsApart_iff {other : Ring} (h : ringsInteract ring other = false) :
    RingsApart ring other ↔ NoTinyCrossingBetween ring other := by
  have hapart : ∀ edge ∈ ringSegments ring, ∀ edge' ∈ ringSegments other,
      segmentsInteract edge edge' = false := by
    intro edge hedge edge' hedge'
    have hnone := List.any_eq_false.mp h edge hedge
    exact eq_false_of_ne_true (List.any_eq_false.mp (eq_false_of_ne_true hnone) edge' hedge')
  apply forall₂_congr
  intro edge hedge
  apply forall₂_congr
  intro edge' hedge'
  rw [edgesMeet_iff_tinyCrossing (hapart edge hedge edge' hedge')]

theorem mapM_topologyRing {rings made : List Ring} (h : rings.mapM topologyRing = some made) :
    rings.filterMap topologyRing = made := by
  induction rings generalizing made with
  | nil =>
    cases h
    rfl
  | cons ring rings ih =>
    rw [List.mapM_cons] at h
    obtain ⟨topology, htopology, hrest⟩ := Option.bind_eq_some_iff.mp h
    obtain ⟨others, hothers, hmade⟩ := Option.bind_eq_some_iff.mp hrest
    cases hmade
    rw [List.filterMap_cons_some htopology, ih hothers]

theorem mapM_polygons {polygons : List (List Ring)} {made : List (List Ring)}
    (h : (polygons.mapM fun polygon => polygon.mapM topologyRing) = some made) :
    polygons.map (fun polygon => polygon.filterMap topologyRing) = made := by
  induction polygons generalizing made with
  | nil =>
    cases h
    rfl
  | cons polygon polygons ih =>
    rw [List.mapM_cons] at h
    obtain ⟨rings, hrings, hrest⟩ := Option.bind_eq_some_iff.mp h
    obtain ⟨others, hothers, hmade⟩ := Option.bind_eq_some_iff.mp hrest
    cases hmade
    rw [List.map_cons, mapM_topologyRing hrings, ih hothers]

theorem topologyRings_eq (polygons : List (List Ring)) :
    topologyRings polygons =
      (polygons.map fun polygon => polygon.filterMap topologyRing).flatten := by
  unfold topologyRings
  induction polygons with
  | nil => rfl
  | cons polygon polygons ih =>
    rw [List.flatten_cons, List.filterMap_append, ih, List.map_cons, List.flatten_cons]

/-- Each hole against those that follow it. -/
theorem pairwise_of_holesApartWithin {epsilon : ℚ} {holes : List Ring}
    (h : holesApartWithin epsilon holes = true) :
    holes.Pairwise fun hole other => ringsInteractWithin epsilon hole other = false ∧
      pointInRingStrictWithin epsilon (hole.headD (0, 0)) other = false ∧
      pointInRingStrictWithin epsilon (other.headD (0, 0)) hole = false := by
  induction holes with
  | nil => exact List.Pairwise.nil
  | cons hole holes ih =>
    rw [holesApartWithin, Bool.and_eq_true, List.all_eq_true] at h
    refine List.Pairwise.cons ?_ (ih h.2)
    intro other hother
    have hpair := h.1 other hother
    simpa only [Bool.and_eq_true, Bool.not_eq_true', Bool.or_eq_false_iff] using hpair

/-- The rings of one polygon. -/
theorem pairwise_of_polygon {shell : Ring} {holes : List Ring}
    (h : validPolygonTopology shell holes = true) :
    ((shell :: holes).filterMap topologyRing).Pairwise fun ring other =>
      ringsInteract ring other = false := by
  unfold validPolygonTopology validPolygonTopologyWithin at h
  cases hshell : topologyRing shell with
  | none =>
    rw [hshell] at h
    cases h
  | some shellRing =>
    cases hholes : holes.mapM topologyRing with
    | none =>
      rw [hshell, hholes] at h
      cases h
    | some holeRings =>
      rw [hshell, hholes] at h
      simp only [Bool.and_eq_true, List.all_eq_true] at h
      rw [List.filterMap_cons_some hshell, mapM_topologyRing hholes]
      refine List.Pairwise.cons ?_ ((pairwise_of_holesApartWithin h.2).imp And.left)
      intro hole hhole
      exact (Bool.not_eq_true' _).mp (h.1 hole hhole).1

/-- Each polygon against those that follow it. -/
theorem pairwise_of_allPolygonsApartWithin {epsilon : ℚ} {polygons : List (List Ring)}
    (h : allPolygonsApartWithin epsilon polygons = true) :
    polygons.Pairwise fun polygon other =>
      (∀ ring ∈ polygon, ∀ ring' ∈ other, ringsInteractWithin epsilon ring ring' = false) ∧
      pointInPolygonSurfaceWithin epsilon ((polygon.headD []).headD (0, 0)) other = false ∧
      pointInPolygonSurfaceWithin epsilon ((other.headD []).headD (0, 0)) polygon = false := by
  induction polygons with
  | nil => exact List.Pairwise.nil
  | cons polygon polygons ih =>
    rw [allPolygonsApartWithin, Bool.and_eq_true, List.all_eq_true] at h
    refine List.Pairwise.cons ?_ (ih h.2)
    intro other hother
    have hpair := h.1 other hother
    rw [polygonsApartWithin, Bool.and_eq_true, Bool.not_eq_true', Bool.not_eq_true',
      Bool.or_eq_false_iff] at hpair
    refine ⟨?_, hpair.2⟩
    intro ring hring ring' hring'
    have hnone := List.any_eq_false.mp hpair.1 ring hring
    exact eq_false_of_ne_true (List.any_eq_false.mp (eq_false_of_ne_true hnone) ring' hring')

theorem pairwise_topologyRings {polygons : List (List Ring)} (h : AcceptedPolygons polygons) :
    (topologyRings polygons).Pairwise fun ring other => ringsInteract ring other = false := by
  have hmulti := h.multipolygon
  unfold validMultipolygonTopology validMultipolygonTopologyWithin at hmulti
  cases hmade : polygons.mapM fun polygon => polygon.mapM topologyRing with
  | none =>
    rw [hmade] at hmulti
    cases hmulti
  | some made =>
    rw [hmade] at hmulti
    rw [topologyRings_eq, mapM_polygons hmade, List.pairwise_flatten]
    refine ⟨?_, (pairwise_of_allPolygonsApartWithin hmulti).imp And.left⟩
    intro rings hrings
    rw [← mapM_polygons hmade] at hrings
    obtain ⟨polygon, hpolygon, rfl⟩ := List.mem_map.mp hrings
    obtain ⟨shell, holes, rfl, hvalid⟩ := h.polygon polygon hpolygon
    exact pairwise_of_polygon hvalid

/-- Accepted boundaries neither touch nor cross, exactly when none cross within the
tolerance. -/
theorem accepted_boundaries_iff (ring topology : Ring) (polygons : List (List Ring)) :
    (validLinearRing ring = true → topologyRing ring = some topology →
      (SimpleRing topology ↔ NoTinyCrossing topology)) ∧
    (AcceptedPolygons polygons →
      ((topologyRings polygons).Pairwise RingsApart ↔
        (topologyRings polygons).Pairwise NoTinyCrossingBetween)) := by
  constructor
  · intro hring htopology
    exact simpleRing_iff (acceptedTopology hring htopology)
  · intro hpolygons
    have hpairs := pairwise_topologyRings hpolygons
    constructor
    · intro h
      exact hpairs.imp₂ (fun _ _ hapart hrings => (ringsApart_iff hapart).mp hrings) h
    · intro h
      exact hpairs.imp₂ (fun _ _ hapart hrings => (ringsApart_iff hapart).mpr hrings) h

def lakeShore : Ring := [(121, 24), (122, 24), (122, 25), (121, 25), (121, 24)]

def lakeIsland : Ring :=
  [(121 + 1 / 4, 24 + 1 / 4), (121 + 1 / 2, 24 + 1 / 4), (121 + 1 / 4, 24 + 1 / 2),
    (121 + 1 / 4, 24 + 1 / 4)]

/-- A square with a triangle inside it. -/
theorem lake_boundaries : (SimpleRing lakeShore ↔ NoTinyCrossing lakeShore) ∧
    ((topologyRings [[lakeShore, lakeIsland]]).Pairwise RingsApart ↔
      (topologyRings [[lakeShore, lakeIsland]]).Pairwise NoTinyCrossingBetween) := by
  have hlake : AcceptedPolygons [[lakeShore, lakeIsland]] :=
    { rings := by decide +kernel
      polygon := by
        intro polygon hpolygon
        refine ⟨lakeShore, [lakeIsland], List.mem_singleton.mp hpolygon, ?_⟩
        decide +kernel
      multipolygon := by decide +kernel }
  obtain ⟨hring, hpolygons⟩ :=
    accepted_boundaries_iff lakeShore lakeShore [[lakeShore, lakeIsland]]
  exact ⟨hring (by decide +kernel) (by decide +kernel), hpolygons hlake⟩

/-- Two short edges that cross at a point of Taiwan. -/
def tinyEight : Ring :=
  [(121 - 1 / 10 ^ 6, 24), (121 + 1 / 10 ^ 6, 24), (122, 23), (121, 24 - 1 / (4 * 10 ^ 6)),
    (121, 24 + 1 / (4 * 10 ^ 6)), (121 - 1 / 2, 24 + 1 / 2), (121 - 1 / 10 ^ 6, 24)]

theorem tinyEight_accepted : tinyEight.all coordinateInTaiwan = true ∧
    validLinearRing tinyEight = true ∧ topologyRing tinyEight = some tinyEight ∧
      ¬ SimpleRing tinyEight := by
  refine ⟨by decide +kernel, by decide +kernel, by decide +kernel, ?_⟩
  intro hsimple
  have hapart := hsimple.nonadjacent 0 3 (by decide +kernel) _ _ rfl rfl
  apply hapart
  refine ⟨(121, 24), ⟨1 / 2, by norm_num, by norm_num, ?_⟩, ⟨1 / 2, by norm_num, by norm_num, ?_⟩⟩
  · simp only [along]
    norm_num
  · simp only [along]
    norm_num

end FloodRisk.WraHistorical
