import FloodRisk.Lib.RayParity
import FloodRisk.WraHistorical.Tolerance

/-!
# One vertex decides

A ring that no edge of another one meets lies on one side of it, so the tests of single vertices
speak for the whole ring.
-/

namespace FloodRisk.WraHistorical
open Segments RayParity

variable {ring other shell : Ring} {point vertex p q : Point} {segments : List Segment}

/-- A vertex of a polyline, or a point of one of its segments. -/
def OnPolyline (point : Point) (polyline : List Point) : Prop :=
  point ∈ polyline ∨ ∃ segment ∈ ringSegments polyline, OnSegment point segment.1 segment.2

def OnRing (point : Point) (ring : Ring) : Prop :=
  ∃ edge ∈ ringSegments ring, OnSegment point edge.1 edge.2

def Closed (ring : Ring) : Prop := ring.head? = ring.getLast?

/-! ### The loop counts crossings -/

theorem crossEdgeWithin_some {inside : Bool} {edge : Segment}
    (h : ¬ OnSegment point edge.1 edge.2) :
    crossEdgeWithin 0 point (some inside) edge =
      some (inside ^^ rayCrosses point edge.1 edge.2) := by
  have hoff : pointOnSegmentWithin 0 point edge.1 edge.2 = false := by
    rw [← Bool.not_eq_true, pointOnSegmentWithin_zero]
    exact h
  simp only [crossEdgeWithin, hoff, Bool.false_eq_true, if_false, rayCrosses, xAt]
  by_cases hheights : decide (edge.1.2 > point.2) = decide (edge.2.2 > point.2)
  · rw [if_pos hheights, hheights, bne_self_eq_false, Bool.false_and, Bool.xor_false]
  · rw [if_neg hheights, bne_iff_ne.mpr hheights, Bool.true_and]
    split_ifs with hright
    · simp [hright]
    · simp [hright]

theorem foldl_crossEdgeWithin {inside : Bool}
    (h : ∀ edge ∈ segments, ¬ OnSegment point edge.1 edge.2) :
    segments.foldl (crossEdgeWithin 0 point) (some inside) =
      some (inside ^^ oddCrossings point segments) := by
  induction segments generalizing inside with
  | nil =>
    rw [List.foldl_nil, oddCrossings, List.foldr_nil, Bool.xor_false]
  | cons edge segments ih =>
    rw [List.foldl_cons, crossEdgeWithin_some (h edge List.mem_cons_self),
      ih fun other hother => h other (List.mem_cons_of_mem edge hother), oddCrossings,
      oddCrossings, List.foldr_cons, Bool.xor_assoc]

theorem pointInRingStrictWithin_off (h : ¬ OnRing point ring) :
    pointInRingStrictWithin 0 point ring = oddCrossings point (ringSegments ring) := by
  unfold pointInRingStrictWithin
  rw [foldl_crossEdgeWithin fun edge hedge hon => h ⟨edge, hedge, hon⟩, Bool.false_xor]
  rfl

/-- Along a segment that meets no edge. -/
theorem inside_eq_of_segment (hclosed : Closed ring)
    (h : ∀ edge ∈ ringSegments ring, ¬ Meet p q edge.1 edge.2) :
    pointInRingStrictWithin 0 p ring = pointInRingStrictWithin 0 q ring := by
  have hp : ¬ OnRing p ring := by
    rintro ⟨edge, hedge, hon⟩
    exact h edge hedge ⟨p, onSegment_left p q, hon⟩
  have hq : ¬ OnRing q ring := by
    rintro ⟨edge, hedge, hon⟩
    exact h edge hedge ⟨q, onSegment_right p q, hon⟩
  rw [pointInRingStrictWithin_off hp, pointInRingStrictWithin_off hq]
  exact oddCrossings_eq hclosed h

/-! ### Along a polyline -/

theorem inside_eq_of_vertex (hclosed : Closed ring) {start : Point} {rest : List Point}
    (h : RingsApart (start :: rest) ring) :
    ∀ vertex ∈ start :: rest,
      pointInRingStrictWithin 0 vertex ring = pointInRingStrictWithin 0 start ring := by
  induction rest generalizing start with
  | nil =>
    intro vertex hvertex
    rw [List.mem_singleton.mp hvertex]
  | cons next rest ih =>
    have hfirst : pointInRingStrictWithin 0 next ring = pointInRingStrictWithin 0 start ring :=
      (inside_eq_of_segment hclosed fun edge hedge =>
        h (start, next) List.mem_cons_self edge hedge).symm
    have hrest : RingsApart (next :: rest) ring := fun segment hsegment =>
      h segment (List.mem_cons_of_mem (start, next) hsegment)
    intro vertex hvertex
    cases List.mem_cons.mp hvertex with
    | inl heq => rw [heq]
    | inr hmem => rw [ih hrest vertex hmem, hfirst]

theorem mem_of_mem_ringSegments {segment : Segment} (h : segment ∈ ringSegments ring) :
    segment.1 ∈ ring :=
  (List.of_mem_zip h).1

/-- The part of a segment from its start to a point of it. -/
theorem inside_eq_of_onSegment (hclosed : Closed ring) {segment : Segment}
    (h : ∀ edge ∈ ringSegments ring, ¬ EdgesMeet segment edge)
    (hpoint : OnSegment point segment.1 segment.2) :
    pointInRingStrictWithin 0 segment.1 ring = pointInRingStrictWithin 0 point ring := by
  apply inside_eq_of_segment hclosed
  rintro edge hedge ⟨z, hz, hz'⟩
  exact h edge hedge ⟨z, onSegment_trans (onSegment_left _ _) hpoint hz, hz'⟩

theorem inside_eq_of_polyline (hclosed : Closed ring) {polyline : List Point}
    (h : RingsApart polyline ring) (hp : OnPolyline p polyline) (hq : OnPolyline q polyline) :
    pointInRingStrictWithin 0 p ring = pointInRingStrictWithin 0 q ring := by
  cases polyline with
  | nil =>
    rcases hp with hp | ⟨segment, hsegment, -⟩
    · exact absurd hp List.not_mem_nil
    · exact absurd hsegment List.not_mem_nil
  | cons start rest =>
    have hstart : ∀ {point : Point}, OnPolyline point (start :: rest) →
        pointInRingStrictWithin 0 point ring = pointInRingStrictWithin 0 start ring := by
      rintro point (hvertex | ⟨segment, hsegment, hon⟩)
      · exact inside_eq_of_vertex hclosed h point hvertex
      · rw [← inside_eq_of_onSegment hclosed (h segment hsegment) hon]
        exact inside_eq_of_vertex hclosed h segment.1 (mem_of_mem_ringSegments hsegment)
    rw [hstart hp, hstart hq]

/-! ### Rings without repeats -/

theorem mem_dropRepeats {points rest : List Point} :
    vertex ∈ dropRepeats points rest ↔ vertex ∈ points ∨ vertex ∈ rest := by
  induction rest generalizing points with
  | nil => simp [dropRepeats]
  | cons point rest ih =>
    rw [dropRepeats]
    split_ifs with hlast
    · rw [ih, List.mem_cons]
      constructor
      · rintro (hold | hnew)
        · exact Or.inl hold
        · exact Or.inr (Or.inr hnew)
      · rintro (hold | rfl | hnew)
        · exact Or.inl hold
        · exact Or.inl (List.mem_of_getLast? hlast)
        · exact Or.inr hnew
    · rw [ih, List.mem_append, List.mem_singleton, List.mem_cons, or_assoc]

/-- What is dropped at the end repeats the first vertex. -/
theorem mem_rdropWhile_first {first : Point} {rest : List Point} :
    vertex ∈ first :: rest.rdropWhile (fun point => decide (point = first)) ++ [first] ↔
      vertex ∈ first :: rest := by
  rw [List.cons_append, List.mem_cons, List.mem_append, List.mem_singleton, List.mem_cons]
  constructor
  · rintro (hfirst | hkept | hfirst)
    · exact Or.inl hfirst
    · exact Or.inr ((List.rdropWhile_prefix _ rest).mem hkept)
    · exact Or.inl hfirst
  · rintro (hfirst | hrest)
    · exact Or.inl hfirst
    · rw [← List.mem_reverse,
        ← @List.takeWhile_append_dropWhile _ (fun point => decide (point = first)) rest.reverse,
        List.mem_append] at hrest
      rcases hrest with hdropped | hkept
      · have hrepeat :=
          List.mem_takeWhile_imp (p := fun point : Point => decide (point = first)) hdropped
        exact Or.inl (of_decide_eq_true hrepeat)
      · exact Or.inr (Or.inl (List.mem_reverse.mpr hkept))

/-- The vertices are kept. -/
theorem mem_topologyRing {topology : Ring} (h : topologyRing ring = some topology) :
    vertex ∈ topology ↔ vertex ∈ ring.dropLast := by
  have hdrop : vertex ∈ dropRepeats [] ring.dropLast ↔ vertex ∈ ring.dropLast := by
    rw [mem_dropRepeats, or_iff_right List.not_mem_nil]
  rw [← hdrop]
  unfold topologyRing at h
  cases hpoints : dropRepeats [] ring.dropLast with
  | nil =>
    rw [hpoints] at h
    cases h
  | cons first rest =>
    rw [hpoints] at h
    dsimp only at h
    split_ifs at h
    cases h
    exact mem_rdropWhile_first

theorem closed_topologyRing {topology : Ring} (h : topologyRing ring = some topology) :
    Closed topology := by
  obtain ⟨first, rest, rfl, -⟩ := topologyRing_eq h
  unfold Closed
  rw [List.getLast?_append_of_ne_nil _ (List.cons_ne_nil first []), List.getLast?_singleton]
  rfl

theorem onPolyline_headD {polyline : List Point} (h : vertex ∈ polyline) (origin : Point) :
    OnPolyline (polyline.headD origin) polyline := by
  cases polyline with
  | nil => exact absurd h List.not_mem_nil
  | cons start rest => exact Or.inl List.mem_cons_self

theorem exists_segment_from (front : List Point) (last : Point) (h : vertex ∈ front) :
    ∃ edge ∈ ringSegments (front ++ [last]), edge.1 = vertex := by
  induction front with
  | nil => exact absurd h List.not_mem_nil
  | cons first front ih =>
    cases List.mem_cons.mp h with
    | inl heq =>
      cases front with
      | nil => exact ⟨(first, last), List.mem_cons_self, heq.symm⟩
      | cons next front => exact ⟨(first, next), List.mem_cons_self, heq.symm⟩
    | inr hmem =>
      obtain ⟨edge, hedge, hstart⟩ := ih hmem
      refine ⟨edge, ?_, hstart⟩
      cases front with
      | nil => exact absurd hmem List.not_mem_nil
      | cons next front => exact List.mem_cons_of_mem (first, next) hedge

/-- A vertex of a closed ring starts one of its edges. -/
theorem exists_edge_from {topology : Ring} (h : topologyRing ring = some topology)
    (hvertex : vertex ∈ topology) : ∃ edge ∈ ringSegments topology, edge.1 = vertex := by
  obtain ⟨first, rest, rfl, -⟩ := topologyRing_eq h
  apply exists_segment_from
  rcases List.mem_append.mp hvertex with hmem | hmem
  · exact hmem
  · rw [List.mem_singleton.mp hmem]
    exact List.mem_cons_self

/-! ### Holes and polygons -/

/-- The holes that follow a hole are apart from it, both ways. -/
structure HolesDisjoint (hole other : Ring) : Prop where
  apart : RingsApart hole other
  outside : pointInRingStrictWithin 0 (hole.headD (0, 0)) other = false
  outside' : pointInRingStrictWithin 0 (other.headD (0, 0)) hole = false

theorem RingsApart.symm (h : RingsApart ring other) : RingsApart other ring := by
  rintro edge hedge edge' hedge' ⟨z, hz, hz'⟩
  exact h edge' hedge' edge hedge ⟨z, hz', hz⟩

theorem HolesDisjoint.symm (h : HolesDisjoint ring other) : HolesDisjoint other ring :=
  ⟨h.apart.symm, h.outside', h.outside⟩

theorem holesDisjoint_of_holesApartWithin {holes : List Ring}
    (h : holesApartWithin 0 holes = true) : holes.Pairwise HolesDisjoint := by
  apply (pairwise_of_holesApartWithin h).imp
  rintro hole other ⟨hnone, hout, hout'⟩
  exact ⟨ringsInteractWithin_zero hnone, hout, hout'⟩

theorem getElem?_of_mapM {α β : Type} {f : α → Option β} {l : List α} {made : List β}
    (h : l.mapM f = some made) {index : ℕ} {a : α} (ha : l[index]? = some a) :
    ∃ b, f a = some b ∧ made[index]? = some b := by
  induction l generalizing made index with
  | nil => cases ha
  | cons c l ih =>
    rw [List.mapM_cons] at h
    obtain ⟨b, hb, hrest⟩ := Option.bind_eq_some_iff.mp h
    obtain ⟨others, hothers, hmade⟩ := Option.bind_eq_some_iff.mp hrest
    cases hmade
    cases index with
    | zero =>
      cases ha
      exact ⟨b, hb, rfl⟩
    | succ index => exact ih hothers ha

theorem exists_of_mem_mapM {α β : Type} {f : α → Option β} {l : List α} {made : List β}
    (h : l.mapM f = some made) {b : β} (hb : b ∈ made) : ∃ a ∈ l, f a = some b := by
  induction l generalizing made with
  | nil =>
    cases h
    exact absurd hb List.not_mem_nil
  | cons a l ih =>
    rw [List.mapM_cons] at h
    obtain ⟨c, hc, hrest⟩ := Option.bind_eq_some_iff.mp h
    obtain ⟨others, hothers, hmade⟩ := Option.bind_eq_some_iff.mp hrest
    cases hmade
    cases List.mem_cons.mp hb with
    | inl heq => exact ⟨a, List.mem_cons_self, by rw [heq]; exact hc⟩
    | inr hmem =>
      obtain ⟨d, hd, hfd⟩ := ih hothers hmem
      exact ⟨d, List.mem_cons_of_mem a hd, hfd⟩

/-- Two places of a list whose elements are pairwise related, both ways. -/
theorem related_of_pairwise {α : Type} {R : α → α → Prop} {l : List α} (h : l.Pairwise R)
    (hsymm : ∀ a b, R a b → R b a) {i j : ℕ} (hij : i ≠ j) {a b : α} (ha : l[i]? = some a)
    (hb : l[j]? = some b) : R a b := by
  obtain ⟨hi, rfl⟩ := List.getElem?_eq_some_iff.mp ha
  obtain ⟨hj, rfl⟩ := List.getElem?_eq_some_iff.mp hb
  rw [List.pairwise_iff_getElem] at h
  rcases lt_or_gt_of_ne hij with hlt | hlt
  · exact h i j hi hj hlt
  · exact hsymm _ _ (h j i hj hi hlt)

theorem hole_vertex_outside {shell hole other topology : Ring} {holes : List Ring}
    (h : validPolygonTopologyWithin 0 shell holes = true) {i j : ℕ} (hij : i ≠ j)
    (hhole : holes[i]? = some hole) (hother : holes[j]? = some other)
    (hvertex : vertex ∈ hole.dropLast) (htopology : topologyRing other = some topology) :
    pointInRingStrictWithin 0 vertex topology = false ∧ ¬ OnRing vertex topology := by
  unfold validPolygonTopologyWithin at h
  cases hshell : topologyRing shell with
  | none =>
    rw [hshell] at h
    cases h
  | some shellRing =>
    cases hmade : holes.mapM topologyRing with
    | none =>
      rw [hshell, hmade] at h
      cases h
    | some holeRings =>
      rw [hshell, hmade] at h
      simp only [Bool.and_eq_true] at h
      obtain ⟨holeRing, hholeRing, hi⟩ := getElem?_of_mapM hmade hhole
      obtain ⟨otherRing, hotherRing, hj⟩ := getElem?_of_mapM hmade hother
      rw [htopology] at hotherRing
      cases hotherRing
      have hdisjoint := related_of_pairwise (holesDisjoint_of_holesApartWithin h.2)
        (fun _ _ => HolesDisjoint.symm) hij hi hj
      have hmem : vertex ∈ holeRing := (mem_topologyRing hholeRing).mpr hvertex
      constructor
      · rw [inside_eq_of_polyline (closed_topologyRing htopology) hdisjoint.apart (Or.inl hmem)
          (onPolyline_headD hmem (0, 0))]
        exact hdisjoint.outside
      · rintro ⟨edge, hedge, hon⟩
        obtain ⟨own, hown, rfl⟩ := exists_edge_from hholeRing hmem
        exact hdisjoint.apart own hown edge hedge ⟨own.1, onSegment_left own.1 own.2, hon⟩

/-- Polygons that are apart, both ways. -/
structure PolygonsDisjoint (polygon other : List Ring) : Prop where
  apart : ∀ ring ∈ polygon, ∀ ring' ∈ other, RingsApart ring ring'
  outside : pointInPolygonSurfaceWithin 0 ((polygon.headD []).headD (0, 0)) other = false
  outside' : pointInPolygonSurfaceWithin 0 ((other.headD []).headD (0, 0)) polygon = false

theorem PolygonsDisjoint.symm {polygon other : List Ring} (h : PolygonsDisjoint polygon other) :
    PolygonsDisjoint other polygon :=
  ⟨fun ring hring ring' hring' => (h.apart ring' hring' ring hring).symm, h.outside', h.outside⟩

theorem polygonsDisjoint_of_allPolygonsApartWithin {polygons : List (List Ring)}
    (h : allPolygonsApartWithin 0 polygons = true) : polygons.Pairwise PolygonsDisjoint := by
  apply (pairwise_of_allPolygonsApartWithin h).imp
  rintro polygon other ⟨hnone, hout, hout'⟩
  refine ⟨?_, hout, hout'⟩
  intro ring hring ring' hring'
  exact ringsInteractWithin_zero (hnone ring hring ring' hring')

/-- Points that are inside the same rings lie on the same surfaces. -/
theorem surface_eq {polygon : List Ring}
    (h : ∀ ring ∈ polygon, pointInRingStrictWithin 0 p ring = pointInRingStrictWithin 0 q ring) :
    pointInPolygonSurfaceWithin 0 p polygon = pointInPolygonSurfaceWithin 0 q polygon := by
  cases polygon with
  | nil => rfl
  | cons shell holes =>
    have hholes : (holes.any fun hole => pointInRingStrictWithin 0 p hole) =
        holes.any fun hole => pointInRingStrictWithin 0 q hole := by
      rw [Bool.eq_iff_iff, List.any_eq_true, List.any_eq_true]
      apply exists_congr
      intro hole
      apply and_congr_right
      intro hhole
      rw [h hole (List.mem_cons_of_mem shell hhole)]
    unfold pointInPolygonSurfaceWithin
    dsimp only
    rw [h shell List.mem_cons_self, hholes]

theorem shell_vertex_outside {polygons : List (List Ring)} {polygon other topology : List Ring}
    (h : validMultipolygonTopologyWithin 0 polygons = true) {i j : ℕ} (hij : i ≠ j)
    (hpolygon : polygons[i]? = some polygon) (hshell : polygon.head? = some shell)
    (hother : polygons[j]? = some other) (hvertex : vertex ∈ shell.dropLast)
    (htopology : other.mapM topologyRing = some topology) :
    pointInPolygonSurfaceWithin 0 vertex topology = false := by
  unfold validMultipolygonTopologyWithin at h
  cases hmade : polygons.mapM fun polygon => polygon.mapM topologyRing with
  | none =>
    rw [hmade] at h
    cases h
  | some topologyPolygons =>
    rw [hmade] at h
    obtain ⟨rings, hrings, hi⟩ := getElem?_of_mapM hmade hpolygon
    obtain ⟨otherRings, hotherRings, hj⟩ := getElem?_of_mapM hmade hother
    rw [htopology] at hotherRings
    cases hotherRings
    have hdisjoint := related_of_pairwise (polygonsDisjoint_of_allPolygonsApartWithin h)
      (fun _ _ => PolygonsDisjoint.symm) hij hi hj
    rw [List.head?_eq_getElem?] at hshell
    obtain ⟨shellRing, hshellRing, hfirst⟩ := getElem?_of_mapM hrings hshell
    rw [← List.head?_eq_getElem?] at hfirst
    have hhead : rings.headD [] = shellRing := by
      rw [List.headD_eq_head?_getD, hfirst]
      rfl
    have hmem : vertex ∈ shellRing := (mem_topologyRing hshellRing).mpr hvertex
    rw [← hdisjoint.outside, hhead]
    apply surface_eq
    intro ring hring
    obtain ⟨source, -, hclosed⟩ := exists_of_mem_mapM htopology hring
    exact inside_eq_of_polyline (closed_topologyRing hclosed)
      (hdisjoint.apart shellRing (List.mem_of_mem_head? hfirst) ring hring) (Or.inl hmem)
      (onPolyline_headD hmem (0, 0))

/-- Testing one vertex decides containment. -/
theorem one_vertex_decides :
    (∀ (ring : Ring) (polyline : List Point), Closed ring →
      (∀ segment ∈ ringSegments polyline, ∀ edge ∈ ringSegments ring, ¬ EdgesMeet segment edge) →
      ∀ p q, OnPolyline p polyline → OnPolyline q polyline →
        pointInRingStrictWithin 0 p ring = pointInRingStrictWithin 0 q ring) ∧
    (∀ shell holes, validPolygonTopologyWithin 0 shell holes = true →
      ∀ (i j : ℕ) (hole other topology : Ring), i ≠ j → holes[i]? = some hole →
        holes[j]? = some other → topologyRing other = some topology → ∀ vertex ∈ hole.dropLast,
          pointInRingStrictWithin 0 vertex topology = false ∧ ¬ OnRing vertex topology) ∧
    ∀ polygons, validMultipolygonTopologyWithin 0 polygons = true →
      ∀ (i j : ℕ) (polygon other topology : List Ring) (shell : Ring), i ≠ j →
        polygons[i]? = some polygon → polygon.head? = some shell → polygons[j]? = some other →
        other.mapM topologyRing = some topology → ∀ vertex ∈ shell.dropLast,
          pointInPolygonSurfaceWithin 0 vertex topology = false := by
  refine ⟨?_, ?_, ?_⟩
  · intro ring polyline hclosed hapart p q hp hq
    exact inside_eq_of_polyline hclosed hapart hp hq
  · intro shell holes h i j hole other topology hij hhole hother htopology vertex hvertex
    exact hole_vertex_outside h hij hhole hother hvertex htopology
  · intro polygons h i j polygon other topology shell hij hpolygon hshell hother htopology vertex
      hvertex
    exact shell_vertex_outside h hij hpolygon hshell hother hvertex htopology

def secondIsland : Ring :=
  [(121 + 3 / 4, 24 + 1 / 2), (121 + 3 / 4, 24 + 3 / 4), (121 + 1 / 2, 24 + 3 / 4),
    (121 + 3 / 4, 24 + 1 / 2)]

/-- A lake with two islands, and a lake and an island that is not in it. -/
theorem islands_outside_each_other :
    pointInRingStrictWithin 0 (121 + 1 / 4, 24 + 1 / 4) lakeShore =
        pointInRingStrictWithin 0 (121 + 1 / 2, 24 + 1 / 4) lakeShore ∧
      (pointInRingStrictWithin 0 (121 + 1 / 2, 24 + 1 / 4) secondIsland = false ∧
        ¬ OnRing (121 + 1 / 2, 24 + 1 / 4) secondIsland) ∧
      pointInPolygonSurfaceWithin 0 (121 + 1 / 2, 24 + 1 / 4) [secondIsland] = false := by
  refine ⟨?_, ?_, ?_⟩
  · apply one_vertex_decides.1 lakeShore lakeIsland rfl
    · exact ringsInteractWithin_zero (by decide +kernel)
    · exact Or.inl List.mem_cons_self
    · exact Or.inl (List.mem_cons_of_mem _ List.mem_cons_self)
  · exact one_vertex_decides.2.1 lakeShore [lakeIsland, secondIsland] (by decide +kernel) 0 1
      lakeIsland secondIsland secondIsland (by decide) rfl rfl (by decide +kernel) _
      (List.mem_cons_of_mem _ List.mem_cons_self)
  · exact one_vertex_decides.2.2 [[lakeIsland], [secondIsland]] (by decide +kernel) 0 1
      [lakeIsland] [secondIsland] [secondIsland] lakeIsland (by decide) rfl rfl rfl
      (by decide +kernel) _ (List.mem_cons_of_mem _ List.mem_cons_self)

end FloodRisk.WraHistorical
