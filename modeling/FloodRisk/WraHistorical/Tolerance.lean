import FloodRisk.WraHistorical.RingTopology

/-!
# The geometry tests without a tolerance

With the tolerance 0 two edges interact exactly where they share a point.
-/

namespace FloodRisk.WraHistorical
open Segments

variable {edge other : Segment} {point start stop : Point} {ring : Ring}

/-- Between two different numbers. -/
theorem part_of_between {x y t : ℚ} (hne : x ≠ y) (h : min x y ≤ x + t * (y - x))
    (h' : x + t * (y - x) ≤ max x y) : 0 ≤ t ∧ t ≤ 1 := by
  rcases lt_or_gt_of_ne hne with hlt | hlt
  · rw [min_eq_left hlt.le] at h
    rw [max_eq_right hlt.le] at h'
    have hpos : 0 < y - x := sub_pos.mpr hlt
    constructor
    · by_contra hneg
      have hless := mul_neg_of_neg_of_pos (not_le.mp hneg) hpos
      linarith
    · by_contra hmore
      have hgreater := mul_lt_mul_of_pos_right (not_le.mp hmore) hpos
      linarith
  · rw [min_eq_right hlt.le] at h
    rw [max_eq_left hlt.le] at h'
    have hpos : 0 < x - y := sub_pos.mpr hlt
    constructor
    · by_contra hneg
      have hless := mul_neg_of_neg_of_pos (not_le.mp hneg) hpos
      linarith
    · by_contra hmore
      have hgreater := mul_lt_mul_of_pos_right (not_le.mp hmore) hpos
      linarith

theorem pointOnSegmentWithin_zero :
    pointOnSegmentWithin 0 point start stop = true ↔ OnSegment point start stop := by
  constructor
  · intro h
    simp only [pointOnSegmentWithin, sub_zero, add_zero, Bool.and_eq_true, Bool.not_eq_true',
      decide_eq_false_iff_not, decide_eq_true_eq, not_lt, abs_nonpos_iff] at h
    obtain ⟨hline, ⟨⟨hx, hx'⟩, hy⟩, hy'⟩ := h
    by_cases hne : start = stop
    · subst hne
      rw [min_self] at hx hy
      rw [max_self] at hx' hy'
      have hpoint : point = start := Prod.ext (le_antisymm hx' hx) (le_antisymm hy' hy)
      rw [hpoint]
      exact onSegment_left start start
    · obtain ⟨t, rfl⟩ := exists_along hne hline
      simp only [along] at hx hx' hy hy'
      by_cases hx0 : start.1 = stop.1
      · have hy0 : start.2 ≠ stop.2 := fun hy0 => hne (Prod.ext hx0 hy0)
        obtain ⟨ht0, ht1⟩ := part_of_between hy0 hy hy'
        exact ⟨t, ht0, ht1, rfl⟩
      · obtain ⟨ht0, ht1⟩ := part_of_between hx0 hx hx'
        exact ⟨t, ht0, ht1, rfl⟩
  · intro h
    have hzero := orientation_of_onSegment h
    obtain ⟨t, ht0, ht1, rfl⟩ := h
    obtain ⟨hx, hx'⟩ := @between_ends start.1 stop.1 t ht0 ht1
    obtain ⟨hy, hy'⟩ := @between_ends start.2 stop.2 t ht0 ht1
    unfold pointOnSegmentWithin
    rw [hzero, abs_zero, sub_zero, sub_zero, add_zero, add_zero]
    simp only [along]
    simp [hx, hx', hy, hy']

theorem opposite_of_ne_zero {x y : ℚ} (hx : x ≠ 0) (hy : y ≠ 0) :
    (decide (x > 0) != decide (y > 0)) = true ↔ x * y < 0 := by
  rw [mul_neg_iff, bne_iff_ne]
  rcases lt_or_gt_of_ne hx with hx | hx
  · rcases lt_or_gt_of_ne hy with hy | hy
    · simp [hx, hy, not_lt.mpr hx.le, not_lt.mpr hy.le]
    · simp [hx, hy, not_lt.mpr hx.le]
  · rcases lt_or_gt_of_ne hy with hy | hy
    · simp [hx, hy, not_lt.mpr hy.le]
    · simp [hx, hy, not_lt.mpr hx.le, not_lt.mpr hy.le]

theorem segmentsInteractWithin_zero :
    segmentsInteractWithin 0 edge other = true ↔ EdgesMeet edge other := by
  unfold EdgesMeet segmentsInteractWithin
  rw [meet_iff]
  dsimp only
  by_cases hclear : clearOfWithin 0 edge other = true
  · rw [if_pos hclear]
    simp only [clearOfWithin, orientations, List.all_cons, List.all_nil, Bool.and_true,
      Bool.and_eq_true, decide_eq_true_eq, abs_pos] at hclear
    obtain ⟨h0, h1, h2, h3⟩ := hclear
    rw [Bool.and_eq_true, opposite_of_ne_zero h0 h1, opposite_of_ne_zero h2 h3]
    constructor
    · intro hcross
      exact Or.inr hcross
    · rintro ((hend | hend | hend | hend) | hcross)
      · exact absurd (orientation_of_onSegment hend) h0
      · exact absurd (orientation_of_onSegment hend) h1
      · exact absurd (orientation_of_onSegment hend) h2
      · exact absurd (orientation_of_onSegment hend) h3
      · exact hcross
  · rw [if_neg hclear]
    simp only [Bool.or_eq_true, pointOnSegmentWithin_zero]
    constructor
    · rintro (((hend | hend) | hend) | hend)
      · exact Or.inl (Or.inl hend)
      · exact Or.inl (Or.inr (Or.inl hend))
      · exact Or.inl (Or.inr (Or.inr (Or.inl hend)))
      · exact Or.inl (Or.inr (Or.inr (Or.inr hend)))
    · rintro ((hend | hend | hend | hend) | hcross)
      · exact Or.inl (Or.inl (Or.inl hend))
      · exact Or.inl (Or.inl (Or.inr hend))
      · exact Or.inl (Or.inr hend)
      · exact Or.inr hend
      · apply absurd _ hclear
        simp only [clearOfWithin, orientations, List.all_cons, List.all_nil, Bool.and_true,
          Bool.and_eq_true, decide_eq_true_eq, abs_pos]
        exact ⟨left_ne_zero_of_mul hcross.1.ne, right_ne_zero_of_mul hcross.1.ne,
          left_ne_zero_of_mul hcross.2.ne, right_ne_zero_of_mul hcross.2.ne⟩

theorem ringsInteractWithin_zero {other : Ring} (h : ringsInteractWithin 0 ring other = false) :
    RingsApart ring other := by
  intro edge hedge edge' hedge' hmeet
  have hnone := List.any_eq_false.mp h edge hedge
  exact List.any_eq_false.mp (eq_false_of_ne_true hnone) edge' hedge'
    (segmentsInteractWithin_zero.mpr hmeet)

end FloodRisk.WraHistorical
