import Mathlib.Algebra.Order.Field.Basic
import Mathlib.Tactic.FieldSimp
import Mathlib.Tactic.Linarith
import Mathlib.Tactic.LinearCombination
import Mathlib.Tactic.Ring

/-! # Segments of the plane

Two closed segments meet in an end of one of them, or cross. -/

namespace Segments

variable {K : Type*} [Field K] {a b c d p q : K × K} {s t : K}

/-- Twice the signed area of a triangle. -/
def orientation (a b p : K × K) : K :=
  (b.1 - a.1) * (p.2 - a.2) - (b.2 - a.2) * (p.1 - a.1)

/-- The point at a part of the way. -/
def along (a b : K × K) (t : K) : K × K := (a.1 + t * (b.1 - a.1), a.2 + t * (b.2 - a.2))

@[simp] theorem along_zero (a b : K × K) : along a b 0 = a := by simp [along]

@[simp] theorem along_one (a b : K × K) : along a b 1 = b := by simp [along]

theorem orientation_rotate (a b c : K × K) : orientation b c a = orientation a b c := by
  unfold orientation
  ring

theorem orientation_along (a b c d : K × K) (t : K) :
    orientation a b (along c d t) = (1 - t) * orientation a b c + t * orientation a b d := by
  unfold orientation along
  ring

theorem orientation_self_along (a b : K × K) (t : K) : orientation a b (along a b t) = 0 := by
  unfold orientation along
  ring

/-- Both differences are the cross product of the two directions. -/
theorem orientation_differences (a b c d : K × K) :
    orientation a b d - orientation a b c = orientation c d a - orientation c d b := by
  unfold orientation
  ring

/-- A point on the line of two different points. -/
theorem exists_along (hne : a ≠ b) (h : orientation a b p = 0) : ∃ t, p = along a b t := by
  unfold orientation at h
  by_cases hx : b.1 - a.1 = 0
  · have hy : b.2 - a.2 ≠ 0 := by
      intro hy
      exact hne (Prod.ext (sub_eq_zero.mp hx).symm (sub_eq_zero.mp hy).symm)
    rw [hx, zero_mul, zero_sub, neg_eq_zero, mul_eq_zero, or_iff_right hy] at h
    refine ⟨(p.2 - a.2) / (b.2 - a.2), Prod.ext ?_ ?_⟩
    · simp only [along]
      rw [hx]
      linear_combination h
    · simp only [along]
      field_simp
      ring
  · refine ⟨(p.1 - a.1) / (b.1 - a.1), Prod.ext ?_ ?_⟩
    · simp only [along]
      field_simp
      ring
    · simp only [along]
      field_simp
      linear_combination h

/-! ### Closed segments -/

variable [LinearOrder K] [IsStrictOrderedRing K]

def OnSegment (p a b : K × K) : Prop := ∃ t, 0 ≤ t ∧ t ≤ 1 ∧ p = along a b t

def Meet (a b c d : K × K) : Prop := ∃ p, OnSegment p a b ∧ OnSegment p c d

/-- Each segment has its ends strictly on the two sides of the other. -/
def Crosses (a b c d : K × K) : Prop :=
  orientation a b c * orientation a b d < 0 ∧ orientation c d a * orientation c d b < 0

theorem onSegment_left (a b : K × K) : OnSegment a a b :=
  ⟨0, le_refl _, zero_le_one, (along_zero a b).symm⟩

theorem onSegment_right (a b : K × K) : OnSegment b a b :=
  ⟨1, zero_le_one, le_refl _, (along_one a b).symm⟩

theorem onSegment_swap (h : OnSegment p a b) : OnSegment p b a := by
  obtain ⟨t, hzero, hone, rfl⟩ := h
  refine ⟨1 - t, by linarith, by linarith, Prod.ext ?_ ?_⟩
  · simp only [along]
    ring
  · simp only [along]
    ring

omit [IsStrictOrderedRing K] in
theorem orientation_of_onSegment (h : OnSegment p a b) : orientation a b p = 0 := by
  obtain ⟨t, -, -, rfl⟩ := h
  exact orientation_self_along a b t

/-- Between two points of a line. -/
theorem onSegment_of_between {γ δ : K} (hγ : γ ≤ s) (hδ : s ≤ δ) :
    OnSegment (along a b s) (along a b γ) (along a b δ) := by
  rcases hγ.eq_or_lt with rfl | hlt
  · exact onSegment_left _ _
  · have hpos : 0 < δ - γ := by linarith
    refine ⟨(s - γ) / (δ - γ), div_nonneg (by linarith) hpos.le,
      (div_le_one hpos).mpr (by linarith), Prod.ext ?_ ?_⟩
    · simp only [along]
      field_simp
      ring
    · simp only [along]
      field_simp
      ring

/-- On one line, segments that meet do so in an end of one of them. -/
theorem end_of_meet_on_line (hne : a ≠ b) (hc : orientation a b c = 0)
    (hd : orientation a b d = 0) (h : Meet a b c d) :
    OnSegment c a b ∨ OnSegment d a b ∨ OnSegment a c d ∨ OnSegment b c d := by
  obtain ⟨γ, rfl⟩ := exists_along hne hc
  obtain ⟨δ, rfl⟩ := exists_along hne hd
  obtain ⟨p, ⟨t, ht0, ht1, rfl⟩, s, hs0, hs1, hp⟩ := h
  have hparam : t = γ + s * (δ - γ) := by
    have hzero : along a b t = along a b (γ + s * (δ - γ)) := by
      rw [hp]
      refine Prod.ext ?_ ?_
      · simp only [along]
        ring
      · simp only [along]
        ring
    by_contra hdiff
    apply hne
    have hx := congrArg Prod.fst hzero
    have hy := congrArg Prod.snd hzero
    simp only [along] at hx hy
    have hsub : t - (γ + s * (δ - γ)) ≠ 0 := sub_ne_zero.mpr hdiff
    refine Prod.ext ?_ ?_
    · have hmul : (t - (γ + s * (δ - γ))) * (b.1 - a.1) = 0 := by linear_combination hx
      have hzero' := (mul_eq_zero.mp hmul).resolve_left hsub
      linarith
    · have hmul : (t - (γ + s * (δ - γ))) * (b.2 - a.2) = 0 := by linear_combination hy
      have hzero' := (mul_eq_zero.mp hmul).resolve_left hsub
      linarith
  by_cases hγ : 0 ≤ γ ∧ γ ≤ 1
  · exact Or.inl ⟨γ, hγ.1, hγ.2, rfl⟩
  by_cases hδ : 0 ≤ δ ∧ δ ≤ 1
  · exact Or.inr (Or.inl ⟨δ, hδ.1, hδ.2, rfl⟩)
  -- Both ends lie outside, so on the two sides, and `a` lies between them.
  right
  right
  left
  have hbetween : γ ≤ 0 ∧ 0 ≤ δ ∨ δ ≤ 0 ∧ 0 ≤ γ := by
    rcases le_total γ δ with hle | hle
    · left
      constructor
      · by_contra hpos
        push Not at hpos
        have hbig : 1 < γ := by
          by_contra hsmall
          exact hγ ⟨hpos.le, not_lt.mp hsmall⟩
        nlinarith [mul_nonneg hs0 (sub_nonneg.mpr hle)]
      · by_contra hneg
        push Not at hneg
        nlinarith [mul_nonneg (sub_nonneg.mpr hs1) (sub_nonneg.mpr hle)]
    · right
      constructor
      · by_contra hpos
        push Not at hpos
        have hbig : 1 < δ := by
          by_contra hsmall
          exact hδ ⟨hpos.le, not_lt.mp hsmall⟩
        nlinarith [mul_nonneg (sub_nonneg.mpr hs1) (sub_nonneg.mpr hle)]
      · by_contra hneg
        push Not at hneg
        nlinarith [mul_nonneg hs0 (sub_nonneg.mpr hle)]
  have hzero : along a b 0 = a := along_zero a b
  rcases hbetween with ⟨hle, hge⟩ | ⟨hle, hge⟩
  · rw [← hzero]
    simpa using onSegment_of_between hle hge
  · rw [← hzero]
    simpa using onSegment_swap (onSegment_of_between hle hge)

/-- Values on the two sides of zero. -/
theorem mul_neg_of_combination {x y : K} (ht0 : 0 < t) (ht1 : t < 1)
    (h : (1 - t) * x + t * y = 0) (hne : x ≠ 0 ∨ y ≠ 0) : x * y < 0 := by
  have hpos : 0 < 1 - t := by linarith
  have hx : x ≠ 0 := by
    rintro rfl
    rcases hne with hne | hne
    · exact hne rfl
    · have hy : t * y = 0 := by linarith
      exact hne ((mul_eq_zero.mp hy).resolve_left ht0.ne')
  have hprod : t * (x * y) = -((1 - t) * (x * x)) := by linear_combination x * h
  have hsquare : 0 < (1 - t) * (x * x) := mul_pos hpos (mul_self_pos.mpr hx)
  by_contra hge
  push Not at hge
  have hnonneg := mul_nonneg ht0.le hge
  linarith

/-- The part of the way at which a line is crossed. -/
theorem part_of_opposite {x y : K} (h : x * y < 0) :
    x - y ≠ 0 ∧ 0 ≤ x / (x - y) ∧ x / (x - y) ≤ 1 := by
  rcases mul_neg_iff.mp h with ⟨hx, hy⟩ | ⟨hx, hy⟩
  · have hpos : 0 < x - y := by linarith
    exact ⟨hpos.ne', div_nonneg hx.le hpos.le, (div_le_one hpos).mpr (by linarith)⟩
  · have hneg : x - y < 0 := by linarith
    exact ⟨hneg.ne, div_nonneg_of_nonpos hx.le hneg.le, (div_le_one_of_neg hneg).mpr (by linarith)⟩

theorem meet_of_crosses (h : Crosses a b c d) : Meet a b c d := by
  obtain ⟨hab, hcd⟩ := h
  obtain ⟨hne, hzero, hone⟩ := part_of_opposite hcd
  obtain ⟨hne', hzero', hone'⟩ := part_of_opposite hab
  refine ⟨along a b (orientation c d a / (orientation c d a - orientation c d b)),
    ⟨_, hzero, hone, rfl⟩, _, hzero', hone', ?_⟩
  have hsame : orientation a b c - orientation a b d =
      -(orientation c d a - orientation c d b) := by
    rw [← orientation_differences]
    ring
  rw [hsame, div_neg]
  refine Prod.ext ?_ ?_
  · simp only [along]
    field_simp
    unfold orientation
    ring
  · simp only [along]
    field_simp
    unfold orientation
    ring

/-- The ways in which two segments meet. -/
theorem meet_iff : Meet a b c d ↔
    (OnSegment c a b ∨ OnSegment d a b ∨ OnSegment a c d ∨ OnSegment b c d) ∨ Crosses a b c d := by
  constructor
  · intro h
    by_cases hline : orientation a b c = 0 ∧ orientation a b d = 0
    · left
      by_cases hne : a = b
      · subst hne
        obtain ⟨p, ⟨t, -, -, rfl⟩, hcd⟩ := h
        have hpoint : along a a t = a := by simp [along]
        rw [hpoint] at hcd
        exact Or.inr (Or.inr (Or.inl hcd))
      · exact end_of_meet_on_line hne hline.1 hline.2 h
    · obtain ⟨p, ⟨t, ht0, ht1, hp⟩, s, hs0, hs1, hp'⟩ := h
      rcases hs0.eq_or_lt with rfl | hs0
      · rw [along_zero] at hp'
        exact Or.inl (Or.inl ⟨t, ht0, ht1, hp' ▸ hp⟩)
      rcases hs1.eq_or_lt with rfl | hs1
      · rw [along_one] at hp'
        exact Or.inl (Or.inr (Or.inl ⟨t, ht0, ht1, hp' ▸ hp⟩))
      rcases ht0.eq_or_lt with rfl | ht0
      · rw [along_zero] at hp
        exact Or.inl (Or.inr (Or.inr (Or.inl ⟨s, hs0.le, hs1.le, hp ▸ hp'⟩)))
      rcases ht1.eq_or_lt with rfl | ht1
      · rw [along_one] at hp
        exact Or.inl (Or.inr (Or.inr (Or.inr ⟨s, hs0.le, hs1.le, hp ▸ hp'⟩)))
      right
      have hab : (1 - s) * orientation a b c + s * orientation a b d = 0 := by
        rw [← orientation_along, ← hp', hp, orientation_self_along]
      have hcd : (1 - t) * orientation c d a + t * orientation c d b = 0 := by
        rw [← orientation_along, ← hp, hp', orientation_self_along]
      have hcross : orientation a b c * orientation a b d < 0 := by
        apply mul_neg_of_combination hs0 hs1 hab
        by_contra hzero
        push Not at hzero
        exact hline hzero
      refine ⟨hcross, mul_neg_of_combination ht0 ht1 hcd ?_⟩
      by_contra hzero
      push Not at hzero
      have hdiff := orientation_differences a b c d
      rw [hzero.1, hzero.2, sub_zero, sub_eq_zero] at hdiff
      rw [hdiff] at hcross
      exact absurd (mul_self_nonneg _) (not_le.mpr hcross)
  · rintro ((h | h | h | h) | h)
    · exact ⟨c, h, onSegment_left c d⟩
    · exact ⟨d, h, onSegment_right c d⟩
    · exact ⟨a, onSegment_left a b, h⟩
    · exact ⟨b, onSegment_right a b, h⟩
    · exact meet_of_crosses h

/-- Segments from one point that share another one lie on each other. -/
theorem onSegment_of_fold (hab : OnSegment q c a) (hbc : OnSegment q c b) (hne : q ≠ c) :
    OnSegment b c a ∨ OnSegment a c b := by
  obtain ⟨t, ht0, ht1, hq⟩ := hab
  obtain ⟨s, hs0, hs1, hq'⟩ := hbc
  have hx : t * (a.1 - c.1) = s * (b.1 - c.1) := by
    have hfst := congrArg Prod.fst (hq.symm.trans hq')
    simp only [along] at hfst
    linarith
  have hy : t * (a.2 - c.2) = s * (b.2 - c.2) := by
    have hsnd := congrArg Prod.snd (hq.symm.trans hq')
    simp only [along] at hsnd
    linarith
  have htne : t ≠ 0 := by
    rintro rfl
    exact hne (by rw [hq, along_zero])
  have hsne : s ≠ 0 := by
    rintro rfl
    exact hne (by rw [hq', along_zero])
  rcases le_total t s with hle | hle
  · left
    refine ⟨t / s, div_nonneg ht0 hs0, div_le_one_of_le₀ hle hs0, Prod.ext ?_ ?_⟩
    · simp only [along]
      field_simp
      linear_combination -hx
    · simp only [along]
      field_simp
      linear_combination -hy
  · right
    refine ⟨s / t, div_nonneg hs0 ht0, div_le_one_of_le₀ hle ht0, Prod.ext ?_ ?_⟩
    · simp only [along]
      field_simp
      linear_combination hx
    · simp only [along]
      field_simp
      linear_combination hy

end Segments
