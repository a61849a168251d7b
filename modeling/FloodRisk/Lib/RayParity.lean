import FloodRisk.Lib.Segments

/-! # The parity of the crossings of a ray

A point is inside a closed ring where the ray to its right crosses an odd number of edges; an
end of an edge counts as above the ray when it is strictly above. The parity does not change
along a segment that meets no edge. -/

namespace RayParity
open Segments

variable {K : Type*} [Field K] {a b c d p q : K × K} {y : K}

/-- Where the line of a segment is at a height. -/
def xAt (a b : K × K) (y : K) : K := a.1 + (y - a.2) * (b.1 - a.1) / (b.2 - a.2)

theorem xAt_swap (h : a.2 ≠ b.2) (y : K) : xAt b a y = xAt a b y := by
  unfold xAt
  have hab : a.2 - b.2 ≠ 0 := sub_ne_zero.mpr h
  have hba : b.2 - a.2 ≠ 0 := sub_ne_zero.mpr h.symm
  field_simp
  ring

theorem xor_eq_false_iff {x y : Bool} : (x ^^ y) = false ↔ x = y := by
  cases x <;> cases y <;> simp

variable [LinearOrder K]

def rayCrosses (p a b : K × K) : Bool :=
  (decide (a.2 > p.2) != decide (b.2 > p.2)) && decide (xAt a b p.2 > p.1)

/-- An odd number of the edges is crossed. -/
def oddCrossings (p : K × K) (edges : List ((K × K) × K × K)) : Bool :=
  edges.foldr (fun edge odd => rayCrosses p edge.1 edge.2 ^^ odd) false

theorem rayCrosses_swap (p a b : K × K) : rayCrosses p b a = rayCrosses p a b := by
  unfold rayCrosses
  by_cases h : a.2 = b.2
  · rw [h]
    simp
  · rw [xAt_swap h]
    cases decide (a.2 > p.2) <;> cases decide (b.2 > p.2) <;> rfl

theorem rayCrosses_of_above (ha : p.2 < a.2) (hb : p.2 < b.2) : rayCrosses p a b = false := by
  simp [rayCrosses, ha, hb]

theorem rayCrosses_of_below (ha : a.2 ≤ p.2) (hb : b.2 ≤ p.2) : rayCrosses p a b = false := by
  simp [rayCrosses, not_lt.mpr ha, not_lt.mpr hb]

theorem rayCrosses_of_between (ha : a.2 ≤ p.2) (hb : p.2 < b.2) :
    rayCrosses p a b = decide (p.1 < xAt a b p.2) := by
  simp [rayCrosses, ha, hb]

/-- The points between the rays of two points, to the right of the segment between these. -/
def inStrip (p q c : K × K) : Bool :=
  decide (p.2 < c.2) && decide (c.2 ≤ q.2) && decide (orientation p q c < 0)

theorem inStrip_of_below (h : c.2 ≤ p.2) : inStrip p q c = false := by
  simp [inStrip, h]

theorem inStrip_of_above (h : q.2 < c.2) : inStrip p q c = false := by
  simp [inStrip, h]

theorem inStrip_of_between (h : p.2 < c.2) (h' : c.2 ≤ q.2) :
    inStrip p q c = decide (orientation p q c < 0) := by
  simp [inStrip, h, h']

/-! ### One edge -/

variable [IsStrictOrderedRing K]

theorem onSegment_xAt (hlt : a.2 < b.2) (ha : a.2 ≤ y) (hb : y ≤ b.2) :
    OnSegment (xAt a b y, y) a b := by
  have hpos : 0 < b.2 - a.2 := sub_pos.mpr hlt
  refine ⟨(y - a.2) / (b.2 - a.2), div_nonneg (sub_nonneg.mpr ha) hpos.le,
    (div_le_one hpos).mpr (by linarith), Prod.ext ?_ ?_⟩
  · simp only [along, xAt]
    ring
  · simp only [along]
    field_simp
    ring

/-- A part of a part of a segment. -/
theorem onSegment_trans {z : K × K} (hc : OnSegment c a b) (hd : OnSegment d a b)
    (hz : OnSegment z c d) : OnSegment z a b := by
  obtain ⟨s, hs0, hs1, rfl⟩ := hc
  obtain ⟨t, ht0, ht1, rfl⟩ := hd
  obtain ⟨u, hu0, hu1, rfl⟩ := hz
  have hrest : 0 ≤ 1 - u := sub_nonneg.mpr hu1
  refine ⟨(1 - u) * s + u * t, add_nonneg (mul_nonneg hrest hs0) (mul_nonneg hu0 ht0), ?_,
    Prod.ext ?_ ?_⟩
  · have hleft := mul_le_mul_of_nonneg_left hs1 hrest
    have hright := mul_le_mul_of_nonneg_left ht1 hu0
    linarith
  · simp only [along]
    ring
  · simp only [along]
    ring

theorem not_meet_of_parts (h : ¬ Meet p q a b) (hc : OnSegment c a b) (hd : OnSegment d a b) :
    ¬ Meet p q c d := by
  rintro ⟨z, hz, hz'⟩
  exact h ⟨z, hz, onSegment_trans hc hd hz'⟩

theorem height_between {z : K × K} (hz : OnSegment z c d) {low high : K} (hc : low ≤ c.2)
    (hc' : c.2 ≤ high) (hd : low ≤ d.2) (hd' : d.2 ≤ high) : low ≤ z.2 ∧ z.2 ≤ high := by
  obtain ⟨t, ht0, ht1, rfl⟩ := hz
  have hrest : 0 ≤ 1 - t := sub_nonneg.mpr ht1
  have hheight : (along c d t).2 = (1 - t) * c.2 + t * d.2 := by
    simp only [along]
    ring
  have h1 := mul_le_mul_of_nonneg_left hc hrest
  have h2 := mul_le_mul_of_nonneg_left hd ht0
  have h3 := mul_le_mul_of_nonneg_left hc' hrest
  have h4 := mul_le_mul_of_nonneg_left hd' ht0
  rw [hheight]
  constructor
  · linarith
  · linarith

/-- On the line of a segment, at a height between those of its ends. -/
theorem onSegment_of_height {z : K × K} (hlt : p.2 < q.2) (hline : orientation p q z = 0)
    (hp : p.2 ≤ z.2) (hq : z.2 ≤ q.2) : OnSegment z p q := by
  have hpos : 0 < q.2 - p.2 := sub_pos.mpr hlt
  refine ⟨(z.2 - p.2) / (q.2 - p.2), div_nonneg (sub_nonneg.mpr hp) hpos.le,
    (div_le_one hpos).mpr (by linarith), Prod.ext ?_ ?_⟩
  · unfold orientation at hline
    simp only [along]
    field_simp
    linear_combination -hline
  · simp only [along]
    field_simp
    ring

/-- Points on the two sides of a segment, at heights between those of its ends. -/
theorem meet_of_sides (hlt : p.2 < q.2) (hc : p.2 ≤ c.2) (hc' : c.2 ≤ q.2) (hd : p.2 ≤ d.2)
    (hd' : d.2 ≤ q.2) (hright : orientation p q c < 0) (hleft : 0 ≤ orientation p q d) :
    Meet p q c d := by
  have hpos : 0 < orientation p q d - orientation p q c := by linarith
  have hz : OnSegment
      (along c d (-orientation p q c / (orientation p q d - orientation p q c))) c d := by
    refine ⟨_, div_nonneg (by linarith) hpos.le, (div_le_one hpos).mpr (by linarith), rfl⟩
  refine ⟨_, onSegment_of_height hlt ?_ (height_between hz hc hc' hd hd').1
    (height_between hz hc hc' hd hd').2, hz⟩
  rw [orientation_along]
  field_simp
  ring

theorem same_side (hlt : p.2 < q.2) (hc : p.2 ≤ c.2) (hc' : c.2 ≤ q.2) (hd : p.2 ≤ d.2)
    (hd' : d.2 ≤ q.2) (hcd : ¬ Meet p q c d) :
    orientation p q c < 0 ↔ orientation p q d < 0 := by
  constructor
  · intro hright
    by_contra hleft
    exact hcd (meet_of_sides hlt hc hc' hd hd' hright (not_lt.mp hleft))
  · intro hright
    by_contra hleft
    obtain ⟨z, hz, hz'⟩ := meet_of_sides hlt hd hd' hc hc' hright (not_lt.mp hleft)
    exact hcd ⟨z, hz, onSegment_swap hz'⟩

theorem right_at_start (hlt : p.2 < q.2) (x : K) : orientation p q (x, p.2) < 0 ↔ p.1 < x := by
  have hpos : 0 < q.2 - p.2 := sub_pos.mpr hlt
  have hvalue : orientation p q (x, p.2) = -((q.2 - p.2) * (x - p.1)) := by
    unfold orientation
    ring
  rw [hvalue, neg_lt_zero, mul_pos_iff_of_pos_left hpos, sub_pos]

theorem right_at_end (hlt : p.2 < q.2) (x : K) : orientation p q (x, q.2) < 0 ↔ q.1 < x := by
  have hpos : 0 < q.2 - p.2 := sub_pos.mpr hlt
  have hvalue : orientation p q (x, q.2) = -((q.2 - p.2) * (x - q.1)) := by
    unfold orientation
    ring
  rw [hvalue, neg_lt_zero, mul_pos_iff_of_pos_left hpos, sub_pos]

/-- At one height, a point between two others is on the segment between these. -/
theorem level_side (hlevel : p.2 = q.2) {x : K} (h : ¬ OnSegment (x, p.2) p q) :
    p.1 < x ↔ q.1 < x := by
  have hbetween : ∀ {r s : K × K}, r.2 = s.2 → r.1 < x → x ≤ s.1 → OnSegment (x, r.2) r s := by
    intro r s hrs hr hs
    have hpos : 0 < s.1 - r.1 := by linarith
    refine ⟨(x - r.1) / (s.1 - r.1), div_nonneg (by linarith) hpos.le,
      (div_le_one hpos).mpr (by linarith), Prod.ext ?_ ?_⟩
    · simp only [along]
      field_simp
      ring
    · simp only [along]
      rw [hrs]
      ring
  constructor
  · intro hp
    by_contra hq
    exact h (hbetween hlevel hp (not_lt.mp hq))
  · intro hq
    by_contra hp
    apply h
    rw [hlevel]
    exact onSegment_swap (hbetween hlevel.symm hq (not_lt.mp hp))

/-- An edge that does not meet the segment crosses one of the rays of its ends more than the
other, exactly where it has one end in the strip. -/
theorem rayCrosses_xor_of_le (hpq : p.2 ≤ q.2) (hab : a.2 ≤ b.2) (h : ¬ Meet p q a b) :
    (rayCrosses p a b ^^ rayCrosses q a b) = (inStrip p q a ^^ inStrip p q b) := by
  by_cases hbp : b.2 ≤ p.2
  · rw [rayCrosses_of_below (hab.trans hbp) hbp,
      rayCrosses_of_below (hab.trans (hbp.trans hpq)) (hbp.trans hpq),
      inStrip_of_below (hab.trans hbp), inStrip_of_below hbp]
  by_cases hqa : q.2 < a.2
  · rw [rayCrosses_of_above (hpq.trans_lt hqa) (hpq.trans_lt (hqa.trans_le hab)),
      rayCrosses_of_above hqa (hqa.trans_le hab), inStrip_of_above hqa,
      inStrip_of_above (hqa.trans_le hab)]
  push Not at hbp hqa
  by_cases hap : a.2 ≤ p.2
  · have hlt : a.2 < b.2 := hap.trans_lt hbp
    have hstart := onSegment_xAt hlt hap hbp.le
    by_cases hbq : b.2 ≤ q.2
    · -- from below into the strip
      have hlevels : p.2 < q.2 := hbp.trans_le hbq
      rw [rayCrosses_of_between hap hbp, rayCrosses_of_below hqa hbq, inStrip_of_below hap,
        inStrip_of_between hbp hbq, Bool.xor_false, Bool.false_xor, decide_eq_decide,
        ← right_at_start hlevels]
      exact same_side hlevels le_rfl hlevels.le hbp.le hbq
        (not_meet_of_parts h hstart (onSegment_right a b))
    · -- through both heights
      push Not at hbq
      have hend := onSegment_xAt hlt hqa hbq.le
      rw [rayCrosses_of_between hap hbp, rayCrosses_of_between hqa hbq, inStrip_of_below hap,
        inStrip_of_above hbq, Bool.xor_false, xor_eq_false_iff, decide_eq_decide]
      rcases hpq.eq_or_lt with hlevel | hlevels
      · rw [← hlevel]
        exact level_side hlevel fun hmeet => h ⟨_, hmeet, hstart⟩
      · rw [← right_at_start hlevels, ← right_at_end hlevels]
        exact same_side hlevels le_rfl hlevels.le hlevels.le le_rfl
          (not_meet_of_parts h hstart hend)
  · push Not at hap
    have hlevels : p.2 < q.2 := hap.trans_le hqa
    by_cases hbq : b.2 ≤ q.2
    · -- inside the strip's heights
      rw [rayCrosses_of_above hap hbp, rayCrosses_of_below hqa hbq, inStrip_of_between hap hqa,
        inStrip_of_between hbp hbq, Bool.xor_false, eq_comm, xor_eq_false_iff,
        decide_eq_decide]
      exact same_side hlevels hap.le hqa hbp.le hbq h
    · -- out of the strip above
      push Not at hbq
      have hend := onSegment_xAt (hqa.trans_lt hbq) hqa hbq.le
      rw [rayCrosses_of_above hap hbp, rayCrosses_of_between hqa hbq, inStrip_of_between hap hqa,
        inStrip_of_above hbq, Bool.false_xor, Bool.xor_false, decide_eq_decide,
        ← right_at_end hlevels]
      exact same_side hlevels hlevels.le le_rfl hap.le hqa
        (not_meet_of_parts h hend (onSegment_left a b))

theorem rayCrosses_xor (hpq : p.2 ≤ q.2) (h : ¬ Meet p q a b) :
    (rayCrosses p a b ^^ rayCrosses q a b) = (inStrip p q a ^^ inStrip p q b) := by
  rcases le_total a.2 b.2 with hab | hba
  · exact rayCrosses_xor_of_le hpq hab h
  · have hswap : ¬ Meet p q b a := by
      rintro ⟨z, hz, hz'⟩
      exact h ⟨z, hz, onSegment_swap hz'⟩
    rw [← rayCrosses_swap p a b, ← rayCrosses_swap q a b, rayCrosses_xor_of_le hpq hba hswap,
      Bool.xor_comm]

/-! ### A closed ring -/

omit [IsStrictOrderedRing K] in
theorem oddCrossings_xor {f : K × K → Bool} {edges : List ((K × K) × K × K)}
    (h : ∀ edge ∈ edges, (rayCrosses p edge.1 edge.2 ^^ rayCrosses q edge.1 edge.2) =
      (f edge.1 ^^ f edge.2)) :
    (oddCrossings p edges ^^ oddCrossings q edges) =
      edges.foldr (fun edge odd => (f edge.1 ^^ f edge.2) ^^ odd) false := by
  induction edges with
  | nil => rfl
  | cons edge edges ih =>
    have hrest := ih fun other hother => h other (List.mem_cons_of_mem edge hother)
    have hfirst := h edge List.mem_cons_self
    unfold oddCrossings at hrest ⊢
    rw [List.foldr_cons, List.foldr_cons, List.foldr_cons, ← hrest, ← hfirst]
    simp only [Bool.xor_assoc, Bool.xor_left_comm]

/-- Along a path what is counted at both ends of every edge is left at its two ends. -/
theorem foldr_xor_path {α : Type*} (f : α → Bool) (a : α) (rest : List α) :
    ((a :: rest).zip rest).foldr (fun edge odd => (f edge.1 ^^ f edge.2) ^^ odd) false =
      (f a ^^ f ((a :: rest).getLast (List.cons_ne_nil a rest))) := by
  induction rest generalizing a with
  | nil => simp
  | cons b rest ih =>
    rw [List.zip_cons_cons, List.foldr_cons, ih b, List.getLast_cons (List.cons_ne_nil b rest)]
    simp only [Bool.xor_assoc, Bool.bne_self_left]

theorem oddCrossings_of_le {ring : List (K × K)} (hclosed : ring.head? = ring.getLast?)
    (hpq : p.2 ≤ q.2) (h : ∀ edge ∈ ring.zip ring.tail, ¬ Meet p q edge.1 edge.2) :
    oddCrossings p (ring.zip ring.tail) = oddCrossings q (ring.zip ring.tail) := by
  rw [← xor_eq_false_iff,
    oddCrossings_xor fun edge hedge => rayCrosses_xor hpq (h edge hedge)]
  cases ring with
  | nil => rfl
  | cons a rest =>
    rw [List.head?_cons, List.getLast?_eq_some_getLast (List.cons_ne_nil a rest)] at hclosed
    rw [List.tail_cons, foldr_xor_path, ← Option.some.inj hclosed, Bool.xor_self]

/-- Both ends of a segment that meets no edge are inside, or both outside. -/
theorem oddCrossings_eq {ring : List (K × K)} (hclosed : ring.head? = ring.getLast?)
    (h : ∀ edge ∈ ring.zip ring.tail, ¬ Meet p q edge.1 edge.2) :
    oddCrossings p (ring.zip ring.tail) = oddCrossings q (ring.zip ring.tail) := by
  rcases le_total p.2 q.2 with hpq | hqp
  · exact oddCrossings_of_le hclosed hpq h
  · refine (oddCrossings_of_le hclosed hqp fun edge hedge hmeet => ?_).symm
    obtain ⟨z, hz, hz'⟩ := hmeet
    exact h edge hedge ⟨z, onSegment_swap hz, hz'⟩

end RayParity
