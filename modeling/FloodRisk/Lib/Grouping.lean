import Mathlib.Algebra.BigOperators.Group.Finset.Piecewise
import Mathlib.Algebra.Order.BigOperators.Group.Finset
import Mathlib.Algebra.Order.Ring.Cast
import Mathlib.Data.List.Dedup
import Mathlib.Tactic.Linarith

/-! # `GROUP BY` and `FULL JOIN`

A join of the rows with the groups they make up repeats the value of a group for
each of its rows, so a sum over the join counts the value that often. -/

namespace Grouping

variable {α β κ R : Type*}

/-! ### The join -/

def groupBy [DecidableEq κ] (key : α → κ) (aggregate : List α → β) (l : List α) : List (κ × β) :=
  (l.map key).dedup.map fun k => (k, aggregate (l.filter fun x => key x = k))

/-- A row of the left side with what it meets. -/
def joinRow (x : α) : List β → List (Option α × Option β)
  | [] => [(some x, none)]
  | found => found.map fun y => (some x, some y)

/-- The rows of the left side with what they meet, then the rows of the right
side that meet none. -/
def fullJoin (meets : α → β → Bool) (left : List α) (right : List β) :
    List (Option α × Option β) :=
  left.flatMap (fun x => joinRow x (right.filter (meets x))) ++
    (right.filter fun y => left.all fun x => !meets x y).map fun y => (none, some y)

section Join

variable [DecidableEq κ] (key : α → κ) (aggregate : List α → β) {l : List α}

theorem filter_groupBy {x : α} (h : x ∈ l) :
    ((groupBy key aggregate l).filter fun group => group.1 = key x) =
      [(key x, aggregate (l.filter fun y => key y = key x))] := by
  have hone : ((l.map key).dedup.filter fun k => k = key x) = [key x] := by
    have hcount : (l.map key).dedup.count (key x) = 1 :=
      List.count_eq_one_of_mem (List.nodup_dedup _)
        (List.mem_dedup.mpr (List.mem_map_of_mem h))
    rw [List.filter_eq, hcount]
    rfl
  rw [groupBy, List.filter_map]
  show ((l.map key).dedup.filter fun k => decide (k = key x)).map _ = _
  rw [hone]
  rfl

/-- Every row meets its own group, and no group is without rows. -/
theorem fullJoin_groupBy (l : List α) :
    fullJoin (fun x group => group.1 = key x) l (groupBy key aggregate l) =
      l.map fun x => (some x, some (key x, aggregate (l.filter fun y => key y = key x))) := by
  have hunmatched : ((groupBy key aggregate l).filter fun group =>
      l.all fun x => !decide (group.1 = key x)) = [] := by
    rw [List.filter_eq_nil_iff]
    intro group hgroup hnone
    obtain ⟨k, hk, rfl⟩ := List.mem_map.mp hgroup
    obtain ⟨x, hx, heq⟩ := List.mem_map.mp (List.mem_dedup.mp hk)
    have hother := List.all_eq_true.mp hnone x hx
    simp [heq] at hother
  have hmatched : ∀ x ∈ l,
      joinRow x ((groupBy key aggregate l).filter fun group => group.1 = key x) =
        [(some x, some (key x, aggregate (l.filter fun y => key y = key x)))] := by
    intro x hx
    rw [filter_groupBy key aggregate hx]
    rfl
  rw [fullJoin, hunmatched, List.map_nil, List.append_nil, List.flatMap_congr hmatched,
    List.map_eq_flatMap]

end Join

/-! ### Sums -/

theorem sum_map_eq_sum_groups [DecidableEq κ] [AddCommMonoid R] (key : α → κ) (f : α → R)
    {keys : Finset κ} {l : List α} (h : ∀ x ∈ l, key x ∈ keys) :
    (l.map f).sum = ∑ k ∈ keys, ((l.filter fun x => key x = k).map f).sum := by
  induction l with
  | nil => simp
  | cons x rest ih =>
    have hgroup : ∀ k, (((x :: rest).filter fun y => key y = k).map f).sum =
        (if key x = k then f x else 0) + ((rest.filter fun y => key y = k).map f).sum := by
      intro k
      rw [List.filter_cons]
      by_cases hk : key x = k
      · rw [if_pos (decide_eq_true hk), if_pos hk, List.map_cons, List.sum_cons]
      · rw [if_neg (by simp [hk]), if_neg hk, zero_add]
    rw [List.map_cons, List.sum_cons, ih fun y hy => h y (List.mem_cons_of_mem x hy),
      Finset.sum_congr rfl fun k _ => hgroup k, Finset.sum_add_distrib, Finset.sum_ite_eq,
      if_pos (h x List.mem_cons_self)]

variable [CommRing R] [LinearOrder R] [IsStrictOrderedRing R]

/-- A capped sum does not notice that its terms are repeated exactly when it is
at the cap anyway or every term that counts stands once. -/
theorem min_sum_repeated_iff {keys : Finset κ} (times : κ → ℕ) (value : κ → R) (cap : R)
    (htimes : ∀ k ∈ keys, 1 ≤ times k) (hvalue : ∀ k ∈ keys, 0 ≤ value k) :
    min (∑ k ∈ keys, times k * value k) cap = min (∑ k ∈ keys, value k) cap ↔
      cap ≤ ∑ k ∈ keys, value k ∨ ∀ k ∈ keys, times k = 1 ∨ value k = 0 := by
  have hterm : ∀ k ∈ keys, value k ≤ times k * value k := by
    intro k hk
    have hone : (1 : R) ≤ times k := by exact_mod_cast htimes k hk
    nlinarith [hvalue k hk]
  have hsum := Finset.sum_le_sum hterm
  have hequal : (∑ k ∈ keys, value k = ∑ k ∈ keys, times k * value k) ↔
      ∀ k ∈ keys, times k = 1 ∨ value k = 0 := by
    rw [Finset.sum_eq_sum_iff_of_le hterm]
    refine forall₂_congr fun k _ => ?_
    constructor
    · intro heq
      have hfactor : ((times k : R) - 1) * value k = 0 := by
        rw [sub_mul, one_mul, ← heq, sub_self]
      rcases mul_eq_zero.mp hfactor with htime | hzero
      · left
        exact_mod_cast sub_eq_zero.mp htime
      · exact Or.inr hzero
    · rintro (hone | hzero)
      · rw [hone, Nat.cast_one, one_mul]
      · rw [hzero, mul_zero]
  rw [← hequal]
  constructor
  · intro hmin
    by_contra hnot
    obtain ⟨hbelow, hne⟩ := not_or.mp hnot
    have hlt := not_le.mp hbelow
    rw [min_eq_left hlt.le] at hmin
    rcases min_choice (∑ k ∈ keys, times k * value k) cap with hleft | hright
    · exact hne (hmin.symm.trans hleft)
    · exact absurd (hright.symm.trans hmin) (ne_of_gt hlt)
  · rintro (hcap | heq)
    · rw [min_eq_right hcap, min_eq_right (hcap.trans hsum)]
    · rw [heq]

end Grouping
