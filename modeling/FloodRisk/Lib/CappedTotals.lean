import Mathlib.Algebra.Order.BigOperators.Group.List
import Mathlib.Algebra.Order.Monoid.Unbundled.MinMax
import Mathlib.Logic.Function.Basic

/-! # Running totals with a cap

A fold that keeps one total per key changes each total only by the elements of
its key.  A total that is capped after every element is the capped total of all
of them, whether the elements are added up or the largest of them counts. -/

namespace CappedTotals

theorem foldl_update {α κ β : Type*} [DecidableEq κ] (key : α → κ) (step : κ → β → α → β)
    (l : List α) (totals : κ → β) (k : κ) :
    l.foldl (fun t x => Function.update t (key x) (step (key x) (t (key x)) x)) totals k =
      (l.filter fun x => key x = k).foldl (step k) (totals k) := by
  induction l generalizing totals with
  | nil => rfl
  | cons x rest ih =>
    rw [List.foldl_cons, ih, List.filter_cons]
    by_cases h : key x = k
    · rw [if_pos (decide_eq_true h), List.foldl_cons, ← h, Function.update_self]
    · rw [if_neg (by simp [h]), Function.update_of_ne (Ne.symm h)]

variable {R : Type*} [LinearOrder R]

theorem foldl_min_max (cap : R) (l : List R) (start : R) :
    l.foldl (fun t x => min (max t x) cap) (min start cap) = min (l.foldl max start) cap := by
  induction l generalizing start with
  | nil => rfl
  | cons x rest ih =>
    have hstep : min (max (min start cap) x) cap = min (max start x) cap := by
      rw [max_min_distrib_right, min_assoc, min_eq_right (le_max_left cap x)]
    rw [List.foldl_cons, List.foldl_cons, hstep, ih]

theorem le_foldl_max (l : List R) (start : R) : start ≤ l.foldl max start := by
  induction l generalizing start with
  | nil => exact le_refl start
  | cons x rest ih => exact (le_max_left start x).trans (ih (max start x))

theorem foldl_max_mono (l : List R) {start other : R} (h : start ≤ other) :
    l.foldl max start ≤ l.foldl max other := by
  induction l generalizing start other with
  | nil => exact h
  | cons x rest ih => exact ih (max_le_max_right x h)

theorem le_foldl_max_of_mem {l : List R} {x : R} (h : x ∈ l) (start : R) :
    x ≤ l.foldl max start := by
  induction l generalizing start with
  | nil => exact absurd h List.not_mem_nil
  | cons y rest ih =>
    rcases List.mem_cons.mp h with rfl | hrest
    · exact (le_max_right start x).trans (le_foldl_max rest _)
    · exact ih hrest (max start y)

theorem foldl_max_le {l : List R} {start bound : R} (hstart : start ≤ bound)
    (h : ∀ x ∈ l, x ≤ bound) : l.foldl max start ≤ bound := by
  induction l generalizing start with
  | nil => exact hstart
  | cons y rest ih =>
    exact ih (max_le hstart (h y List.mem_cons_self))
      fun x hx => h x (List.mem_cons_of_mem y hx)

/-- A further copy of an element leaves the largest one as it is. -/
theorem foldl_max_cons_of_mem {l : List R} {x : R} (h : x ∈ l) (start : R) :
    (x :: l).foldl max start = l.foldl max start := by
  refine le_antisymm ?_ (foldl_max_mono l (le_max_left start x))
  rw [List.foldl_cons]
  exact foldl_max_le (max_le (le_foldl_max l start) (le_foldl_max_of_mem h start))
    fun y hy => le_foldl_max_of_mem hy start

theorem foldl_max_perm {l other : List R} (h : l.Perm other) (start : R) :
    l.foldl max start = other.foldl max start := by
  have hcomm : ∀ a x y : R, max (max a x) y = max (max a y) x := fun a x y => max_right_comm a x y
  exact h.foldl_eq' (fun x _ y _ a => hcomm a x y) start

variable [AddCommMonoid R] [IsOrderedAddMonoid R]

theorem foldl_min_add (cap : R) {l : List R} (h : ∀ x ∈ l, 0 ≤ x) (start : R) :
    l.foldl (fun t x => min (t + x) cap) (min start cap) = min (start + l.sum) cap := by
  induction l generalizing start with
  | nil => rw [List.foldl_nil, List.sum_nil, add_zero]
  | cons x rest ih =>
    have hx : 0 ≤ x := h x List.mem_cons_self
    have hcap : cap ≤ cap + x := le_add_of_nonneg_right hx
    have hstep : min (min start cap + x) cap = min (start + x) cap := by
      rw [← min_add_add_right, min_assoc, min_eq_right hcap]
    rw [List.foldl_cons, hstep, ih fun y hy => h y (List.mem_cons_of_mem x hy), List.sum_cons,
      add_assoc]

end CappedTotals
