import Mathlib.Data.List.Sort
import Mathlib.Data.String.Basic

/-! # `ORDER BY`, `LIMIT n` and `DISTINCT ON`

The first `n` rows of an order; rows that tie keep the order of the list. -/

variable {ρ κ ω : Type*}

def limitBy (before : ρ → ρ → Bool) (n : ℕ) (l : List ρ) : List ρ :=
  (l.insertionSort fun a b => before a b = true).take n

theorem mem_of_limitBy {before : ρ → ρ → Bool} {n : ℕ} {l : List ρ} {r : ρ}
    (h : r ∈ limitBy before n l) : r ∈ l :=
  (List.mem_insertionSort _).mp (List.mem_of_mem_take h)

theorem mem_limitBy_of_short {before : ρ → ρ → Bool} {n : ℕ} {l : List ρ}
    (short : (limitBy before n l).length < n) {r : ρ} (h : r ∈ l) : r ∈ limitBy before n l := by
  have hlength : (l.insertionSort fun a b => before a b = true).length ≤ n := by
    simp only [limitBy, List.length_take] at short
    omega
  rw [limitBy, List.take_of_length_le hlength]
  exact (List.mem_insertionSort _).mpr h

theorem nodup_map_limitBy {before : ρ → ρ → Bool} {n : ℕ} {l : List ρ} {f : ρ → κ}
    (distinct : (l.map f).Nodup) : ((limitBy before n l).map f).Nodup := by
  have hsorted : ((l.insertionSort fun a b => before a b = true).map f).Nodup :=
    ((List.perm_insertionSort (fun a b => before a b = true) l).map f).nodup_iff.mpr distinct
  exact (List.Sublist.map f (List.take_sublist n _)).nodup hsorted

/-- `ORDER BY` the columns of a key, compared as text. -/
def orderBy (key : ρ → List String) (l : List ρ) : List ρ :=
  l.insertionSort fun a b => key a ≤ key b

@[simp] theorem mem_orderBy {key : ρ → List String} {l : List ρ} {r : ρ} :
    r ∈ orderBy key l ↔ r ∈ l :=
  List.mem_insertionSort _

/-- `DISTINCT ON (key)` keeps the first row of each key. -/
def distinctBy [DecidableEq κ] (key : ρ → κ) : List ρ → List ρ
  | [] => []
  | r :: rest => r :: (distinctBy key rest).filter fun other => key other ≠ key r

theorem mem_of_distinctBy [DecidableEq κ] {key : ρ → κ} {l : List ρ} {r : ρ}
    (h : r ∈ distinctBy key l) : r ∈ l := by
  induction l with
  | nil => exact h
  | cons first rest ih =>
      rcases List.mem_cons.mp h with heq | hrest
      · exact heq ▸ List.mem_cons_self
      · exact List.mem_cons_of_mem first (ih (List.mem_of_mem_filter hrest))

theorem distinctBy_sublist [DecidableEq κ] (key : ρ → κ) (l : List ρ) :
    (distinctBy key l).Sublist l := by
  induction l with
  | nil => exact List.Sublist.slnil
  | cons first rest ih => exact (List.filter_sublist.trans ih).cons_cons first

/-! ### Positions in a total order -/

section TotalOrder

variable [LinearOrder ω] {order : ρ → ω}

/-- How many rows come before a row. -/
def rowsBefore (order : ρ → ω) (l : List ρ) (r : ρ) : ℕ :=
  (l.filter fun other => order other < order r).length

theorem mem_take_of_sorted {l : List ρ} (sorted : l.Pairwise fun a b => order a < order b) {n : ℕ}
    {r : ρ} : r ∈ l.take n ↔ r ∈ l ∧ rowsBefore order l r < n := by
  induction l generalizing n with
  | nil => simp
  | cons first rest ih =>
      obtain ⟨hfirst, hrest⟩ := List.pairwise_cons.mp sorted
      have hnone : rowsBefore order (first :: rest) first = 0 := by
        rw [rowsBefore, List.length_eq_zero_iff, List.filter_eq_nil_iff]
        intro other hother
        rcases List.mem_cons.mp hother with rfl | hlater
        · simp
        · simpa using (hfirst other hlater).le
      cases n with
      | zero => simp
      | succ n =>
          rw [List.take_succ_cons, List.mem_cons, List.mem_cons, ih hrest]
          have hlater : ∀ other ∈ rest,
              rowsBefore order (first :: rest) other = rowsBefore order rest other + 1 := by
            intro other hother
            rw [rowsBefore, List.filter_cons, if_pos (by simpa using hfirst other hother),
              List.length_cons]
            rfl
          constructor
          · rintro (rfl | ⟨hmem, hcount⟩)
            · exact ⟨Or.inl rfl, by omega⟩
            · exact ⟨Or.inr hmem, by rw [hlater r hmem]; omega⟩
          · rintro ⟨rfl | hmem, hcount⟩
            · exact Or.inl rfl
            · rw [hlater r hmem] at hcount
              exact Or.inr ⟨hmem, by omega⟩

theorem sorted_insertionSort {l : List ρ} (distinct : (l.map order).Nodup) :
    (l.insertionSort fun a b => order a ≤ order b).Pairwise fun a b => order a < order b := by
  have hsorted := List.pairwise_insertionSort (fun a b => order a ≤ order b) l
  have hnodup : ((l.insertionSort fun a b => order a ≤ order b).map order).Nodup :=
    ((List.perm_insertionSort (fun a b => order a ≤ order b) l).map order).nodup_iff.mpr distinct
  have hne := List.pairwise_map.mp hnodup
  exact hsorted.imp₂ (fun _ _ hle hne => lt_of_le_of_ne hle hne) hne

theorem rowsBefore_perm {l m : List ρ} (h : l.Perm m) (r : ρ) :
    rowsBefore order l r = rowsBefore order m r :=
  (h.filter _).length_eq

/-- `ORDER BY .. LIMIT n` keeps the rows that fewer than `n` rows come before. -/
theorem mem_limitBy_order {l : List ρ} (distinct : (l.map order).Nodup) {n : ℕ} {r : ρ} :
    r ∈ limitBy (fun a b => order a ≤ order b) n l ↔ r ∈ l ∧ rowsBefore order l r < n := by
  have hperm := List.perm_insertionSort (fun a b => order a ≤ order b) l
  have htake := mem_take_of_sorted (r := r) (n := n) (sorted_insertionSort distinct)
  rw [hperm.mem_iff, rowsBefore_perm hperm] at htake
  simpa only [limitBy, decide_eq_true_eq] using htake

theorem mem_distinctBy_sorted [DecidableEq κ] {key : ρ → κ} {l : List ρ}
    (sorted : l.Pairwise fun a b => order a < order b) {r : ρ} :
    r ∈ distinctBy key l ↔ r ∈ l ∧ ∀ other ∈ l, key other = key r → order r ≤ order other := by
  induction l with
  | nil => simp [distinctBy]
  | cons first rest ih =>
      obtain ⟨hfirst, hrest⟩ := List.pairwise_cons.mp sorted
      rw [distinctBy, List.mem_cons, List.mem_filter, ih hrest, List.mem_cons]
      constructor
      · rintro (rfl | ⟨⟨hmem, hleast⟩, hkey⟩)
        · refine ⟨Or.inl rfl, ?_⟩
          intro other hother _
          rcases List.mem_cons.mp hother with rfl | hlater
          · exact le_rfl
          · exact (hfirst other hlater).le
        · refine ⟨Or.inr hmem, ?_⟩
          intro other hother hsame
          rcases List.mem_cons.mp hother with rfl | hlater
          · exact absurd hsame.symm (of_decide_eq_true hkey)
          · exact hleast other hlater hsame
      · rintro ⟨rfl | hmem, hleast⟩
        · exact Or.inl rfl
        · refine Or.inr ⟨⟨hmem, fun other hother => hleast other (List.mem_cons_of_mem _ hother)⟩, ?_⟩
          refine decide_eq_true ?_
          intro hsame
          exact absurd (hleast first List.mem_cons_self hsame.symm) (not_le.mpr (hfirst r hmem))

/-- `DISTINCT ON` the key of the ordered rows keeps the first row of each key. -/
theorem mem_distinctBy_order [DecidableEq κ] {key : ρ → κ} {l : List ρ}
    (distinct : (l.map order).Nodup) {r : ρ} :
    r ∈ distinctBy key (l.insertionSort fun a b => order a ≤ order b) ↔
      r ∈ l ∧ ∀ other ∈ l, key other = key r → order r ≤ order other := by
  rw [mem_distinctBy_sorted (sorted_insertionSort distinct)]
  simp only [List.mem_insertionSort]

end TotalOrder
