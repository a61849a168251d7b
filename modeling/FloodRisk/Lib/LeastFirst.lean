import FloodRisk.Lib.OrderBy
import Mathlib.Order.Bounds.Basic

/-! # The first row of an order with ties

`DISTINCT ON` and `LIMIT 1` when different rows may stand at one place of the
order as long as they are equal, or as long as only their place is read. -/

variable {ρ κ ω : Type*} [LinearOrder ω] {order : ρ → ω}

theorem mem_distinctBy_of_ties [DecidableEq κ] {key : ρ → κ} {l : List ρ}
    (sorted : l.Pairwise fun a b => order a ≤ order b)
    (ties : ∀ a ∈ l, ∀ b ∈ l, order a = order b → a = b) {r : ρ} :
    r ∈ distinctBy key l ↔ r ∈ l ∧ ∀ other ∈ l, key other = key r → order r ≤ order other := by
  induction l with
  | nil => simp [distinctBy]
  | cons first rest ih =>
      obtain ⟨hfirst, hrest⟩ := List.pairwise_cons.mp sorted
      have htail : ∀ a ∈ rest, ∀ b ∈ rest, order a = order b → a = b := fun a ha b hb =>
        ties a (List.mem_cons_of_mem first ha) b (List.mem_cons_of_mem first hb)
      rw [distinctBy, List.mem_cons, List.mem_filter, ih hrest htail, List.mem_cons]
      constructor
      · rintro (rfl | ⟨⟨hmem, hleast⟩, hkey⟩)
        · refine ⟨Or.inl rfl, ?_⟩
          intro other hother _
          rcases List.mem_cons.mp hother with rfl | hlater
          · exact le_rfl
          · exact hfirst other hlater
        · refine ⟨Or.inr hmem, ?_⟩
          intro other hother hsame
          rcases List.mem_cons.mp hother with rfl | hlater
          · exact absurd hsame.symm (of_decide_eq_true hkey)
          · exact hleast other hlater hsame
      · rintro ⟨rfl | hmem, hleast⟩
        · exact Or.inl rfl
        by_cases hsame : key first = key r
        · have heq : order r = order first :=
            le_antisymm (hleast first List.mem_cons_self hsame) (hfirst r hmem)
          exact Or.inl (ties r (List.mem_cons_of_mem first hmem) first List.mem_cons_self heq)
        · refine Or.inr ⟨⟨hmem, fun other hother => ?_⟩, decide_eq_true (Ne.symm hsame)⟩
          exact hleast other (List.mem_cons_of_mem first hother)

/-- `DISTINCT ON` the key of the ordered rows keeps the least row of each key. -/
theorem mem_distinctBy_order_of_ties [DecidableEq κ] {key : ρ → κ} {l : List ρ}
    (ties : ∀ a ∈ l, ∀ b ∈ l, order a = order b → a = b) {r : ρ} :
    r ∈ distinctBy key (l.insertionSort fun a b => order a ≤ order b) ↔
      r ∈ l ∧ ∀ other ∈ l, key other = key r → order r ≤ order other := by
  have hsorted := List.pairwise_insertionSort (fun a b => order a ≤ order b) l
  rw [mem_distinctBy_of_ties hsorted]
  · simp only [List.mem_insertionSort]
  · intro a ha b hb
    exact ties a ((List.mem_insertionSort _).mp ha) b ((List.mem_insertionSort _).mp hb)

theorem mem_limitBy_one {l : List ρ} {r : ρ}
    (h : r ∈ limitBy (fun a b => order a ≤ order b) 1 l) : IsLeast {w | ∃ a ∈ l, order a = w} (order r) := by
  have hmem := mem_of_limitBy h
  refine ⟨⟨r, hmem, rfl⟩, ?_⟩
  rintro w ⟨other, hother, rfl⟩
  have hsorted := List.pairwise_insertionSort (fun a b => order a ≤ order b) l
  have hin := (List.mem_insertionSort fun a b => order a ≤ order b).mpr hother
  simp only [limitBy, decide_eq_true_eq] at h
  cases hl : l.insertionSort fun a b => order a ≤ order b with
  | nil =>
      rw [hl] at h
      exact absurd h List.not_mem_nil
  | cons first rest =>
      rw [hl] at h hin hsorted
      have heq : r = first := List.mem_singleton.mp h
      rw [heq]
      rcases List.mem_cons.mp hin with rfl | hlater
      · exact le_rfl
      · exact (List.pairwise_cons.mp hsorted).1 other hlater

/-- `ORDER BY .. LIMIT 1` finds a row exactly at the least place. -/
theorem exists_limitBy_one {l : List ρ} {w : ω} :
    (∃ r ∈ limitBy (fun a b => order a ≤ order b) 1 l, order r = w) ↔
      IsLeast {w | ∃ a ∈ l, order a = w} w := by
  constructor
  · rintro ⟨r, hr, rfl⟩
    exact mem_limitBy_one hr
  · intro hleast
    obtain ⟨a, ha, -⟩ := hleast.1
    have hin := (List.mem_insertionSort fun a b => order a ≤ order b).mpr ha
    cases hl : l.insertionSort fun a b => order a ≤ order b with
    | nil =>
        rw [hl] at hin
        exact absurd hin List.not_mem_nil
    | cons first rest =>
        have hfirst : first ∈ limitBy (fun a b => order a ≤ order b) 1 l := by
          simp only [limitBy, decide_eq_true_eq, hl]
          exact List.mem_cons_self
        exact ⟨first, hfirst, (mem_limitBy_one hfirst).unique hleast⟩
