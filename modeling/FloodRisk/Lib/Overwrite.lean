import FloodRisk.Lib.Table

/-! # One statement that inserts or replaces several rows

`INSERT .. SELECT .. ON CONFLICT DO UPDATE` of all columns outside the key.  The
statement must not meet a key twice, so what it inserts is a table itself. -/

namespace Table

variable {ρ κ : Type*} {key : ρ → κ} [DecidableEq κ]

def overwrite (t u : Table key) : Table key where
  rows := (t.deleteWhere fun r => key r ∈ u.rows.map key).rows ++ u.rows
  keysNodup := by
    rw [List.map_append, List.nodup_append]
    refine ⟨(t.deleteWhere _).keysNodup, u.keysNodup, ?_⟩
    intro k hk k' hk' heq
    obtain ⟨r, hr, rfl⟩ := List.mem_map.mp hk
    have hfree := of_decide_eq_false (mem_deleteWhere.mp hr).2
    exact hfree (heq ▸ hk')

theorem mem_overwrite {t u : Table key} {r : ρ} :
    r ∈ t.overwrite u ↔ r ∈ u ∨ r ∈ t ∧ ∀ s ∈ u, key s ≠ key r := by
  have hold : r ∈ (t.deleteWhere fun r => key r ∈ u.rows.map key) ↔
      r ∈ t ∧ ∀ s ∈ u, key s ≠ key r := by
    rw [mem_deleteWhere, decide_eq_false_iff_not, List.mem_map]
    simp only [not_exists, not_and, mem_def, ne_eq]
  rw [← hold, or_comm]
  exact List.mem_append

/-- A look-up finds the inserted row of its key, else the row there was. -/
theorem find_overwrite (t u : Table key) (k : κ) :
    (t.overwrite u).find k = (u.find k).or (t.find k) := by
  cases hu : u.find k with
  | some r =>
      obtain ⟨hr, hk⟩ := find_eq_some_iff.mp hu
      exact find_eq_some_iff.mpr ⟨mem_overwrite.mpr (Or.inl hr), hk⟩
  | none =>
      have hfree := find_eq_none_iff.mp hu
      refine find_congr ?_
      rintro r rfl
      rw [mem_overwrite]
      constructor
      · rintro (hr | ⟨hr, -⟩)
        · exact absurd rfl (hfree r hr)
        · exact hr
      · exact fun hr => Or.inr ⟨hr, hfree⟩

/-- Rows whose keys are not inserted stay, in their order. -/
theorem filter_overwrite {t u : Table key} {p : ρ → Bool}
    (h : ∀ r, p r = true → ∀ s ∈ u, key s ≠ key r) :
    (t.overwrite u).rows.filter p = t.rows.filter p := by
  have hnew : u.rows.filter p = [] := by
    rw [List.filter_eq_nil_iff]
    exact fun r hr hp => h r hp r hr rfl
  have hfree : ∀ r, p r = true → key r ∉ u.rows.map key := by
    intro r hp hmem
    obtain ⟨s, hs, hkey⟩ := List.mem_map.mp hmem
    exact h r hp s hs hkey
  rw [overwrite, List.filter_append, hnew, List.append_nil, deleteWhere, List.filter_filter]
  refine List.filter_congr fun r _ => ?_
  cases hp : p r with
  | false => rfl
  | true => rw [decide_eq_false (hfree r hp)]; rfl

end Table
