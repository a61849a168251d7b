import FloodRisk.Lib.OrderBy

/-! # The first of each key

`distinctBy` as a pass that remembers the keys it has seen. -/

namespace OrderBy

variable {ρ κ : Type*} [DecidableEq κ]

/-- A row after the pass is kept when its key is new. -/
theorem distinctBy_concat (key : ρ → κ) (l : List ρ) (r : ρ) :
    distinctBy key (l ++ [r]) =
      if key r ∈ l.map key then distinctBy key l else distinctBy key l ++ [r] := by
  induction l with
  | nil => rfl
  | cons first rest ih =>
      rw [List.cons_append, distinctBy, distinctBy, List.map_cons, ih]
      by_cases hfirst : key r = key first
      · have hout : [r].filter (fun other => key other ≠ key first) = [] := by simp [hfirst]
        have hseen : key r ∈ key first :: rest.map key := hfirst ▸ List.mem_cons_self
        rw [if_pos hseen]
        by_cases hrest : key r ∈ rest.map key
        · rw [if_pos hrest]
        · rw [if_neg hrest, List.filter_append, hout, List.append_nil]
      · have hin : [r].filter (fun other => key other ≠ key first) = [r] := by simp [hfirst]
        by_cases hrest : key r ∈ rest.map key
        · rw [if_pos hrest, if_pos (List.mem_cons_of_mem _ hrest)]
        · have hnew : key r ∉ key first :: rest.map key :=
            fun h => (List.mem_cons.mp h).elim hfirst hrest
          rw [if_neg hrest, if_neg hnew, List.filter_append, hin, List.cons_append]

theorem distinctBy_keysNodup (key : ρ → κ) (l : List ρ) : ((distinctBy key l).map key).Nodup := by
  induction l with
  | nil => exact List.nodup_nil
  | cons first rest ih =>
      rw [distinctBy, List.map_cons, List.nodup_cons]
      refine ⟨?_, (List.filter_sublist.map key).nodup ih⟩
      intro h
      obtain ⟨r, hr, heq⟩ := List.mem_map.mp h
      exact of_decide_eq_true (List.mem_filter.mp hr).2 heq

theorem mem_distinctBy_iff_find {key : ρ → κ} {l : List ρ} {r : ρ} :
    r ∈ distinctBy key l ↔ l.find? (fun other => key other = key r) = some r := by
  induction l with
  | nil => simp [distinctBy]
  | cons first rest ih =>
      rw [distinctBy, List.mem_cons, List.mem_filter, ih]
      by_cases hkey : key first = key r
      · rw [List.find?_cons_of_pos (by simpa using hkey)]
        simp [hkey, eq_comm]
      · rw [List.find?_cons_of_neg (by simpa using hkey)]
        have hne : r ≠ first := fun h => hkey (congrArg key h).symm
        simp [hne, Ne.symm hkey]

theorem exists_first (key : ρ → κ) {l : List ρ} {r : ρ} (h : r ∈ l) :
    ∃ first ∈ distinctBy key l, key first = key r ∧
      l.find? (fun other => key other = key r) = some first := by
  have hsome : (l.find? fun other => key other = key r).isSome :=
    List.find?_isSome.mpr ⟨r, h, decide_eq_true rfl⟩
  obtain ⟨first, hfirst⟩ := Option.isSome_iff_exists.mp hsome
  have hkey : key first = key r := by simpa using List.find?_some hfirst
  refine ⟨first, mem_distinctBy_iff_find.mpr ?_, hkey, hfirst⟩
  rw [hkey]
  exact hfirst

theorem distinctBy_unique {key : ρ → κ} {l : List ρ} {first second : ρ}
    (hfirst : first ∈ distinctBy key l) (hsecond : second ∈ distinctBy key l)
    (heq : key first = key second) : first = second := by
  have hfound := mem_distinctBy_iff_find.mp hfirst
  have hfound' := mem_distinctBy_iff_find.mp hsecond
  rw [heq, hfound'] at hfound
  exact (Option.some.inj hfound).symm

omit [DecidableEq κ] in
/-- The keys of what is made of some rows are keys of those rows. -/
theorem filterMap_keys_sublist {β : Type*} (key : ρ → κ) {made : ρ → Option β} (keyOf : β → κ)
    (h : ∀ r b, made r = some b → keyOf b = key r) (l : List ρ) :
    ((l.filterMap made).map keyOf).Sublist (l.map key) := by
  induction l with
  | nil => exact List.Sublist.slnil
  | cons r rest ih =>
      cases hmade : made r with
      | none =>
          rw [List.filterMap_cons_none hmade]
          exact ih.cons (key r)
      | some b =>
          rw [List.filterMap_cons_some hmade, List.map_cons, List.map_cons, h r b hmade]
          exact ih.cons_cons (key r)

end OrderBy
