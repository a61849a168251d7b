import Mathlib.Data.List.Nodup

/-! # Tables with a unique key

A table is the list of its rows together with the uniqueness of their keys, so
a value that breaks the key constraint cannot be built.  The operations are
those of a relational store: look-up by key, `INSERT .. ON CONFLICT DO
NOTHING`, `INSERT .. ON CONFLICT DO UPDATE .. WHERE`, `UPDATE` of columns
outside the key and `DELETE .. WHERE`. -/

/-- Rows with pairwise distinct keys. -/
@[ext] structure Table {ρ κ : Type*} (key : ρ → κ) where
  rows : List ρ
  keysNodup : (rows.map key).Nodup

namespace Table

variable {ρ κ : Type*} {key : ρ → κ}

def empty : Table key := ⟨[], List.nodup_nil⟩

instance : Inhabited (Table key) := ⟨empty⟩

instance : Membership ρ (Table key) := ⟨fun t r => r ∈ t.rows⟩

instance {t : Table key} {p : ρ → Prop} [DecidablePred p] : Decidable (∀ r ∈ t, p r) :=
  inferInstanceAs (Decidable (∀ r ∈ t.rows, p r))

theorem mem_def {t : Table key} {r : ρ} : r ∈ t ↔ r ∈ t.rows := Iff.rfl

@[simp] theorem not_mem_empty (r : ρ) : ¬ r ∈ (empty : Table key) := List.not_mem_nil

theorem eq_of_key_eq {t : Table key} {r s : ρ} (hr : r ∈ t) (hs : s ∈ t)
    (h : key r = key s) : r = s :=
  List.inj_on_of_nodup_map t.keysNodup hr hs h

/-! ### Deletion and key-preserving updates -/

def deleteWhere (t : Table key) (doomed : ρ → Bool) : Table key where
  rows := t.rows.filter (fun r => !doomed r)
  keysNodup := (List.Sublist.map key List.filter_sublist).nodup t.keysNodup

@[simp] theorem mem_deleteWhere {t : Table key} {doomed : ρ → Bool} {r : ρ} :
    r ∈ t.deleteWhere doomed ↔ r ∈ t ∧ doomed r = false := by
  simp only [mem_def, deleteWhere, List.mem_filter, Bool.not_eq_true']

def update (t : Table key) (f : ρ → ρ) (keeps : ∀ r, key (f r) = key r) : Table key where
  rows := t.rows.map f
  keysNodup := by
    have h : (key ∘ f) = key := funext keeps
    simpa only [List.map_map, h] using t.keysNodup

@[simp] theorem mem_update {t : Table key} {f : ρ → ρ} {keeps : ∀ r, key (f r) = key r}
    {r : ρ} : r ∈ t.update f keeps ↔ ∃ s ∈ t, f s = r := by
  simp only [mem_def, update, List.mem_map]

theorem update_eq_self {t : Table key} {f : ρ → ρ} {keeps : ∀ r, key (f r) = key r}
    (h : ∀ r ∈ t, f r = r) : t.update f keeps = t := by
  ext1
  exact (List.map_congr_left h).trans (List.map_id _)

variable [DecidableEq κ]

/-! ### Look-up -/

def find (t : Table key) (k : κ) : Option ρ := t.rows.find? (fun r => key r = k)

theorem find_eq_some_iff {t : Table key} {k : κ} {r : ρ} :
    t.find k = some r ↔ r ∈ t ∧ key r = k := by
  constructor
  · intro h
    have hk := List.find?_some h
    exact ⟨List.mem_of_find?_eq_some h, of_decide_eq_true hk⟩
  · rintro ⟨hr, rfl⟩
    cases h : t.find (key r) with
    | none =>
        have hnone := List.find?_eq_none.mp h r hr
        simp at hnone
    | some s =>
        have hfind : t.rows.find? (fun s => key s = key r) = some s := h
        have hs : s ∈ t := List.mem_of_find?_eq_some hfind
        have hk := List.find?_some hfind
        simp only [decide_eq_true_eq] at hk
        rw [eq_of_key_eq hs hr hk]

theorem find_eq_none_iff {t : Table key} {k : κ} :
    t.find k = none ↔ ∀ r ∈ t, key r ≠ k := by
  simp only [find, List.find?_eq_none, decide_eq_true_eq, mem_def, ne_eq]

theorem find_congr {t u : Table key} {k : κ}
    (h : ∀ r, key r = k → (r ∈ t ↔ r ∈ u)) : t.find k = u.find k := by
  cases hu : u.find k with
  | none =>
      rw [find_eq_none_iff] at hu ⊢
      exact fun r hr hk => hu r ((h r hk).mp hr) hk
  | some s =>
      obtain ⟨hs, hk⟩ := find_eq_some_iff.mp hu
      exact find_eq_some_iff.mpr ⟨(h s hk).mpr hs, hk⟩

theorem find_update {t : Table key} {f : ρ → ρ} {keeps : ∀ r, key (f r) = key r} (k : κ) :
    (t.update f keeps).find k = (t.find k).map f := by
  cases h : t.find k with
  | none =>
      rw [Option.map_none, find_eq_none_iff]
      intro r hr
      obtain ⟨s, hs, rfl⟩ := mem_update.mp hr
      rw [keeps s]
      exact find_eq_none_iff.mp h s hs
  | some s =>
      obtain ⟨hs, hk⟩ := find_eq_some_iff.mp h
      rw [Option.map_some, find_eq_some_iff]
      exact ⟨mem_update.mpr ⟨s, hs, rfl⟩, (keeps s).trans hk⟩

/-! ### Insertion -/

/-- `INSERT .. ON CONFLICT DO NOTHING`: no table when the key is taken. -/
def insertNew (t : Table key) (x : ρ) : Option (Table key) :=
  if h : key x ∈ t.rows.map key then none
  else some ⟨t.rows ++ [x], by
    simpa only [List.map_append, List.map_cons, List.map_nil, List.nodup_append,
      List.nodup_cons, List.mem_singleton] using
      ⟨t.keysNodup, by simp, by
        intro a ha b hb hab
        exact h (hb ▸ hab ▸ ha)⟩⟩

theorem insertNew_eq_none_iff {t : Table key} {x : ρ} :
    t.insertNew x = none ↔ ∃ r ∈ t, key r = key x := by
  simp only [insertNew, mem_def]
  split
  · rename_i h
    simpa using h
  · rename_i h
    simpa using h

theorem mem_of_insertNew {t u : Table key} {x : ρ} (h : t.insertNew x = some u) {r : ρ} :
    r ∈ u ↔ r ∈ t ∨ r = x := by
  simp only [insertNew] at h
  split at h
  · exact absurd h (by simp)
  · cases h
    simp only [mem_def, List.mem_append, List.mem_singleton]

theorem insertNew_isSome {t : Table key} {x : ρ} (h : ∀ r ∈ t, key r ≠ key x) :
    ∃ u, t.insertNew x = some u := by
  cases hu : t.insertNew x with
  | some u => exact ⟨u, rfl⟩
  | none =>
      obtain ⟨r, hr, hk⟩ := insertNew_eq_none_iff.mp hu
      exact absurd hk (h r hr)

/-- `INSERT .. ON CONFLICT DO UPDATE .. WHERE`: a stored row with the new
row's key is replaced only when the new row supersedes it. -/
def upsertWhen (t : Table key) (supersedes : ρ → ρ → Bool) (x : ρ) : Table key :=
  match t.insertNew x with
  | some u => u
  | none =>
      t.update (fun r => if key r = key x ∧ supersedes x r then x else r) (by
        intro r
        split
        · rename_i h
          exact h.1.symm
        · rfl)

theorem mem_upsertWhen {t : Table key} {supersedes : ρ → ρ → Bool} {x r : ρ} :
    r ∈ t.upsertWhen supersedes x ↔
      (r = x ∧ ∀ s ∈ t, key s = key x → s = x ∨ supersedes x s = true) ∨
      (r ∈ t ∧ ¬ (key r = key x ∧ supersedes x r = true)) := by
  simp only [upsertWhen]
  cases h : t.insertNew x with
  | some u =>
      have hfree : ∀ s ∈ t, key s ≠ key x := by
        intro s hs hk
        rw [insertNew_eq_none_iff.mpr ⟨s, hs, hk⟩] at h
        exact absurd h (by simp)
      rw [mem_of_insertNew h, or_comm]
      constructor
      · rintro (rfl | hr)
        · exact Or.inl ⟨rfl, fun s hs hk => absurd hk (hfree s hs)⟩
        · exact Or.inr ⟨hr, fun hk => hfree r hr hk.1⟩
      · rintro (⟨rfl, -⟩ | ⟨hr, -⟩)
        · exact Or.inl rfl
        · exact Or.inr hr
  | none =>
      obtain ⟨old, hold, hkey⟩ := insertNew_eq_none_iff.mp h
      rw [mem_update]
      constructor
      · rintro ⟨s, hs, rfl⟩
        split
        · rename_i hsup
          refine Or.inl ⟨rfl, fun s' hs' hk' => Or.inr ?_⟩
          rw [eq_of_key_eq hs' hs (hk'.trans hsup.1.symm)]
          exact hsup.2
        · rename_i hsup
          exact Or.inr ⟨hs, hsup⟩
      · rintro (⟨rfl, hall⟩ | ⟨hr, hsup⟩)
        · refine ⟨old, hold, ?_⟩
          rcases hall old hold hkey with rfl | hs
          · split <;> rfl
          · rw [if_pos ⟨hkey, hs⟩]
        · exact ⟨r, hr, if_neg hsup⟩

/-- The key of the inserted row holds the new row when the key was free or
the new row supersedes, and the old row otherwise. -/
theorem find_upsertWhen_self (t : Table key) (supersedes : ρ → ρ → Bool) (x : ρ) :
    (t.upsertWhen supersedes x).find (key x) =
      some (match t.find (key x) with
        | none => x
        | some r => if supersedes x r then x else r) := by
  rw [find_eq_some_iff]
  cases h : t.find (key x) with
  | none =>
      rw [find_eq_none_iff] at h
      exact ⟨mem_upsertWhen.mpr (Or.inl ⟨rfl, fun s hs hk => absurd hk (h s hs)⟩), rfl⟩
  | some r =>
      obtain ⟨hr, hk⟩ := find_eq_some_iff.mp h
      by_cases hs : supersedes x r = true
      · simp only [hs, if_true]
        refine ⟨mem_upsertWhen.mpr (Or.inl ⟨rfl, ?_⟩), trivial⟩
        intro s hs' hk'
        rw [eq_of_key_eq hs' hr (hk'.trans hk.symm)]
        exact Or.inr hs
      · simp only [hs, if_false, Bool.false_eq_true]
        exact ⟨mem_upsertWhen.mpr (Or.inr ⟨hr, fun hsup => hs hsup.2⟩), hk⟩

theorem find_upsertWhen_of_ne (t : Table key) (supersedes : ρ → ρ → Bool) {x : ρ} {k : κ}
    (hk : k ≠ key x) : (t.upsertWhen supersedes x).find k = t.find k := by
  refine find_congr ?_
  rintro r rfl
  rw [mem_upsertWhen]
  constructor
  · rintro (⟨rfl, -⟩ | ⟨hr, -⟩)
    · exact absurd rfl hk
    · exact hr
  · exact fun hr => Or.inr ⟨hr, fun h => hk h.1⟩

/-! ### Serial keys -/

def freshKey {key : ρ → ℕ} (t : Table key) : ℕ := t.rows.foldr (fun r n => max (key r) n) 0 + 1

theorem key_lt_freshKey {key : ρ → ℕ} {t : Table key} {r : ρ} (h : r ∈ t) :
    key r < t.freshKey := by
  have hle : ∀ l : List ρ, r ∈ l → key r ≤ l.foldr (fun r n => max (key r) n) 0 := by
    intro l
    induction l with
    | nil => exact fun hr => absurd hr List.not_mem_nil
    | cons s rest ih =>
        intro hr
        rcases List.mem_cons.mp hr with rfl | hrest
        · exact Nat.le_max_left _ _
        · exact Nat.le_trans (ih hrest) (Nat.le_max_right _ _)
  have hbound := hle t.rows h
  simp only [freshKey]
  omega

/-- `INSERT` of a row whose key the table chooses. -/
def append {key : ρ → ℕ} (t : Table key) (make : ℕ → ρ) (keyed : ∀ n, key (make n) = n) :
    Table key where
  rows := t.rows ++ [make t.freshKey]
  keysNodup := by
    rw [List.map_append, List.map_singleton, List.nodup_append]
    refine ⟨t.keysNodup, List.nodup_singleton _, ?_⟩
    intro n hn m hm heq
    obtain ⟨r, hr, rfl⟩ := List.mem_map.mp hn
    have hlt : key r < t.freshKey := key_lt_freshKey hr
    rw [List.mem_singleton, keyed] at hm
    omega

end Table
