import FloodRisk.Lib.Table

/-! # Tables with a partial unique index

An index maps a row to its entry, or to nothing when its predicate does not
select the row; two rows with one entry are one row.  A statement that would
break the index fails and leaves the table as it was. -/

structure IndexedTable {ρ κ ι : Type*} (key : ρ → κ) (index : ρ → Option ι) where
  table : Table key
  indexed : ∀ r ∈ table, ∀ s ∈ table, index r ≠ none → index r = index s → r = s

namespace IndexedTable

variable {ρ κ ι : Type*} {key : ρ → κ} {index : ρ → Option ι}

def empty : IndexedTable key index :=
  ⟨Table.empty, fun r hr => absurd hr (Table.not_mem_empty r)⟩

def rows (t : IndexedTable key index) : List ρ := t.table.rows

instance : Membership ρ (IndexedTable key index) := ⟨fun t r => r ∈ t.table⟩

instance {t : IndexedTable key index} {p : ρ → Prop} [DecidablePred p] :
    Decidable (∀ r ∈ t, p r) :=
  inferInstanceAs (Decidable (∀ r ∈ t.table.rows, p r))

theorem mem_def {t : IndexedTable key index} {r : ρ} : r ∈ t ↔ r ∈ t.table := Iff.rfl

theorem mem_rows {t : IndexedTable key index} {r : ρ} : r ∈ t.rows ↔ r ∈ t := Iff.rfl

@[simp] theorem not_mem_empty (r : ρ) : ¬ r ∈ (empty : IndexedTable key index) :=
  Table.not_mem_empty r

variable [DecidableEq κ]

def find (t : IndexedTable key index) (k : κ) : Option ρ := t.table.find k

theorem find_eq_some_iff {t : IndexedTable key index} {k : κ} {r : ρ} :
    t.find k = some r ↔ r ∈ t ∧ key r = k := Table.find_eq_some_iff

theorem find_of_mem {t : IndexedTable key index} {r : ρ} (h : r ∈ t) :
    t.find (key r) = some r := find_eq_some_iff.mpr ⟨h, rfl⟩

theorem find_eq_none_iff {t : IndexedTable key index} {k : κ} :
    t.find k = none ↔ ∀ r ∈ t, key r ≠ k := Table.find_eq_none_iff

@[simp] theorem find_empty (k : κ) : (empty : IndexedTable key index).find k = none :=
  find_eq_none_iff.mpr fun r hr => absurd hr (not_mem_empty r)

/-! ### One row changed -/

/-- `u` holds `x`, and every other row of one of the tables is a row of both. -/
structure ChangesRow (t u : IndexedTable key index) (x : ρ) : Prop where
  stored : u.find (key x) = some x
  others : ∀ k, k ≠ key x → u.find k = t.find k

namespace ChangesRow

variable {t u : IndexedTable key index} {x r : ρ}

theorem mem (h : ChangesRow t u x) : x ∈ u := (find_eq_some_iff.mp h.stored).1

theorem mem_cases (h : ChangesRow t u x) (hr : r ∈ u) : r ∈ t ∧ key r ≠ key x ∨ r = x := by
  have hfind := find_of_mem hr
  by_cases hk : key r = key x
  · rw [hk, h.stored] at hfind
    exact Or.inr (Option.some.inj hfind).symm
  · rw [h.others (key r) hk] at hfind
    exact Or.inl ⟨(find_eq_some_iff.mp hfind).1, hk⟩

theorem find_isSome (h : ChangesRow t u x) {k : κ}
    (hk : k ≠ key x → (t.find k).isSome = true) : (u.find k).isSome = true := by
  by_cases heq : k = key x
  · rw [heq, h.stored]
    rfl
  · rw [h.others k heq]
    exact hk heq

end ChangesRow

variable [DecidableEq ι]

/-- A row other than the one with key `k` holds the entry. -/
def taken (t : IndexedTable key index) (entry : Option ι) (k : κ) : Bool :=
  entry.isSome && t.rows.any fun r => index r = entry && key r ≠ k

theorem taken_iff {t : IndexedTable key index} {entry : Option ι} {k : κ} :
    t.taken entry k = true ↔ entry ≠ none ∧ ∃ r ∈ t, index r = entry ∧ key r ≠ k := by
  simp only [taken, Bool.and_eq_true, Option.isSome_iff_ne_none, List.any_eq_true,
    decide_eq_true_eq, mem_rows]

theorem not_taken {t : IndexedTable key index} {entry : Option ι} {k : κ}
    (h : t.taken entry k = false) {r : ρ} (hr : r ∈ t) (hne : entry ≠ none)
    (heq : index r = entry) : key r = k := by
  by_contra hk
  rw [taken_iff.mpr ⟨hne, r, hr, heq, hk⟩] at h
  exact Bool.noConfusion h

/-! ### `INSERT` -/

def insert (t : IndexedTable key index) (x : ρ) : Option (IndexedTable key index) :=
  match h : t.table.insertNew x with
  | none => none
  | some u =>
      if hfree : t.taken (index x) (key x) = false then
        some ⟨u, by
          have hnew : ∀ s ∈ t.table, index x ≠ none → index s = index x → s = x := by
            intro s hs hne heq
            have hk : key s = key x := not_taken hfree hs hne heq
            have hnone := Table.insertNew_eq_none_iff.mpr ⟨s, hs, hk⟩
            rw [h] at hnone
            exact absurd hnone (by simp)
          intro r hr s hs hne heq
          rcases (Table.mem_of_insertNew h).mp hr with hr | hr
          · rcases (Table.mem_of_insertNew h).mp hs with hs | hs
            · exact t.indexed r hr s hs hne heq
            · subst hs
              exact hnew r hr (heq ▸ hne) heq
          · subst hr
            rcases (Table.mem_of_insertNew h).mp hs with hs | hs
            · exact (hnew s hs hne heq.symm).symm
            · exact hs.symm⟩
      else none

theorem mem_of_insert {t u : IndexedTable key index} {x : ρ} (h : t.insert x = some u) {r : ρ} :
    r ∈ u ↔ r ∈ t ∨ r = x := by
  simp only [insert] at h
  split at h
  · exact absurd h (by simp)
  · rename_i v hv
    split at h
    · have heq := Option.some.inj h
      subst heq
      exact Table.mem_of_insertNew hv
    · exact absurd h (by simp)

theorem find_insert_of_ne {t u : IndexedTable key index} {x : ρ} (h : t.insert x = some u) {k : κ}
    (hk : k ≠ key x) : u.find k = t.find k := by
  refine Table.find_congr ?_
  intro r hr
  have hmem : r ∈ u ↔ r ∈ t ∨ r = x := mem_of_insert h
  constructor
  · intro hu
    rcases hmem.mp hu with ht | heq
    · exact ht
    · exact absurd (heq ▸ hr.symm) hk
  · exact fun ht => hmem.mpr (Or.inl ht)

theorem find_insert_self {t u : IndexedTable key index} {x : ρ} (h : t.insert x = some u) :
    u.find (key x) = some x :=
  find_eq_some_iff.mpr ⟨(mem_of_insert h).mpr (Or.inr rfl), rfl⟩

theorem key_ne_of_insert {t u : IndexedTable key index} {x : ρ} (h : t.insert x = some u) :
    ∀ r ∈ t, key r ≠ key x := by
  intro r hr hk
  have hnone := Table.insertNew_eq_none_iff.mpr ⟨r, hr, hk⟩
  simp only [insert] at h
  split at h
  · exact absurd h (by simp)
  · rename_i v hv
    rw [hnone] at hv
    exact absurd hv (by simp)

/-! ### `UPDATE .. WHERE` the key is `k` -/

def rewrite (key : ρ → κ) (k : κ) (f : ρ → ρ) (r : ρ) : ρ := if key r = k then f r else r

theorem key_rewrite {k : κ} {f : ρ → ρ} (keeps : ∀ r, key (f r) = key r) (r : ρ) :
    key (rewrite key k f r) = key r := by
  simp only [rewrite]
  split
  · exact keeps r
  · rfl

/-- The entry of the changed row is free, whatever row has the key. -/
def admits (t : IndexedTable key index) (k : κ) (f : ρ → ρ) : Bool :=
  (t.find k).all fun r => !t.taken (index (f r)) k

def modify (t : IndexedTable key index) (k : κ) (f : ρ → ρ)
    (keeps : ∀ r, key (f r) = key r) : Option (IndexedTable key index) :=
  if h : t.admits k f = true then
    some ⟨t.table.update (rewrite key k f) (key_rewrite keeps), by
      have hfree : ∀ r ∈ t.table, key r = k → t.taken (index (f r)) k = false := by
        intro r hr hk
        have hfind : t.find k = some r := find_eq_some_iff.mpr ⟨hr, hk⟩
        rw [admits, hfind] at h
        simpa using h
      have hother : ∀ r ∈ t.table, ∀ s ∈ t.table, key r = k → key s ≠ k →
          index (f r) ≠ none → index (f r) = index s → False := by
        intro r hr s hs hk hks hne heq
        exact hks (not_taken (hfree r hr hk) hs hne heq.symm)
      intro a ha b hb hne heq
      obtain ⟨r, hr, rfl⟩ := Table.mem_update.mp ha
      obtain ⟨s, hs, rfl⟩ := Table.mem_update.mp hb
      by_cases hkr : key r = k
      · by_cases hks : key s = k
        · rw [Table.eq_of_key_eq hr hs (hkr.trans hks.symm)]
        · simp only [rewrite, if_pos hkr, if_neg hks] at hne heq
          exact absurd (hother r hr s hs hkr hks hne heq) id
      · by_cases hks : key s = k
        · simp only [rewrite, if_neg hkr, if_pos hks] at hne heq
          exact absurd (hother s hs r hr hks hkr (heq ▸ hne) heq.symm) id
        · simp only [rewrite, if_neg hkr, if_neg hks] at hne heq ⊢
          exact t.indexed r hr s hs hne heq⟩
  else none

theorem find_of_modify {t u : IndexedTable key index} {k : κ} {f : ρ → ρ}
    {keeps : ∀ r, key (f r) = key r} (h : t.modify k f keeps = some u) (j : κ) :
    u.find j = (t.find j).map (rewrite key k f) := by
  simp only [modify] at h
  split at h
  · have heq := Option.some.inj h
    subst heq
    have hfind : (t.table.update (rewrite key k f) (key_rewrite keeps)).find j =
        (t.table.find j).map (rewrite key k f) := Table.find_update j
    exact hfind
  · exact absurd h (by simp)

theorem find_modify_self {t u : IndexedTable key index} {k : κ} {f : ρ → ρ}
    {keeps : ∀ r, key (f r) = key r} (h : t.modify k f keeps = some u) {r : ρ}
    (hr : t.find k = some r) : u.find k = some (f r) := by
  rw [find_of_modify h, hr, Option.map_some]
  rw [rewrite, if_pos (find_eq_some_iff.mp hr).2]

theorem find_modify_of_ne {t u : IndexedTable key index} {k : κ} {f : ρ → ρ}
    {keeps : ∀ r, key (f r) = key r} (h : t.modify k f keeps = some u) {j : κ} (hj : j ≠ k) :
    u.find j = t.find j := by
  rw [find_of_modify h]
  cases hr : t.find j with
  | none => rfl
  | some r =>
      have hne : key r ≠ k := (find_eq_some_iff.mp hr).2.symm ▸ hj
      rw [Option.map_some, rewrite, if_neg hne]

theorem mem_of_modify {t u : IndexedTable key index} {k : κ} {f : ρ → ρ}
    {keeps : ∀ r, key (f r) = key r} (h : t.modify k f keeps = some u) {r : ρ} :
    r ∈ u ↔ (r ∈ t ∧ key r ≠ k) ∨ ∃ s, t.find k = some s ∧ r = f s := by
  constructor
  · intro hr
    have hfind := find_of_mem hr
    by_cases hk : key r = k
    · rw [hk, find_of_modify h] at hfind
      obtain ⟨s, hs, heq⟩ := Option.map_eq_some_iff.mp hfind
      rw [rewrite, if_pos (find_eq_some_iff.mp hs).2] at heq
      exact Or.inr ⟨s, hs, heq.symm⟩
    · rw [find_modify_of_ne h hk] at hfind
      exact Or.inl ⟨(find_eq_some_iff.mp hfind).1, hk⟩
  · rintro (⟨hr, hk⟩ | ⟨s, hs, rfl⟩)
    · have hfind := find_of_mem hr
      rw [← find_modify_of_ne h hk] at hfind
      exact (find_eq_some_iff.mp hfind).1
    · exact (find_eq_some_iff.mp (find_modify_self h hs)).1

theorem modify_eq_none_iff {t : IndexedTable key index} {k : κ} {f : ρ → ρ}
    {keeps : ∀ r, key (f r) = key r} :
    t.modify k f keeps = none ↔ ∃ r, t.find k = some r ∧ t.taken (index (f r)) k = true := by
  have hadmits : t.modify k f keeps = none ↔ t.admits k f = false := by
    simp only [modify]
    split
    · rename_i h
      simp [h]
    · rename_i h
      simpa using h
  rw [hadmits, admits]
  cases t.find k with
  | none => simp
  | some r => simp

theorem modify_isSome {t : IndexedTable key index} {k : κ} {f : ρ → ρ}
    {keeps : ∀ r, key (f r) = key r}
    (h : ∀ r, t.find k = some r → index (f r) = index r ∨ index (f r) = none) :
    ∃ u, t.modify k f keeps = some u := by
  cases hu : t.modify k f keeps with
  | some u => exact ⟨u, rfl⟩
  | none =>
      obtain ⟨r, hr, htaken⟩ := modify_eq_none_iff.mp hu
      obtain ⟨hne, s, hs, heq, hk⟩ := taken_iff.mp htaken
      obtain ⟨hmem, hkr⟩ := find_eq_some_iff.mp hr
      rcases h r hr with hsame | hnone
      · have heqs : index r = index s := hsame.symm.trans heq.symm
        have hrs : r = s := t.indexed r hmem s hs (hsame ▸ hne) heqs
        exact absurd (hrs ▸ hkr) hk
      · exact absurd hnone hne

theorem changesRow_of_modify {t u : IndexedTable key index} {r : ρ} {f : ρ → ρ}
    {keeps : ∀ r, key (f r) = key r}
    (h : t.modify (key r) f keeps = some u) (hr : t.find (key r) = some r) :
    ChangesRow t u (f r) := by
  refine ⟨?_, ?_⟩
  · rw [keeps r]
    exact find_modify_self h hr
  · intro k hk
    rw [keeps r] at hk
    exact find_modify_of_ne h hk

/-- `UPDATE .. WHERE` the key is `k` and the guard holds, `RETURNING` the row;
nothing when the statement fails. -/
def returning (t : IndexedTable key index) (k : κ) (guard : ρ → Bool) (f : ρ → ρ)
    (keeps : ∀ r, key (f r) = key r) : Option (Option ρ × IndexedTable key index) :=
  match t.find k with
  | none => some (none, t)
  | some r =>
      if guard r then (t.modify k f keeps).map fun u => (some (f r), u) else some (none, t)

theorem returning_cases {t u : IndexedTable key index} {k : κ} {guard : ρ → Bool} {f : ρ → ρ}
    {keeps : ∀ r, key (f r) = key r} {result : Option ρ}
    (h : t.returning k guard f keeps = some (result, u)) :
    (result = none ∧ u = t ∧ ∀ r, t.find k = some r → guard r = false) ∨
      ∃ r, t.find k = some r ∧ guard r = true ∧ result = some (f r) ∧
        t.modify k f keeps = some u := by
  unfold returning at h
  cases hr : t.find k with
  | none =>
      rw [hr] at h
      obtain ⟨rfl, rfl⟩ := Prod.mk.inj (Option.some.inj h)
      exact Or.inl ⟨rfl, rfl, by simp⟩
  | some r =>
      rw [hr] at h
      simp only at h
      by_cases hguard : guard r = true
      · rw [if_pos hguard] at h
        obtain ⟨v, hv, heq⟩ := Option.map_eq_some_iff.mp h
        obtain ⟨rfl, rfl⟩ := Prod.mk.inj heq
        exact Or.inr ⟨r, rfl, hguard, rfl, hv⟩
      · rw [if_neg hguard] at h
        obtain ⟨rfl, rfl⟩ := Prod.mk.inj (Option.some.inj h)
        refine Or.inl ⟨rfl, rfl, ?_⟩
        intro s hs
        exact Option.some.inj hs ▸ Bool.eq_false_iff.mpr hguard

theorem returning_eq_none_iff {t : IndexedTable key index} {k : κ} {guard : ρ → Bool} {f : ρ → ρ}
    {keeps : ∀ r, key (f r) = key r} :
    t.returning k guard f keeps = none ↔
      ∃ r, t.find k = some r ∧ guard r = true ∧ t.taken (index (f r)) k = true := by
  unfold returning
  cases hr : t.find k with
  | none => simp
  | some r =>
      simp only
      by_cases hguard : guard r = true
      · rw [if_pos hguard, Option.map_eq_none_iff, modify_eq_none_iff, hr]
        simp [hguard]
      · rw [if_neg hguard]
        simp [hguard]

/-- When no row that the guard lets through gains an entry, the statement
answers: with the changed row, or with nothing on an unchanged table. -/
theorem returning_total (t : IndexedTable key index) (k : κ) (guard : ρ → Bool) (f : ρ → ρ)
    (keeps : ∀ r, key (f r) = key r)
    (h : ∀ r, guard r = true → index (f r) = index r ∨ index (f r) = none) :
    (∃ r u, t.find k = some r ∧ guard r = true ∧ t.modify k f keeps = some u ∧
        t.returning k guard f keeps = some (some (f r), u)) ∨
      ((∀ r, t.find k = some r → guard r = false) ∧
        t.returning k guard f keeps = some (none, t)) := by
  unfold returning
  cases hr : t.find k with
  | none => exact Or.inr ⟨by simp, rfl⟩
  | some r =>
      by_cases hguard : guard r = true
      · have hentry : ∀ s, t.find k = some s → index (f s) = index s ∨ index (f s) = none := by
          intro s hs
          rw [hr] at hs
          exact Option.some.inj hs ▸ h r hguard
        obtain ⟨u, hu⟩ := modify_isSome hentry
        refine Or.inl ⟨r, u, rfl, hguard, hu, ?_⟩
        simp only [hguard, if_true, hu, Option.map_some]
      · refine Or.inr ⟨?_, ?_⟩
        · intro s hs
          exact Option.some.inj hs ▸ Bool.eq_false_iff.mpr hguard
        · simp only [hguard, Bool.false_eq_true, if_false]

/-! ### `UPDATE .. WHERE` the key is one of a list -/

def modifyEach (t : IndexedTable key index) (keys : List κ) (f : ρ → ρ)
    (keeps : ∀ r, key (f r) = key r) : Option (IndexedTable key index) :=
  keys.foldlM (fun u k => u.modify k f keeps) t

/-- An update that keeps the entry of every row it changes succeeds, and
changes just the rows of the listed keys. -/
theorem modifyEach_spec (t : IndexedTable key index) (keys : List κ) (f : ρ → ρ)
    (keeps : ∀ r, key (f r) = key r) (distinct : keys.Nodup)
    (entry : ∀ k ∈ keys, ∀ r, t.find k = some r → index (f r) = index r) :
    ∃ u, t.modifyEach keys f keeps = some u ∧
      ∀ k, u.find k = if k ∈ keys then (t.find k).map f else t.find k := by
  induction keys generalizing t with
  | nil => exact ⟨t, rfl, by simp⟩
  | cons first rest ih =>
      obtain ⟨hfirst, hrest⟩ := List.nodup_cons.mp distinct
      obtain ⟨v, hv⟩ : ∃ v, t.modify first f keeps = some v :=
        modify_isSome fun r hr => Or.inl (entry first List.mem_cons_self r hr)
      have hother : ∀ k ∈ rest, v.find k = t.find k := by
        intro k hk
        exact find_modify_of_ne hv (fun heq => hfirst (heq ▸ hk))
      obtain ⟨u, hu, hfind⟩ := ih v hrest (by
        intro k hk r hr
        rw [hother k hk] at hr
        exact entry k (List.mem_cons_of_mem _ hk) r hr)
      refine ⟨u, ?_, ?_⟩
      · simp only [modifyEach, List.foldlM_cons, hv]
        exact hu
      · intro k
        rw [hfind k]
        by_cases hk : k ∈ rest
        · rw [if_pos hk, if_pos (List.mem_cons_of_mem _ hk), hother k hk]
        · rw [if_neg hk]
          by_cases heq : k = first
          · rw [heq, if_pos List.mem_cons_self, find_of_modify hv]
            cases hr : t.find first with
            | none => rfl
            | some r => rw [Option.map_some, Option.map_some, rewrite,
                if_pos (find_eq_some_iff.mp hr).2]
          · rw [if_neg (by simp [heq, hk]), find_modify_of_ne hv heq]

end IndexedTable

/-! ### `ORDER BY .. LIMIT 1` -/

/-- The first row of an order; of rows that tie, the first listed. -/
def firstBy {ρ : Type*} (before : ρ → ρ → Bool) : List ρ → Option ρ
  | [] => none
  | r :: rest =>
      match firstBy before rest with
      | none => some r
      | some s => if before s r then some s else some r

theorem mem_of_firstBy {ρ : Type*} {before : ρ → ρ → Bool} {l : List ρ} {r : ρ}
    (h : firstBy before l = some r) : r ∈ l := by
  induction l with
  | nil => exact absurd h (by simp [firstBy])
  | cons x rest ih =>
      simp only [firstBy] at h
      cases hs : firstBy before rest with
      | none =>
          rw [hs] at h
          exact Option.some.inj h ▸ List.mem_cons_self
      | some s =>
          rw [hs] at h
          simp only at h
          split at h
          · exact List.mem_cons_of_mem x (ih (hs.trans h))
          · exact Option.some.inj h ▸ List.mem_cons_self

