import Mathlib.Data.List.Induction
import Mathlib.Data.List.Nodup
import Mathlib.Data.Set.Insert
import Mathlib.Order.Basic

/-! # Newest-wins registers

A register keeps the first value it receives and replaces it only by a value
with a later time.  Whatever the order of arrival, it holds a newest value of
everything that arrived. -/

namespace Newest

variable {ν τ : Type*} [LinearOrder τ] (time : ν → τ)

def absorb (stored : Option ν) (x : ν) : Option ν :=
  match stored with
  | none => some x
  | some y => if time y < time x then some x else some y

/-- The register holds a newest value of the history; it is empty only when
nothing arrived. -/
structure IsNewest (history : Set ν) (stored : Option ν) : Prop where
  arrived : ∀ x, stored = some x → x ∈ history
  newest : ∀ y ∈ history, ∃ x, stored = some x ∧ time y ≤ time x

variable {time}

theorem isNewest_empty : IsNewest time ∅ (none : Option ν) :=
  ⟨fun _ h => absurd h (by simp), fun _ h => absurd h (Set.notMem_empty _)⟩

theorem absorb_of_le {x y : ν} (h : time x ≤ time y) : absorb time (some y) x = some y := by
  simp only [absorb, if_neg (not_lt.mpr h)]

theorem IsNewest.insert_of_le {history : Set ν} {stored : Option ν}
    (h : IsNewest time history stored) {x y : ν} (hy : stored = some y) (hle : time x ≤ time y) :
    IsNewest time (insert x history) stored := by
  refine ⟨fun z hz => Set.mem_insert_of_mem x (h.arrived z hz), ?_⟩
  intro z hz
  rcases Set.mem_insert_iff.mp hz with rfl | hold
  · exact ⟨y, hy, hle⟩
  · exact h.newest z hold

theorem IsNewest.absorb {history : Set ν} {stored : Option ν}
    (h : IsNewest time history stored) (x : ν) :
    IsNewest time (insert x history) (absorb time stored x) := by
  cases hs : stored with
  | none =>
      refine ⟨?_, ?_⟩
      · intro z hz
        have heq : x = z := Option.some.inj hz
        exact heq ▸ Set.mem_insert x history
      · intro z hz
        rcases Set.mem_insert_iff.mp hz with heq | hold
        · exact ⟨x, rfl, by rw [heq]⟩
        · obtain ⟨y, hy, -⟩ := h.newest z hold
          rw [hs] at hy
          exact absurd hy (by simp)
  | some y =>
      by_cases hlt : time y < time x
      · simp only [Newest.absorb, if_pos hlt]
        refine ⟨?_, ?_⟩
        · intro z hz
          have heq : x = z := Option.some.inj hz
          exact heq ▸ Set.mem_insert x history
        · intro z hz
          rcases Set.mem_insert_iff.mp hz with heq | hold
          · exact ⟨x, rfl, by rw [heq]⟩
          · obtain ⟨w, hw, hle⟩ := h.newest z hold
            rw [hs] at hw
            have heq : y = w := Option.some.inj hw
            exact ⟨x, rfl, (heq ▸ hle).trans hlt.le⟩
      · rw [absorb_of_le (not_lt.mp hlt)]
        exact (hs ▸ h).insert_of_le rfl (not_lt.mp hlt)

/-! ### A register for each key -/

section Dictionary

variable {κ : Type*} {key : ν → κ}

/-- It is later than what came before with its key, and nothing later came. -/
def Stands (key : ν → κ) (time : ν → τ) (arrived : List ν) (x : ν) : Prop :=
  ∃ before after, arrived = before ++ x :: after ∧
    (∀ y ∈ before, key y = key x → time y < time x) ∧
    ∀ y ∈ after, key y = key x → time y ≤ time x

theorem Stands.mem {arrived : List ν} {x : ν} (h : Stands key time arrived x) : x ∈ arrived := by
  obtain ⟨before, after, rfl, -, -⟩ := h
  exact List.mem_append_right _ List.mem_cons_self

theorem stands_append_singleton {arrived : List ν} {x y : ν} :
    Stands key time (arrived ++ [x]) y ↔
      (Stands key time arrived y ∧ (key x = key y → time x ≤ time y)) ∨
        (y = x ∧ ∀ z ∈ arrived, key z = key x → time z < time x) := by
  constructor
  · rintro ⟨before, after, hsplit, hbefore, hafter⟩
    rcases List.eq_nil_or_concat' after with rfl | ⟨rest, last, rfl⟩
    · obtain ⟨rfl, heq⟩ := List.append_inj' hsplit rfl
      have hsame : x = y := (List.cons.inj heq).1
      exact Or.inr ⟨hsame.symm, hsame ▸ hbefore⟩
    · have hlast : arrived ++ [x] = (before ++ y :: rest) ++ [last] := by
        rw [hsplit, List.append_assoc]
        rfl
      obtain ⟨rfl, heq⟩ := List.append_inj' hlast rfl
      have hsame : x = last := (List.cons.inj heq).1
      refine Or.inl ⟨⟨before, rest, rfl, hbefore, ?_⟩, ?_⟩
      · exact fun z hz => hafter z (List.mem_append_left _ hz)
      · exact hafter x (List.mem_append_right _ (List.mem_singleton.mpr hsame))
  · rintro (⟨⟨before, after, rfl, hbefore, hafter⟩, hlast⟩ | ⟨rfl, hbefore⟩)
    · refine ⟨before, after ++ [x], by simp, hbefore, ?_⟩
      intro z hz
      rcases List.mem_append.mp hz with hold | hnew
      · exact hafter z hold
      · rw [List.mem_singleton.mp hnew]
        exact hlast
    · exact ⟨arrived, [], rfl, hbefore, by simp⟩

/-- The stored values have distinct keys, and they are those that stand. -/
structure Holds (key : ν → κ) (time : ν → τ) (arrived stored : List ν) : Prop where
  distinct : (stored.map key).Nodup
  mem_iff : ∀ x, x ∈ stored ↔ Stands key time arrived x
  newest : ∀ x ∈ arrived, ∃ y ∈ stored, key y = key x ∧ time x ≤ time y

variable [DecidableEq κ]

def put (key : ν → κ) (time : ν → τ) (stored : List ν) (x : ν) : List ν :=
  if stored.any fun y => key y = key x then
    stored.map fun y => if key y = key x ∧ time y < time x then x else y
  else stored ++ [x]

theorem Holds.put {arrived stored : List ν} (h : Holds key time arrived stored) (x : ν) :
    Holds key time (arrived ++ [x]) (put key time stored x) := by
  have hunique : ∀ a ∈ stored, ∀ b ∈ stored, key a = key b → a = b :=
    fun a ha b hb => List.inj_on_of_nodup_map h.distinct ha hb
  unfold Newest.put
  split
  · rename_i hany
    obtain ⟨held, hheld, hkey⟩ := List.any_eq_true.mp hany
    have hkey : key held = key x := of_decide_eq_true hkey
    have hkeys : (stored.map fun y => if key y = key x ∧ time y < time x then x else y).map key =
        stored.map key := by
      rw [List.map_map]
      refine List.map_congr_left ?_
      intro y _
      simp only [Function.comp_apply]
      split
      · rename_i hlate
        exact hlate.1.symm
      · rfl
    refine ⟨hkeys ▸ h.distinct, ?_, ?_⟩
    · intro y
      rw [List.mem_map, stands_append_singleton]
      constructor
      · rintro ⟨z, hz, heq⟩
        split at heq
        · rename_i hlate
          refine Or.inr ⟨heq.symm, ?_⟩
          intro w hw hwkey
          obtain ⟨v, hv, hvkey, hle⟩ := h.newest w hw
          rw [hunique v hv z hz ((hvkey.trans hwkey).trans hlate.1.symm)] at hle
          exact lt_of_le_of_lt hle hlate.2
        · rename_i hkept
          rw [← heq]
          exact Or.inl ⟨(h.mem_iff z).mp hz, fun hzkey => not_lt.mp fun hlt =>
            hkept ⟨hzkey.symm, hlt⟩⟩
      · rintro (⟨hstands, hlast⟩ | ⟨rfl, hbefore⟩)
        · refine ⟨y, (h.mem_iff y).mpr hstands, if_neg ?_⟩
          rintro ⟨hykey, hlt⟩
          exact absurd (hlast hykey.symm) (not_le.mpr hlt)
        · exact ⟨held, hheld, if_pos ⟨hkey, hbefore held ((h.mem_iff held).mp hheld).mem hkey⟩⟩
    · intro y hy
      have hstored : ∃ z ∈ stored, key z = key y ∧ (time y ≤ time z ∨ y = x) := by
        rcases List.mem_append.mp hy with hold | hnew
        · obtain ⟨z, hz, hzkey, hle⟩ := h.newest y hold
          exact ⟨z, hz, hzkey, Or.inl hle⟩
        · have hsame := List.mem_singleton.mp hnew
          exact ⟨held, hheld, hsame ▸ hkey, Or.inr hsame⟩
      obtain ⟨z, hz, hzkey, hle⟩ := hstored
      refine ⟨_, List.mem_map_of_mem hz, ?_⟩
      split
      · rename_i hlate
        refine ⟨hlate.1.symm.trans hzkey, ?_⟩
        rcases hle with hle | rfl
        · exact hle.trans hlate.2.le
        · exact le_rfl
      · rename_i hkept
        refine ⟨hzkey, ?_⟩
        rcases hle with hle | rfl
        · exact hle
        · exact not_lt.mp fun hlt => hkept ⟨hzkey, hlt⟩
  · rename_i hnone
    have hfree : ∀ y ∈ stored, key y ≠ key x := by
      intro y hy hkey
      exact hnone (List.any_eq_true.mpr ⟨y, hy, decide_eq_true hkey⟩)
    have harrived : ∀ y ∈ arrived, key y ≠ key x := by
      intro y hy hkey
      obtain ⟨z, hz, hzkey, -⟩ := h.newest y hy
      exact hfree z hz (hzkey.trans hkey)
    refine ⟨?_, ?_, ?_⟩
    · rw [List.map_append, List.nodup_append]
      refine ⟨h.distinct, List.nodup_singleton _, ?_⟩
      intro a ha b hb hab
      obtain ⟨y, hy, rfl⟩ := List.mem_map.mp ha
      exact hfree y hy (hab.trans (List.mem_singleton.mp hb))
    · intro y
      rw [List.mem_append, List.mem_singleton, stands_append_singleton, h.mem_iff]
      constructor
      · rintro (hstands | rfl)
        · exact Or.inl ⟨hstands, fun hkey => absurd hkey.symm (harrived y hstands.mem)⟩
        · exact Or.inr ⟨rfl, fun z hz hkey => absurd hkey (harrived z hz)⟩
      · rintro (⟨hstands, -⟩ | ⟨rfl, -⟩)
        · exact Or.inl hstands
        · exact Or.inr rfl
    · intro y hy
      rcases List.mem_append.mp hy with hold | hnew
      · obtain ⟨z, hz, hzkey, hle⟩ := h.newest y hold
        exact ⟨z, List.mem_append_left _ hz, hzkey, hle⟩
      · rw [List.mem_singleton.mp hnew]
        exact ⟨x, List.mem_append_right _ List.mem_cons_self, rfl, le_rfl⟩

theorem holds_foldl_put (arrived : List ν) :
    Holds key time arrived (arrived.foldl (put key time) []) := by
  induction arrived using List.reverseRecOn with
  | nil =>
      refine ⟨List.nodup_nil, ?_, fun x hx => absurd hx List.not_mem_nil⟩
      intro x
      exact ⟨fun hx => absurd hx List.not_mem_nil, fun h => absurd h.mem List.not_mem_nil⟩
  | append_singleton arrived x ih =>
      rw [List.foldl_append, List.foldl_cons, List.foldl_nil]
      exact ih.put x

end Dictionary

end Newest
