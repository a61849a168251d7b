import Mathlib.Order.Basic
import FloodRisk.Lib.Transition

/-! # Stored generations

A component stores the generation of the last outcome it recorded.  Its steps
may record outcomes of cycles that overlap, so a step can put an older
generation over a newer one.  Runs in which no step does so record their
generations in order. -/

namespace Generations
open Transition

variable {σ α γ : Type*} [Preorder γ]

/-- The stored generation is the one the step records, if it records one. -/
structure Stored (step : σ → α → σ) (stored : σ → Option γ) (records : σ → α → Option γ) :
    Prop where
  stored_step : ∀ s a, stored (step s a) = (records s a).or (stored s)

/-- The step records nothing older than what is stored. -/
def Forward (stored : σ → Option γ) (records : σ → α → Option γ) (s : σ) (a : α) : Prop :=
  ∀ t ∈ stored s, ∀ g ∈ records s a, t ≤ g

def NeverDecreases (step : σ → α → σ) (stored : σ → Option γ) (s : σ) (a : α) : Prop :=
  ∀ t ∈ stored s, ∃ later ∈ stored (step s a), t ≤ later

def recorded (step : σ → α → σ) (records : σ → α → Option γ) : σ → List α → List γ
  | _, [] => []
  | s, a :: rest => (records s a).toList ++ recorded step records (step s a) rest

variable {step : σ → α → σ} {stored : σ → Option γ} {records : σ → α → Option γ}

theorem forward_iff_neverDecreases (law : Stored step stored records) (s : σ) (a : α) :
    Forward stored records s a ↔ NeverDecreases step stored s a := by
  unfold Forward NeverDecreases
  rw [law.stored_step s a]
  cases hr : records s a with
  | none =>
      simp only [Option.none_or]
      exact ⟨fun _ t ht => ⟨t, ht, le_refl t⟩, fun _ t _ g hg => absurd hg (by simp)⟩
  | some g =>
      simp only [Option.some_or, Option.mem_def, Option.some.injEq, forall_eq', exists_eq_left']

theorem forward_at (s : σ) {first : List α} {a : α} {second : List α}
    (along : Along step (Forward stored records) s (first ++ a :: second)) :
    Along step (Forward stored records) s first ∧
      Forward stored records (run step s first) a := by
  have hsplit := (along_append step _ s first (a :: second)).mp along
  exact ⟨hsplit.1, hsplit.2.1⟩

/-- What is stored after a forward run is no older than anything stored before
or recorded on the way. -/
theorem recorded_le_stored (law : Stored step stored records) {s : σ} {actions : List α}
    (along : Along step (Forward stored records) s actions) :
    ∀ g, g ∈ stored s ∨ g ∈ recorded step records s actions →
      ∃ t ∈ stored (run step s actions), g ≤ t := by
  induction actions generalizing s with
  | nil =>
      intro g hg
      rcases hg with hstored | hnone
      · exact ⟨g, hstored, le_refl g⟩
      · exact absurd hnone List.not_mem_nil
  | cons a rest ih =>
      intro g hg
      have hnext := (forward_iff_neverDecreases law s a).mp along.1
      rcases hg with hstored | hrecorded
      · obtain ⟨later, hlater, hle⟩ := hnext g hstored
        obtain ⟨t, ht, hle'⟩ := ih along.2 later (Or.inl hlater)
        exact ⟨t, ht, le_trans hle hle'⟩
      · rcases List.mem_append.mp hrecorded with hhere | hrest
        · have hkept : g ∈ stored (step s a) := by
            rw [law.stored_step s a, Option.mem_toList.mp hhere]
            rfl
          exact ih along.2 g (Or.inl hkept)
        · exact ih along.2 g (Or.inr hrest)

theorem recorded_le_of_forward (law : Stored step stored records) {s : σ} {first : List α} {a : α}
    {second : List α} (along : Along step (Forward stored records) s (first ++ a :: second))
    {g : γ} (hg : g ∈ records (run step s first) a) :
    ∀ t ∈ recorded step records s first, t ≤ g := by
  intro t ht
  obtain ⟨hfirst, hhere⟩ := forward_at s along
  obtain ⟨later, hlater, hle⟩ := recorded_le_stored law hfirst t (Or.inr ht)
  exact le_trans hle (hhere later hlater g hg)

end Generations
