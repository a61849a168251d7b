import Mathlib.Data.Int.Order.Basic

/-! # Leases that expire

A lease is granted when it is free, has run out or is the holder's own; only
its holder gives it up. -/

structure Lease (η : Type*) where
  holder : η
  expiresAt : ℤ
  deriving DecidableEq

namespace Lease

variable {η : Type*} [DecidableEq η]

def acquire (now ttl : ℤ) (holder : η) (lease : Option (Lease η)) : Bool × Option (Lease η) :=
  match lease with
  | none => (true, some ⟨holder, now + ttl⟩)
  | some current =>
      if current.expiresAt ≤ now ∨ current.holder = holder then (true, some ⟨holder, now + ttl⟩)
      else (false, some current)

def release (holder : η) (lease : Option (Lease η)) : Option (Lease η) :=
  lease.filter fun current => current.holder ≠ holder

theorem acquire_cases (now ttl : ℤ) (holder : η) (lease : Option (Lease η)) :
    (acquire now ttl holder lease = (true, some ⟨holder, now + ttl⟩) ∧
        ∀ current, lease = some current → current.expiresAt ≤ now ∨ current.holder = holder) ∨
      acquire now ttl holder lease = (false, lease) := by
  cases lease with
  | none => exact Or.inl ⟨rfl, by simp⟩
  | some current =>
      by_cases hfree : current.expiresAt ≤ now ∨ current.holder = holder
      · exact Or.inl ⟨if_pos hfree, fun other h => Option.some.inj h ▸ hfree⟩
      · exact Or.inr (if_neg hfree)

theorem release_cases (holder : η) (lease : Option (Lease η)) :
    release holder lease = lease ∨
      ∃ current, lease = some current ∧ current.holder = holder ∧ release holder lease = none := by
  cases lease with
  | none => exact Or.inl rfl
  | some current =>
      by_cases hown : current.holder = holder
      · exact Or.inr ⟨current, rfl, hown, by simp [release, hown]⟩
      · exact Or.inl (by simp [release, hown])

end Lease
