import Mathlib.Logic.Relation
import Mathlib.Data.Nat.Notation
import Mathlib.Tactic.SplitIfs
import Mathlib.Algebra.Order.Ring.Nat

/-! # While loops

A loop whose body may raise, run with a bound on the number of turns. -/

namespace While

universe u v

variable {σ : Type u} {ε : Type v} {guard : σ → Bool} {body : σ → Except ε σ}
  {invariant : σ → Prop} {s t : σ} {e : ε} {outcome other : Except ε σ}

/-- `while guard(s): s = body(s)` for at most `n` turns; `none` where it has not ended. -/
def run (guard : σ → Bool) (body : σ → Except ε σ) : ℕ → σ → Option (Except ε σ)
  | 0, s => if guard s then none else some (.ok s)
  | n + 1, s =>
      if guard s then
        match body s with
        | .error e => some (.error e)
        | .ok t => run guard body n t
      else some (.ok s)

/-- The loop ends with the outcome. -/
def Ends (guard : σ → Bool) (body : σ → Except ε σ) (s : σ) (outcome : Except ε σ) : Prop :=
  ∃ n, run guard body n s = some outcome

def Turn (guard : σ → Bool) (body : σ → Except ε σ) (s t : σ) : Prop :=
  guard s = true ∧ body s = .ok t

abbrev Reaches (guard : σ → Bool) (body : σ → Except ε σ) : σ → σ → Prop :=
  Relation.ReflTransGen (Turn guard body)

theorem run_succ_of_turn (h : Turn guard body s t) (n : ℕ) :
    run guard body (n + 1) s = run guard body n t := by
  rw [run, if_pos h.1, h.2]

theorem run_mono {n m : ℕ} (h : run guard body n s = some outcome) (hle : n ≤ m) :
    run guard body m s = some outcome := by
  induction n generalizing s m with
  | zero =>
    unfold run at h
    split_ifs at h with hguard
    cases m with
    | zero => rw [run, if_neg hguard, h]
    | succ m => rw [run, if_neg hguard, h]
  | succ n ih =>
    obtain ⟨m, rfl⟩ : ∃ k, m = k + 1 := ⟨m - 1, by omega⟩
    unfold run at h ⊢
    split_ifs at h ⊢ with hguard
    · cases hbody : body s with
      | error e =>
        rw [hbody] at h
        exact h
      | ok t =>
        rw [hbody] at h
        exact ih h (by omega)
    · exact h

theorem Ends.unique (h : Ends guard body s outcome) (hother : Ends guard body s other) :
    outcome = other := by
  obtain ⟨n, hn⟩ := h
  obtain ⟨m, hm⟩ := hother
  have hn' := run_mono hn (Nat.le_max_left n m)
  have hm' := run_mono hm (Nat.le_max_right n m)
  exact Option.some.inj (hn'.symm.trans hm')

theorem ends_of_stop (h : guard s = false) : Ends guard body s (.ok s) :=
  ⟨0, by simp [run, h]⟩

theorem ends_of_raise (hguard : guard s = true) (hbody : body s = .error e) :
    Ends guard body s (.error e) :=
  ⟨1, by rw [run, if_pos hguard, hbody]⟩

theorem ends_of_turn (h : Turn guard body s t) (hends : Ends guard body t outcome) :
    Ends guard body s outcome := by
  obtain ⟨n, hn⟩ := hends
  exact ⟨n + 1, (run_succ_of_turn h n).trans hn⟩

theorem ends_of_reaches (h : Reaches guard body s t) (hends : Ends guard body t outcome) :
    Ends guard body s outcome := by
  induction h using Relation.ReflTransGen.head_induction_on with
  | refl => exact hends
  | head hturn _ ih => exact ends_of_turn hturn ih

/-- A loop that has ended stopped at its guard, or in its body. -/
theorem ends_iff :
    Ends guard body s outcome ↔ ∃ t, Reaches guard body s t ∧
      ((guard t = false ∧ outcome = .ok t) ∨
        guard t = true ∧ ∃ e, body t = .error e ∧ outcome = .error e) := by
  constructor
  · rintro ⟨n, hn⟩
    induction n generalizing s with
    | zero =>
      unfold run at hn
      split_ifs at hn with hguard
      cases hn
      exact ⟨s, .refl, Or.inl ⟨by simpa using hguard, rfl⟩⟩
    | succ n ih =>
      unfold run at hn
      split_ifs at hn with hguard
      · cases hbody : body s with
        | error e =>
          rw [hbody] at hn
          cases hn
          exact ⟨s, .refl, Or.inr ⟨hguard, e, hbody, rfl⟩⟩
        | ok next =>
          rw [hbody] at hn
          obtain ⟨t, hreaches, hstop⟩ := ih hn
          exact ⟨t, hreaches.head ⟨hguard, hbody⟩, hstop⟩
      · cases hn
        exact ⟨s, .refl, Or.inl ⟨by simpa using hguard, rfl⟩⟩
  · rintro ⟨t, hreaches, ⟨hguard, rfl⟩ | ⟨hguard, e, hbody, rfl⟩⟩
    · exact ends_of_reaches hreaches (ends_of_stop hguard)
    · exact ends_of_reaches hreaches (ends_of_raise hguard hbody)

theorem invariant_of_reaches (hstep : ∀ s t, invariant s → Turn guard body s t → invariant t)
    (hstart : invariant s) (h : Reaches guard body s t) : invariant t := by
  induction h with
  | refl => exact hstart
  | tail _ hturn ih => exact hstep _ _ ih hturn

/-- A loop whose turns go down a well-founded relation ends. -/
theorem exists_ends_of_wellFounded {ω : Type*} {below : ω → ω → Prop} {measure : σ → ω}
    (hwf : WellFounded below)
    (hstep : ∀ s t, invariant s → Turn guard body s t →
      invariant t ∧ below (measure t) (measure s))
    (hstart : invariant s) : ∃ outcome, Ends guard body s outcome := by
  induction hmeasure : measure s using hwf.induction generalizing s with
  | _ m ih =>
    subst hmeasure
    cases hguard : guard s with
    | false => exact ⟨_, ends_of_stop hguard⟩
    | true =>
      cases hbody : body s with
      | error e => exact ⟨_, ends_of_raise hguard hbody⟩
      | ok t =>
        obtain ⟨hnext, hbelow⟩ := hstep s t hstart ⟨hguard, hbody⟩
        obtain ⟨outcome, hends⟩ := ih (measure t) hbelow hnext rfl
        exact ⟨outcome, ends_of_turn ⟨hguard, hbody⟩ hends⟩

/-- A loop that counts up to a bound ends. -/
theorem exists_ends {measure : σ → ℕ} {bound : ℕ}
    (hstep : ∀ s t, invariant s → Turn guard body s t → invariant t ∧ measure s < measure t)
    (hbound : ∀ s, invariant s → measure s ≤ bound) (hstart : invariant s) :
    ∃ outcome, Ends guard body s outcome := by
  have hdown : ∀ s t, invariant s → Turn guard body s t →
      invariant t ∧ bound - measure t < bound - measure s := by
    intro s t hs hst
    obtain ⟨hnext, hgrows⟩ := hstep s t hs hst
    have hle := hbound t hnext
    exact ⟨hnext, by omega⟩
  exact exists_ends_of_wellFounded wellFounded_lt hdown hstart

end While
