import Mathlib.Data.List.Forall2

/-! # Runs of fallible steps

What an `Except` computation that returned has done, step by step. -/

namespace Outcome

universe u v w

variable {ε : Type u} {α β : Type v} {σ : Type v}

theorem bind_eq_ok {x : Except ε α} {f : α → Except ε β} {b : β} :
    x >>= f = .ok b ↔ ∃ a, x = .ok a ∧ f a = .ok b := by
  cases x with
  | error e =>
    constructor
    · intro h
      cases h
    · rintro ⟨a, ha, -⟩
      cases ha
  | ok a =>
    constructor
    · intro h
      exact ⟨a, rfl, h⟩
    · rintro ⟨c, hc, h⟩
      cases hc
      exact h

/-- The computation does not raise. -/
def Returns (x : Except ε α) : Prop := ∃ a, x = .ok a

theorem returns_ok (a : α) : Returns (.ok a : Except ε α) := ⟨a, rfl⟩

theorem not_returns_error (e : ε) : ¬ Returns (.error e : Except ε α) := by
  rintro ⟨a, h⟩
  cases h

theorem returns_bind {x : Except ε α} {f : α → Except ε β} :
    Returns (x >>= f) ↔ ∃ a, x = .ok a ∧ Returns (f a) := by
  unfold Returns
  constructor
  · rintro ⟨b, h⟩
    obtain ⟨a, ha, hb⟩ := bind_eq_ok.mp h
    exact ⟨a, ha, b, hb⟩
  · rintro ⟨a, ha, b, hb⟩
    exact ⟨b, bind_eq_ok.mpr ⟨a, ha, hb⟩⟩

theorem returns_map {x : Except ε α} {f : α → β} : Returns (x.map f) ↔ Returns x := by
  cases x with
  | error e => exact ⟨fun h => absurd h (not_returns_error e), fun h => absurd h (not_returns_error e)⟩
  | ok a => exact ⟨fun _ => returns_ok a, fun _ => returns_ok (f a)⟩

theorem returns_bind_iff {x : Except ε α} {f : α → Except ε β} :
    Returns (x >>= f) ↔
      Returns x ∧ ∀ a, x = .ok a → Returns (f a) := by
  rw [returns_bind]
  constructor
  · rintro ⟨a, rfl, h⟩
    refine ⟨returns_ok a, fun b hb => ?_⟩
    cases hb
    exact h
  · rintro ⟨⟨a, rfl⟩, h⟩
    exact ⟨a, rfl, h a rfl⟩

/-- A step whose value does not decide whether the rest returns. -/
theorem returns_bind_const {x : Except ε α} {f : α → Except ε β}
    {others : Prop} (h : ∀ a, x = .ok a → (Returns (f a) ↔ others)) :
    Returns (x >>= f) ↔ Returns x ∧ others := by
  rw [returns_bind_iff]
  constructor
  · rintro ⟨⟨a, ha⟩, hrest⟩
    exact ⟨⟨a, ha⟩, (h a ha).mp (hrest a ha)⟩
  · rintro ⟨hreturns, hothers⟩
    exact ⟨hreturns, fun a ha => (h a ha).mpr hothers⟩

theorem returns_bind_ok {x : Except ε α} {f : α → β} :
    Returns (x >>= fun a => .ok (f a)) ↔ Returns x := by
  rw [returns_bind_iff]
  exact ⟨fun h => h.1, fun h => ⟨h, fun _ _ => returns_ok _⟩⟩

/-- Nothing more is asked for where a value is found. -/
theorem returns_orElse {x : Except ε (Option α)}
    {f : Option α → Except ε β} (hfound : ∀ a, Returns (f (some a))) :
    Returns (x >>= f) ↔ Returns x ∧ (x = .ok none → Returns (f none)) := by
  rw [returns_bind_iff]
  constructor
  · rintro ⟨hx, h⟩
    exact ⟨hx, fun hnone => h none hnone⟩
  · rintro ⟨hx, hnone⟩
    refine ⟨hx, fun found hresult => ?_⟩
    cases found with
    | none => exact hnone hresult
    | some a => exact hfound a

theorem mapM_eq_ok {f : α → Except ε β} {l : List α} {r : List β} :
    l.mapM f = .ok r ↔ List.Forall₂ (fun a b => f a = .ok b) l r := by
  induction l generalizing r with
  | nil =>
      rw [List.mapM_nil, List.forall₂_nil_left_iff]
      exact ⟨fun h => (Except.ok.inj h).symm, fun h => congrArg Except.ok h.symm⟩
  | cons a l ih =>
      rw [List.mapM_cons, bind_eq_ok, List.forall₂_cons_left_iff]
      constructor
      · rintro ⟨b, hb, hrest⟩
        obtain ⟨rest, hmap, heq⟩ := bind_eq_ok.mp hrest
        exact ⟨b, rest, hb, ih.mp hmap, (Except.ok.inj heq).symm⟩
      · rintro ⟨b, rest, hb, hmap, rfl⟩
        exact ⟨b, hb, bind_eq_ok.mpr ⟨rest, ih.mpr hmap, rfl⟩⟩

theorem exists_mapM {f : α → Except ε β} {l : List α} (h : ∀ a ∈ l, ∃ b, f a = .ok b) :
    ∃ r, l.mapM f = .ok r := by
  induction l with
  | nil => exact ⟨[], rfl⟩
  | cons a l ih =>
      obtain ⟨b, hb⟩ := h a List.mem_cons_self
      obtain ⟨rest, hrest⟩ := ih fun c hc => h c (List.mem_cons_of_mem a hc)
      exact ⟨b :: rest, mapM_eq_ok.mpr (.cons hb (mapM_eq_ok.mp hrest))⟩

/-! ### Lists related entry by entry -/

section Related

variable {ρ τ : Type*} {R : ρ → τ → Prop} {l : List ρ} {m : List τ}

theorem forall₂_mem_left (h : List.Forall₂ R l m) {a : ρ} (ha : a ∈ l) : ∃ b ∈ m, R a b := by
  induction h with
  | nil => exact absurd ha List.not_mem_nil
  | cons hfirst _ ih =>
      rcases List.mem_cons.mp ha with rfl | hrest
      · exact ⟨_, List.mem_cons_self, hfirst⟩
      · obtain ⟨b, hb, hrelated⟩ := ih hrest
        exact ⟨b, List.mem_cons_of_mem _ hb, hrelated⟩

theorem forall₂_mem_right (h : List.Forall₂ R l m) {b : τ} (hb : b ∈ m) : ∃ a ∈ l, R a b :=
  forall₂_mem_left h.flip hb

theorem forall₂_find? {p : ρ → Bool} {q : τ → Bool} (h : List.Forall₂ R l m)
    (hfound : ∀ a b, R a b → p a = q b) : Option.Rel R (l.find? p) (m.find? q) := by
  induction h with
  | nil => exact Option.Rel.none
  | @cons a b _ _ hfirst _ ih =>
      rw [List.find?_cons, List.find?_cons, ← hfound a b hfirst]
      cases p a with
      | true => exact Option.Rel.some hfirst
      | false => exact ih

end Related

theorem exists_of_mem_mapM {f : α → Except ε β} {l : List α} {r : List β} (h : l.mapM f = .ok r)
    {b : β} (hb : b ∈ r) : ∃ a ∈ l, f a = .ok b :=
  forall₂_mem_right (mapM_eq_ok.mp h) hb

theorem mapM_mem {f : α → Except ε β} {l : List α} {r : List β} (h : l.mapM f = .ok r) {a : α}
    (ha : a ∈ l) : ∃ b ∈ r, f a = .ok b :=
  forall₂_mem_left (mapM_eq_ok.mp h) ha

theorem mapM_eq_filterMap {f : α → Except ε β} {l : List α} {r : List β} (h : l.mapM f = .ok r) :
    r = l.filterMap fun a => (f a).toOption := by
  have hpairs := mapM_eq_ok.mp h
  clear h
  induction hpairs with
  | nil => rfl
  | cons hfirst _ ih =>
      rw [List.filterMap_cons, hfirst, ih]
      rfl

theorem forM_eq_error {f : α → Except ε PUnit} {l : List α} {e : ε} (h : l.forM f = .error e) :
    ∃ a ∈ l, f a = .error e := by
  induction l with
  | nil => exact absurd h (by simp [pure, Except.pure])
  | cons a l ih =>
      change (f a >>= fun _ => l.forM f) = .error e at h
      cases hfirst : f a with
      | error first =>
          rw [hfirst] at h
          exact ⟨a, List.mem_cons_self, hfirst.trans h⟩
      | ok _ =>
          rw [hfirst] at h
          obtain ⟨c, hc, hfc⟩ := ih h
          exact ⟨c, List.mem_cons_of_mem a hc, hfc⟩

theorem foldlM_eq_error {step : σ → α → Except ε σ} {l : List α} {s : σ} {e : ε}
    (h : l.foldlM step s = .error e) : ∃ a ∈ l, ∃ t, step t a = .error e := by
  induction l generalizing s with
  | nil => exact absurd h (by simp [pure, Except.pure])
  | cons a l ih =>
      rw [List.foldlM_cons] at h
      cases hfirst : step s a with
      | error first =>
          rw [hfirst] at h
          exact ⟨a, List.mem_cons_self, s, hfirst.trans h⟩
      | ok t =>
          rw [hfirst] at h
          obtain ⟨c, hc, u, hu⟩ := ih h
          exact ⟨c, List.mem_cons_of_mem a hc, u, hu⟩

/-- What every step keeps, of the items done so far, holds of all items at the end. -/
theorem foldlM_invariant {step : σ → α → Except ε σ} {invariant : List α → σ → Prop}
    (hstep : ∀ done s a t, invariant done s → step s a = .ok t → invariant (done ++ [a]) t)
    {l : List α} {s t : σ} (hstart : invariant [] s) (h : l.foldlM step s = .ok t) :
    invariant l t := by
  suffices hrun : ∀ done s, invariant done s → l.foldlM step s = .ok t → invariant (done ++ l) t from
    hrun [] s hstart h
  clear hstart h s
  induction l with
  | nil =>
      intro done s hs h
      rw [List.append_nil, ← Except.ok.inj h]
      exact hs
  | cons a l ih =>
      intro done s hs h
      rw [List.foldlM_cons] at h
      obtain ⟨next, hnext, hrest⟩ := bind_eq_ok.mp h
      have hdone := ih (done ++ [a]) next (hstep done s a next hs hnext) hrest
      rwa [List.append_assoc] at hdone

/-- Two loops over one list from related states: the second ends in a related state or stops
with one of the errors that its steps may stop with. -/
theorem foldlM_related {R : σ → σ → Prop} {E : ε → Prop} {step other : σ → α → Except ε σ}
    {l : List α}
    (hstep : ∀ a ∈ l, ∀ s s' t, R s s' → step s a = .ok t →
      (∃ t', other s' a = .ok t' ∧ R t t') ∨ ∃ e, other s' a = .error e ∧ E e)
    {s s' t : σ} (hstart : R s s') (h : l.foldlM step s = .ok t) :
    (∃ t', l.foldlM other s' = .ok t' ∧ R t t') ∨ ∃ e, l.foldlM other s' = .error e ∧ E e := by
  induction l generalizing s s' with
  | nil =>
    cases h
    exact Or.inl ⟨s', rfl, hstart⟩
  | cons a l ih =>
    rw [List.foldlM_cons] at h ⊢
    obtain ⟨next, hnext, hrest⟩ := bind_eq_ok.mp h
    cases hstep a List.mem_cons_self s s' next hstart hnext with
    | inl hok =>
      obtain ⟨next', hnext', hrelated⟩ := hok
      rw [hnext']
      exact ih (fun b hb => hstep b (List.mem_cons_of_mem a hb)) hrelated hrest
    | inr herror =>
      obtain ⟨e, he, hallowed⟩ := herror
      rw [he]
      exact Or.inr ⟨e, rfl, hallowed⟩

end Outcome
