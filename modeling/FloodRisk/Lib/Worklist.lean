import FloodRisk.Lib.While
import Mathlib.Data.Finset.Card

/-! # Worklists

A queue of items to be visited and the items visited so far, which at the end are the closure
of the queue it started with. -/

namespace Worklist

universe u

variable {α : Type u} [DecidableEq α] {skip : α → Bool} {next : α → List α} {start : List α}

structure State (α : Type u) where
  visited : List α
  queue : List α

/-- The first item of the queue, dropped where it is skipped or visited already. -/
def body (skip : α → Bool) (next : α → List α) (s : State α) : Except Empty (State α) :=
  match s.queue with
  | [] => .ok s
  | current :: rest =>
      if skip current || current ∈ s.visited then .ok ⟨s.visited, rest⟩
      else .ok ⟨s.visited ++ [current], rest ++ next current⟩

def guard (s : State α) : Bool := !s.queue.isEmpty

/-- The visited items after at most `turns` turns; `none` where the queue is not empty yet. -/
def visit (skip : α → Bool) (next : α → List α) (start : List α) (turns : ℕ) : Option (List α) :=
  match While.run guard (body skip next) turns ⟨[], start⟩ with
  | some (.ok s) => some s.visited
  | _ => none

/-- An item that is reached from the start without passing a skipped one. -/
inductive Reached (skip : α → Bool) (next : α → List α) (start : List α) : α → Prop where
  | start {a : α} : a ∈ start → skip a = false → Reached skip next start a
  | next {a b : α} : Reached skip next start a → b ∈ next a → skip b = false →
      Reached skip next start b

structure Invariant (skip : α → Bool) (next : α → List α) (start : List α) (s : State α) :
    Prop where
  nodup : s.visited.Nodup
  visited_reached : ∀ a ∈ s.visited, Reached skip next start a
  queue_reached : ∀ a ∈ s.queue, skip a = false → Reached skip next start a
  start_covered : ∀ a ∈ start, skip a = false → a ∈ s.visited ∨ a ∈ s.queue
  next_covered : ∀ a ∈ s.visited, ∀ b ∈ next a, skip b = false → b ∈ s.visited ∨ b ∈ s.queue

omit [DecidableEq α] in
theorem invariant_start : Invariant skip next start ⟨[], start⟩ where
  nodup := List.nodup_nil
  visited_reached := fun _ h => absurd h List.not_mem_nil
  queue_reached := fun _ h hskip => .start h hskip
  start_covered := fun _ h _ => Or.inr h
  next_covered := fun _ h => absurd h List.not_mem_nil

/-- The two ways a turn goes. -/
theorem turn_cases {s t : State α} (h : While.Turn guard (body skip next) s t) :
    ∃ current rest, s.queue = current :: rest ∧
      ((skip current = true ∨ current ∈ s.visited) ∧ t = ⟨s.visited, rest⟩ ∨
        skip current = false ∧ current ∉ s.visited ∧
          t = ⟨s.visited ++ [current], rest ++ next current⟩) := by
  obtain ⟨visited, queue⟩ := s
  obtain ⟨hguard, hbody⟩ := h
  cases queue with
  | nil => cases hguard
  | cons current rest =>
    refine ⟨current, rest, rfl, ?_⟩
    simp only [body] at hbody
    split_ifs at hbody with hdropped
    · cases hbody
      left
      exact ⟨by simpa using hdropped, rfl⟩
    · cases hbody
      right
      simp only [Bool.or_eq_true, decide_eq_true_eq, not_or, Bool.not_eq_true] at hdropped
      exact ⟨hdropped.1, hdropped.2, rfl⟩

omit [DecidableEq α] in
theorem covered_of_dropped {visited rest : List α} {current a : α}
    (hdropped : skip current = true ∨ current ∈ visited) (hskip : skip a = false)
    (h : a ∈ visited ∨ a ∈ current :: rest) : a ∈ visited ∨ a ∈ rest := by
  rcases h with h | h
  · exact Or.inl h
  · rcases List.mem_cons.mp h with rfl | h
    · rcases hdropped with hskipped | hvisited
      · rw [hskip] at hskipped
        cases hskipped
      · exact Or.inl hvisited
    · exact Or.inr h

omit [DecidableEq α] in
theorem covered_of_visited {visited rest more : List α} {current a : α}
    (h : a ∈ visited ∨ a ∈ current :: rest) :
    a ∈ visited ++ [current] ∨ a ∈ rest ++ more := by
  rcases h with h | h
  · exact Or.inl (List.mem_append_left _ h)
  · rcases List.mem_cons.mp h with rfl | h
    · exact Or.inl (List.mem_append_right _ List.mem_cons_self)
    · exact Or.inr (List.mem_append_left _ h)

theorem Invariant.turn {s t : State α} (hs : Invariant skip next start s)
    (h : While.Turn guard (body skip next) s t) : Invariant skip next start t := by
  obtain ⟨visited, queue⟩ := s
  obtain ⟨current, rest, rfl, ⟨hdropped, rfl⟩ | ⟨hskip, hnew, rfl⟩⟩ := turn_cases h
  · exact
      { nodup := hs.nodup
        visited_reached := hs.visited_reached
        queue_reached := fun a ha => hs.queue_reached a (List.mem_cons_of_mem _ ha)
        start_covered := fun a ha hskip =>
          covered_of_dropped hdropped hskip (hs.start_covered a ha hskip)
        next_covered := fun a ha b hb hskip =>
          covered_of_dropped hdropped hskip (hs.next_covered a ha b hb hskip) }
  · have hreached : Reached skip next start current :=
      hs.queue_reached current List.mem_cons_self hskip
    refine ⟨?_, ?_, ?_, ?_, ?_⟩
    · apply List.Nodup.append hs.nodup (List.nodup_singleton _)
      intro a ha hcurrent
      rw [List.mem_singleton.mp hcurrent] at ha
      exact hnew ha
    · intro a ha
      rcases List.mem_append.mp ha with ha | ha
      · exact hs.visited_reached a ha
      · rw [List.mem_singleton.mp ha]
        exact hreached
    · intro a ha hskip
      rcases List.mem_append.mp ha with ha | ha
      · exact hs.queue_reached a (List.mem_cons_of_mem _ ha) hskip
      · exact .next hreached ha hskip
    · intro a ha hskip
      exact covered_of_visited (hs.start_covered a ha hskip)
    · intro a ha b hb hskip
      rcases List.mem_append.mp ha with ha | ha
      · exact covered_of_visited (hs.next_covered a ha b hb hskip)
      · rw [List.mem_singleton.mp ha] at hb
        exact Or.inr (List.mem_append_right _ hb)

omit [DecidableEq α] in
/-- With an empty queue every item that is reached has been visited. -/
theorem Invariant.mem_visited_iff {s : State α} (hs : Invariant skip next start s)
    (hqueue : s.queue = []) (a : α) : a ∈ s.visited ↔ Reached skip next start a := by
  constructor
  · exact hs.visited_reached a
  · intro ha
    induction ha with
    | start hstart hskip =>
      rcases hs.start_covered _ hstart hskip with h | h
      · exact h
      · rw [hqueue] at h
        cases h
    | next _ hnext hskip ih =>
      rcases hs.next_covered _ ih _ hnext hskip with h | h
      · exact h
      · rw [hqueue] at h
        cases h

theorem visited_card_le {s : State α} {closed : Finset α} (hs : Invariant skip next start s)
    (hclosed : ∀ a, Reached skip next start a → a ∈ closed) : s.visited.length ≤ closed.card := by
  rw [← List.toFinset_card_of_nodup hs.nodup]
  apply Finset.card_le_card
  intro a ha
  exact hclosed a (hs.visited_reached a (List.mem_toFinset.mp ha))

/-- The loop ends when finitely many items can be reached: each turn visits one of them, or
shortens the queue. -/
theorem exists_visit (closed : Finset α) (hclosed : ∀ a, Reached skip next start a → a ∈ closed) :
    ∃ visited, visited.Nodup ∧ (∀ a, a ∈ visited ↔ Reached skip next start a) ∧
      ∃ enough, ∀ turns, enough ≤ turns → visit skip next start turns = some visited := by
  have hturn : ∀ s t, Invariant skip next start s → While.Turn guard (body skip next) s t →
      Invariant skip next start t ∧
        Prod.Lex (· < ·) (· < ·) (closed.card - t.visited.length, t.queue.length)
          (closed.card - s.visited.length, s.queue.length) := by
    intro s t hs hst
    have ht := hs.turn hst
    refine ⟨ht, ?_⟩
    obtain ⟨current, rest, hqueue, ⟨-, rfl⟩ | ⟨-, -, rfl⟩⟩ := turn_cases hst
    · rw [hqueue]
      exact .right _ (Nat.lt_succ_self _)
    · have hle := visited_card_le ht hclosed
      apply Prod.Lex.left
      simp only [List.length_append, List.length_singleton] at hle ⊢
      omega
  obtain ⟨outcome, hends⟩ := While.exists_ends_of_wellFounded
    (WellFounded.prod_lex wellFounded_lt wellFounded_lt) hturn invariant_start
  obtain ⟨t, hreaches, ⟨hstop, rfl⟩ | ⟨-, e, -⟩⟩ := While.ends_iff.mp hends
  · have ht := While.invariant_of_reaches (fun _ _ hs => hs.turn) invariant_start hreaches
    have hqueue : t.queue = [] := by simpa [guard] using hstop
    refine ⟨t.visited, ht.nodup, ht.mem_visited_iff hqueue, ?_⟩
    obtain ⟨enough, hrun⟩ := hends
    refine ⟨enough, fun turns hle => ?_⟩
    rw [visit, While.run_mono hrun hle]
  · exact e.elim

end Worklist
