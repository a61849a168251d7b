import Mathlib.Data.List.Basic

/-! # Runs of a deterministic transition function

A component whose operations are atomic is a step function over a state.  A
run folds the step over a list of actions; an invariant is established by one
step lemma and carried to every reached state by the rules of this file.
`Along` attaches a condition to every action of a run, stated on the state in
which that action starts. -/

namespace Transition

variable {σ α : Type*}

def run (step : σ → α → σ) (s : σ) (actions : List α) : σ :=
  actions.foldl step s

@[simp] theorem run_nil (step : σ → α → σ) (s : σ) : run step s [] = s := rfl

@[simp] theorem run_cons (step : σ → α → σ) (s : σ) (a : α) (rest : List α) :
    run step s (a :: rest) = run step (step s a) rest := rfl

theorem run_map {β : Type*} (step : σ → α → σ) (f : β → α) (s : σ) (actions : List β) :
    run step s (actions.map f) = run (fun s b => step s (f b)) s actions :=
  List.foldl_map

theorem run_append (step : σ → α → σ) (s : σ) (first second : List α) :
    run step s (first ++ second) = run step (run step s first) second := by
  simp only [run, List.foldl_append]

/-- Every action of the run starts in a state that satisfies the condition. -/
def Along (step : σ → α → σ) (condition : σ → α → Prop) : σ → List α → Prop
  | _, [] => True
  | s, a :: rest => condition s a ∧ Along step condition (step s a) rest

@[simp] theorem along_nil (step : σ → α → σ) (condition : σ → α → Prop) (s : σ) :
    Along step condition s [] := trivial

@[simp] theorem along_cons (step : σ → α → σ) (condition : σ → α → Prop) (s : σ) (a : α)
    (rest : List α) :
    Along step condition s (a :: rest) ↔
      condition s a ∧ Along step condition (step s a) rest := Iff.rfl

theorem along_append (step : σ → α → σ) (condition : σ → α → Prop) (s : σ)
    (first second : List α) :
    Along step condition s (first ++ second) ↔
      Along step condition s first ∧ Along step condition (run step s first) second := by
  induction first generalizing s with
  | nil => simp
  | cons a rest ih => simp only [List.cons_append, along_cons, run_cons, ih, and_assoc]

theorem Along.mono {step : σ → α → σ} {weak strong : σ → α → Prop}
    (h : ∀ s a, strong s a → weak s a) {s : σ} {actions : List α}
    (along : Along step strong s actions) : Along step weak s actions := by
  induction actions generalizing s with
  | nil => trivial
  | cons a rest ih => exact ⟨h s a along.1, ih along.2⟩

theorem along_congr {step : σ → α → σ} {first second : σ → α → Prop} {invariant : σ → Prop}
    (preserved : ∀ s a, invariant s → invariant (step s a))
    (agree : ∀ s a, invariant s → (first s a ↔ second s a)) {s : σ} {actions : List α}
    (start : invariant s) : Along step first s actions ↔ Along step second s actions := by
  induction actions generalizing s with
  | nil => exact Iff.rfl
  | cons a rest ih =>
      have hrest := ih (preserved s a start)
      rw [along_cons, along_cons, agree s a start, hrest]

instance decidableAlong (step : σ → α → σ) (condition : σ → α → Prop)
    [∀ s a, Decidable (condition s a)] : ∀ (s : σ) (actions : List α),
    Decidable (Along step condition s actions)
  | _, [] => isTrue trivial
  | s, a :: rest =>
      have := decidableAlong step condition (step s a) rest
      inferInstanceAs (Decidable (condition s a ∧ Along step condition (step s a) rest))

/-- A condition that does not look at the state holds along every run of
actions that satisfy it. -/
theorem along_of_forall (step : σ → α → σ) {condition : σ → α → Prop} {actions : List α}
    (h : ∀ a ∈ actions, ∀ s, condition s a) (s : σ) : Along step condition s actions := by
  induction actions generalizing s with
  | nil => trivial
  | cons a rest ih =>
      refine ⟨h a List.mem_cons_self s, ih (fun b hb => h b (List.mem_cons_of_mem a hb)) _⟩

/-- An invariant that every admissible step preserves holds at the end of
every run whose steps are all admissible. -/
theorem run_invariant_of_along {step : σ → α → σ} {condition : σ → α → Prop}
    {invariant : σ → Prop}
    (preserved : ∀ s a, invariant s → condition s a → invariant (step s a))
    {s : σ} {actions : List α} (start : invariant s) (along : Along step condition s actions) :
    invariant (run step s actions) := by
  induction actions generalizing s with
  | nil => exact start
  | cons a rest ih => exact ih (preserved s a start along.1) along.2

theorem Along.imp_of_invariant {step : σ → α → σ} {condition conclusion : σ → α → Prop}
    {invariant : σ → Prop} {s : σ} {actions : List α} (along : Along step condition s actions)
    (preserved : ∀ s a, invariant s → condition s a → invariant (step s a))
    (sound : ∀ s a, invariant s → condition s a → conclusion s a) (start : invariant s) :
    Along step conclusion s actions := by
  induction actions generalizing s with
  | nil => trivial
  | cons a rest ih =>
      have hrest := ih along.2 (preserved s a start along.1)
      exact ⟨sound s a start along.1, hrest⟩

theorem along_of_invariant {step : σ → α → σ} {conclusion : σ → α → Prop} {invariant : σ → Prop}
    (preserved : ∀ s a, invariant s → invariant (step s a))
    (sound : ∀ s a, invariant s → conclusion s a) {s : σ} (start : invariant s)
    (actions : List α) : Along step conclusion s actions := by
  have along : Along step (fun _ _ => True) s actions :=
    along_of_forall step (fun _ _ _ => trivial) s
  exact along.imp_of_invariant (fun s a hs _ => preserved s a hs) (fun s a hs _ => sound s a hs) start

theorem run_invariant {step : σ → α → σ} {invariant : σ → Prop}
    (preserved : ∀ s a, invariant s → invariant (step s a))
    {s : σ} (start : invariant s) (actions : List α) : invariant (run step s actions) := by
  have along : Along step (fun _ _ => True) s actions :=
    along_of_forall step (fun _ _ _ => trivial) s
  exact run_invariant_of_along (fun s a hs _ => preserved s a hs) start along

/-- An action that finishes what waits has finished it at the end of every run
that contains the action. -/
theorem run_done_of_mem {step : σ → α → σ} (waiting done : σ → Prop) {b : α}
    (kept : ∀ s a, waiting s → waiting (step s a)) (stable : ∀ s a, done s → done (step s a))
    (fires : ∀ s, waiting s → done (step s b)) {s : σ} {actions : List α} (h : b ∈ actions)
    (start : waiting s) : done (run step s actions) := by
  induction actions generalizing s with
  | nil => exact absurd h List.not_mem_nil
  | cons a rest ih =>
      rcases List.mem_cons.mp h with heq | hrest
      · rw [run_cons, ← heq]
        exact run_invariant stable (fires s start) rest
      · exact ih hrest (kept s a start)

/-- The states a run passes through after its start. -/
def trajectory (step : σ → α → σ) : σ → List α → List σ
  | _, [] => []
  | s, a :: rest => step s a :: trajectory step (step s a) rest

theorem run_mem_trajectory {step : σ → α → σ} {s : σ} {actions : List α} (h : actions ≠ []) :
    run step s actions ∈ trajectory step s actions := by
  induction actions generalizing s with
  | nil => exact absurd rfl h
  | cons a rest ih =>
      cases rest with
      | nil => exact List.mem_cons_self
      | cons b more => exact List.mem_cons_of_mem _ (ih (List.cons_ne_nil b more))

theorem trajectory_append (step : σ → α → σ) (s : σ) (first second : List α) :
    trajectory step s (first ++ second) =
      trajectory step s first ++ trajectory step (run step s first) second := by
  induction first generalizing s with
  | nil => rfl
  | cons a rest ih => rw [List.cons_append, trajectory, trajectory, ih, run_cons, List.cons_append]

theorem trajectory_map {β : Type*} (step : σ → α → σ) (f : β → α) (s : σ) (actions : List β) :
    trajectory step s (actions.map f) = trajectory (fun s b => step s (f b)) s actions := by
  induction actions generalizing s with
  | nil => rfl
  | cons b rest ih => rw [List.map_cons, trajectory, trajectory, ih]

/-- The last of the first states is where the first actions end. -/
theorem getLastD_take_trajectory (step : σ → α → σ) (s : σ) (actions : List α) (n : ℕ) :
    ((trajectory step s actions).take n).getLastD s = run step s (actions.take n) := by
  induction actions generalizing s n with
  | nil => simp [trajectory]
  | cons a rest ih =>
      cases n with
      | zero => rfl
      | succ n => rw [trajectory, List.take_succ_cons, List.take_succ_cons, run_cons, ← ih,
          List.getLastD_cons]

theorem trajectory_invariant_of_along {step : σ → α → σ} {condition : σ → α → Prop}
    {invariant : σ → Prop}
    (preserved : ∀ s a, invariant s → condition s a → invariant (step s a)) {s : σ}
    {actions : List α} (start : invariant s) (along : Along step condition s actions) :
    ∀ t ∈ trajectory step s actions, invariant t := by
  induction actions generalizing s with
  | nil => simp [trajectory]
  | cons a rest ih =>
      have hnext := preserved s a start along.1
      exact List.forall_mem_cons.mpr ⟨hnext, ih hnext along.2⟩

theorem trajectory_invariant {step : σ → α → σ} {invariant : σ → Prop}
    (preserved : ∀ s a, invariant s → invariant (step s a)) {s : σ} {actions : List α}
    (start : invariant s) : ∀ t ∈ trajectory step s actions, invariant t := by
  have along : Along step (fun _ _ => True) s actions :=
    along_of_forall step (fun _ _ _ => trivial) s
  exact trajectory_invariant_of_along (fun s a hs _ => preserved s a hs) start along

/-- A property that a step reaches exactly under a condition holds in every
state of a run exactly when the condition holds along it. -/
theorem trajectory_forall_iff_along {step : σ → α → σ} {condition : σ → α → Prop}
    {sound ok : σ → Prop} (kept : ∀ s a, sound s → sound (step s a))
    (exact : ∀ s a, sound s → ok s → (ok (step s a) ↔ condition s a)) {s : σ}
    {actions : List α} (hsound : sound s) (hok : ok s) :
    (∀ t ∈ trajectory step s actions, ok t) ↔ Along step condition s actions := by
  induction actions generalizing s with
  | nil => simp [trajectory]
  | cons a rest ih =>
      simp only [trajectory, List.forall_mem_cons, along_cons]
      rw [← exact s a hsound hok]
      constructor
      · intro h
        exact ⟨h.1, (ih (kept s a hsound) h.1).mp h.2⟩
      · intro h
        exact ⟨h.1, (ih (kept s a hsound) h.1).mpr h.2⟩

/-- What a list of states has in common with a start and an end when they lie
between the two in this order. -/
structure Between (related : σ → σ → Prop) (start finish : σ) (states : List σ) : Prop where
  ends : related start finish
  reached : ∀ s ∈ states, related start s
  left : ∀ s ∈ states, related s finish
  pairwise : states.Pairwise related

theorem Between.append {related : σ → σ → Prop}
    (trans : ∀ s t u, related s t → related t u → related s u)
    {start middle finish : σ} {first second : List σ} (h : Between related start middle first)
    (k : Between related middle finish second) : Between related start finish (first ++ second) := by
  refine ⟨trans _ _ _ h.ends k.ends, ?_, ?_, ?_⟩
  · intro s hs
    rcases List.mem_append.mp hs with hfirst | hsecond
    · exact h.reached s hfirst
    · exact trans _ _ _ h.ends (k.reached s hsecond)
  · intro s hs
    rcases List.mem_append.mp hs with hfirst | hsecond
    · exact trans _ _ _ (h.left s hfirst) k.ends
    · exact k.left s hsecond
  · refine List.pairwise_append.mpr ⟨h.pairwise, k.pairwise, ?_⟩
    intro s hs t ht
    exact trans _ _ _ (h.left s hs) (k.reached t ht)

theorem Between.step {related : σ → σ → Prop} (refl : ∀ s, related s s) {s t : σ}
    (h : related s t) : Between related s t [t] :=
  ⟨h, by simpa using h, by simpa using refl t, List.pairwise_singleton _ _⟩

/-- The trajectory of a run whose steps are related lies between its ends. -/
theorem between_trajectory {step : σ → α → σ} {related : σ → σ → Prop}
    (refl : ∀ s, related s s) (trans : ∀ s t u, related s t → related t u → related s u)
    {actions : List α} (stepped : ∀ s, ∀ a ∈ actions, related s (step s a)) (s : σ) :
    Between related s (run step s actions) (trajectory step s actions) := by
  induction actions generalizing s with
  | nil => exact ⟨refl s, by simp [trajectory], by simp [trajectory], List.Pairwise.nil⟩
  | cons a rest ih =>
      have hfirst := Between.step refl (stepped s a List.mem_cons_self)
      have hrest := ih (fun t b hb => stepped t b (List.mem_cons_of_mem a hb)) (step s a)
      exact hfirst.append trans hrest

/-- A reflexive and transitive relation between the states before and after a
step relates the two ends of every run. -/
theorem run_related {step : σ → α → σ} {related : σ → σ → Prop}
    (refl : ∀ s, related s s) (trans : ∀ s t u, related s t → related t u → related s u)
    (stepped : ∀ s a, related s (step s a)) (s : σ) (actions : List α) :
    related s (run step s actions) := by
  induction actions generalizing s with
  | nil => exact refl s
  | cons a rest ih => exact trans _ _ _ (stepped s a) (ih (step s a))

end Transition
