import FloodRisk.Lib.While

/-! # Trees and their traversal with a stack

What a traversal collects from a tree when each node hands something down to its children. -/

universe u v w

inductive Rose (α : Type u) where
  | node (label : α) (children : List (Rose α))

namespace Rose

variable {α : Type u} {γ : Type v} {ω : Type w}

def label : Rose α → α
  | .node a _ => a

def children : Rose α → List (Rose α)
  | .node _ children => children

mutual

def size : Rose α → ℕ
  | .node _ children => sizeAll children + 1

def sizeAll : List (Rose α) → ℕ
  | [] => 0
  | t :: rest => size t + sizeAll rest

end

mutual

/-- What is collected from a tree below the value handed down to it, parents first. -/
def collect (emit : γ → Rose α → List ω) (inherit : γ → Rose α → Rose α → γ) :
    γ → Rose α → List ω
  | ctx, .node a children =>
      emit ctx (.node a children) ++
        collectAll emit inherit (inherit ctx (.node a children)) children

def collectAll (emit : γ → Rose α → List ω) (inherit : γ → Rose α → Rose α → γ) :
    (Rose α → γ) → List (Rose α) → List ω
  | _, [] => []
  | ctx, t :: rest => collect emit inherit (ctx t) t ++ collectAll emit inherit ctx rest

end

/-- The nodes of a tree, parents first. -/
def nodes (t : Rose α) : List (Rose α) :=
  collect (fun (_ : Unit) t => [t]) (fun _ _ _ => ()) () t

variable {emit : γ → Rose α → List ω} {inherit : γ → Rose α → Rose α → γ}

/-- Along the children. -/
theorem induction_on {motive : Rose α → Prop}
    (h : ∀ a children, (∀ c ∈ children, motive c) → motive (.node a children)) (t : Rose α) :
    motive t := by
  refine Rose.rec (motive_2 := fun children => ∀ c ∈ children, motive c) h ?_ ?_ t
  · intro c hc
    cases hc
  · intro t rest ht hrest c hc
    rcases List.mem_cons.mp hc with rfl | hc
    · exact ht
    · exact hrest c hc

theorem collectAll_eq (ctx : Rose α → γ) (l : List (Rose α)) :
    collectAll emit inherit ctx l = l.flatMap fun t => collect emit inherit (ctx t) t := by
  induction l with
  | nil => rw [collectAll, List.flatMap_nil]
  | cons t rest ih => rw [collectAll, ih, List.flatMap_cons]

theorem collect_node (ctx : γ) (a : α) (children : List (Rose α)) :
    collect emit inherit ctx (.node a children) =
      emit ctx (.node a children) ++ children.flatMap fun c =>
        collect emit inherit (inherit ctx (.node a children) c) c := by
  rw [collect, collectAll_eq]

theorem size_pos (t : Rose α) : 0 < t.size := by
  cases t
  rw [size]
  omega

/-! ### The stack -/

structure Stack (γ : Type v) (α : Type u) (ω : Type w) where
  pending : List (γ × Rose α)
  out : List ω

/-- The node on top of the stack, with its children pushed last child first. -/
def body (emit : γ → Rose α → List ω) (inherit : γ → Rose α → Rose α → γ) (s : Stack γ α ω) :
    Except Empty (Stack γ α ω) :=
  match s.pending with
  | [] => .ok s
  | (ctx, t) :: rest =>
      .ok ⟨t.children.map (fun c => (inherit ctx t c, c)) ++ rest, s.out ++ emit ctx t⟩

def guard (s : Stack γ α ω) : Bool := !s.pending.isEmpty

/-- The traversal of a tree; a node is on top of the stack once. -/
def traverse (emit : γ → Rose α → List ω) (inherit : γ → Rose α → Rose α → γ) (ctx : γ)
    (t : Rose α) : List ω :=
  match While.run guard (body emit inherit) t.size ⟨[(ctx, t)], []⟩ with
  | some (.ok s) => s.out
  | _ => []

theorem sizeAll_append (l r : List (Rose α)) : sizeAll (l ++ r) = sizeAll l + sizeAll r := by
  induction l with
  | nil => rw [List.nil_append, sizeAll, Nat.zero_add]
  | cons t l ih =>
    rw [List.cons_append, sizeAll, sizeAll, ih]
    omega

theorem run_stack (pending : List (γ × Rose α)) (out : List ω) :
    While.run guard (body emit inherit) (sizeAll (pending.map Prod.snd)) ⟨pending, out⟩ =
      some (.ok ⟨[], out ++ pending.flatMap fun entry => collect emit inherit entry.1 entry.2⟩) := by
  induction hsize : sizeAll (pending.map Prod.snd) generalizing pending out with
  | zero =>
    cases pending with
    | nil => simp [While.run, guard]
    | cons entry rest =>
      have hpos := size_pos entry.2
      rw [List.map_cons, sizeAll] at hsize
      omega
  | succ n ih =>
    cases pending with
    | nil => cases hsize
    | cons entry rest =>
      obtain ⟨ctx, t⟩ := entry
      cases t with
      | node a children =>
        have hturn : While.Turn guard (body emit inherit)
            (⟨(ctx, .node a children) :: rest, out⟩ : Stack γ α ω)
            ⟨children.map (fun c => (inherit ctx (.node a children) c, c)) ++ rest,
              out ++ emit ctx (.node a children)⟩ := ⟨rfl, rfl⟩
        have hrest : sizeAll ((children.map (fun c =>
            (inherit ctx (.node a children) c, c)) ++ rest).map Prod.snd) = n := by
          rw [List.map_cons, sizeAll, size] at hsize
          rw [List.map_append, List.map_map, sizeAll_append]
          have hsnd : children.map (Prod.snd ∘ fun c => (inherit ctx (.node a children) c, c)) =
              children := by simp [Function.comp_def]
          rw [hsnd]
          omega
        rw [While.run_succ_of_turn hturn, ih _ _ hrest, List.flatMap_append, List.flatMap_map,
          List.flatMap_cons, collect_node]
        simp only [List.append_assoc]

/-- The stack visits what the recursion visits, in its order. -/
theorem traverse_eq_collect (ctx : γ) (t : Rose α) :
    traverse emit inherit ctx t = collect emit inherit ctx t := by
  have hrun := @run_stack α γ ω emit inherit [(ctx, t)] []
  have hsize : sizeAll ([(ctx, t)].map Prod.snd) = t.size := by
    rw [List.map_singleton, sizeAll, sizeAll, Nat.add_zero]
  rw [hsize] at hrun
  rw [traverse, hrun]
  simp

end Rose
