import Mathlib.Data.List.Induction
import Mathlib.Data.List.Pairwise
import Mathlib.Data.Set.Insert

/-! # Displays with tombstones

Messages arrive in some order.  A stored message is a tombstone: a message it
cancels is not admitted any more, and one that is on display already is taken
down when the stored message is recent enough.  When a message that shuts out
another also does the work of the one it shuts out, the display at the end
depends on the order only through the messages that arrived too late. -/

namespace Tombstone

variable {μ : Type*}

/-- What the display knows about messages: which are shown, which cancel
which, and which may take down an earlier arrival. -/
structure Policy (μ : Type*) where
  shown : μ → Prop
  cancels : μ → μ → Prop
  recent : μ → μ → Prop

@[ext] structure Display (μ : Type*) where
  stored : Set μ
  displayed : Set μ

namespace Display

def empty : Display μ := ⟨∅, ∅⟩

end Display

namespace Policy

variable (policy : Policy μ)

/-- No stored message cancels it, or it is not to be shown. -/
def Admits (display : Display μ) (m : μ) : Prop :=
  policy.shown m → ∀ z ∈ display.stored, ¬ policy.cancels z m

def step (display : Display μ) (m : μ) : Display μ where
  stored := {x | x ∈ display.stored ∨ (x = m ∧ policy.Admits display m)}
  displayed := {x |
    (x ∈ display.displayed ∧
      ¬ (policy.Admits display m ∧ policy.cancels m x ∧ policy.recent m x)) ∨
    (x = m ∧ policy.shown m ∧ policy.Admits display m)}

variable {policy} in
theorem mem_stored_step {display : Display μ} {m x : μ} :
    x ∈ (policy.step display m).stored ↔
      x ∈ display.stored ∨ (x = m ∧ policy.Admits display m) := Iff.rfl

variable {policy} in
theorem mem_displayed_step {display : Display μ} {m x : μ} :
    x ∈ (policy.step display m).displayed ↔
      (x ∈ display.displayed ∧
        ¬ (policy.Admits display m ∧ policy.cancels m x ∧ policy.recent m x)) ∨
      (x = m ∧ policy.shown m ∧ policy.Admits display m) := Iff.rfl

variable {policy} in
theorem step_of_not_admits {display : Display μ} {m : μ} (h : ¬ policy.Admits display m) :
    policy.step display m = display := by
  ext x
  · simp [mem_stored_step, h]
  · simp [mem_displayed_step, h]

def run (display : Display μ) (messages : List μ) : Display μ :=
  messages.foldl policy.step display

theorem run_append_singleton (display : Display μ) (messages : List μ) (m : μ) :
    policy.run display (messages ++ [m]) = policy.step (policy.run display messages) m := by
  simp only [run, List.foldl_append, List.foldl_cons, List.foldl_nil]

/-- `x` takes `y` off the display: it cancels it, and it arrived before or is
recent enough. -/
def Retires (before : μ → μ → Prop) (x y : μ) : Prop :=
  policy.cancels x y ∧ (before x y ∨ policy.recent x y)

/-- A message that shuts out another does its work. -/
def Relays (before : μ → μ → Prop) (messages : Set μ) : Prop :=
  ∀ z ∈ messages, ∀ x ∈ messages, ∀ y ∈ messages, before z x → policy.shown x →
    policy.cancels z x → policy.Retires before x y → policy.Retires before z y

/-- What is known after a prefix of the messages. -/
structure Settled (before : μ → μ → Prop) (messages : List μ) (display : Display μ) : Prop where
  known : ∀ x ∈ display.stored, x ∈ messages
  stored : ∀ x ∈ messages, x ∈ display.stored ∨
    (policy.shown x ∧ ∃ z ∈ display.stored, before z x ∧ policy.cancels z x)
  displayed : ∀ y, y ∈ display.displayed ↔
    y ∈ messages ∧ policy.shown y ∧ ∀ x ∈ messages, ¬ policy.Retires before x y

variable {policy}

namespace Settled

variable {before : μ → μ → Prop} {messages : List μ} {display : Display μ} {m : μ}

theorem exists_stored_cancel (h : policy.Settled before messages display)
    (relays : policy.Relays before {x | x ∈ messages ++ [m]})
    (hbefore : ∀ x ∈ messages, before x m) {x : μ} (hx : x ∈ messages)
    (hcancels : policy.cancels x m) : ∃ z ∈ display.stored, policy.cancels z m := by
  rcases h.stored x hx with hstored | ⟨hshown, z, hz, hzx, hcancel⟩
  · exact ⟨x, hstored, hcancels⟩
  · have hin : ∀ w ∈ messages, w ∈ {x | x ∈ messages ++ [m]} :=
      fun w hw => List.mem_append_left _ hw
    have hlast : m ∈ {x | x ∈ messages ++ [m]} := List.mem_append_right _ List.mem_cons_self
    have hretires := relays z (hin z (h.known z hz)) x (hin x hx) m hlast hzx hshown hcancel
      ⟨hcancels, Or.inl (hbefore x hx)⟩
    exact ⟨z, hz, hretires.1⟩

/-- A message that is shut out retires nothing on its own. -/
theorem retired_of_not_admitted (h : policy.Settled before messages display)
    (relays : policy.Relays before {x | x ∈ messages ++ [m]})
    (hbefore : ∀ x ∈ messages, before x m) (hadmits : ¬ policy.Admits display m) {y : μ}
    (hy : y ∈ messages) (hretires : policy.Retires before m y) :
    ∃ z ∈ messages, policy.Retires before z y := by
  simp only [Admits, not_forall, not_not] at hadmits
  obtain ⟨hshown, z, hz, hcancel⟩ := hadmits
  have hknown := h.known z hz
  exact ⟨z, hknown, relays z (List.mem_append_left _ hknown) m
    (List.mem_append_right _ List.mem_cons_self) y (List.mem_append_left _ hy)
    (hbefore z hknown) hshown hcancel hretires⟩

theorem step (h : policy.Settled before messages display)
    (relays : policy.Relays before {x | x ∈ messages ++ [m]})
    (hbefore : ∀ x ∈ messages, before x m) (hafter : ∀ x ∈ messages, ¬ before m x)
    (hself : ¬ policy.cancels m m) (hnew : m ∉ messages) :
    policy.Settled before (messages ++ [m]) (policy.step display m) := by
  refine ⟨?_, ?_, ?_⟩
  · intro x hx
    rcases hx with hold | ⟨rfl, -⟩
    · exact List.mem_append_left _ (h.known x hold)
    · exact List.mem_append_right _ List.mem_cons_self
  · intro x hx
    rcases List.mem_append.mp hx with hold | hlast
    · rcases h.stored x hold with hstored | ⟨hshown, z, hz, hzx, hcancel⟩
      · exact Or.inl (Or.inl hstored)
      · exact Or.inr ⟨hshown, z, Or.inl hz, hzx, hcancel⟩
    · rw [List.mem_singleton] at hlast
      subst hlast
      by_cases hadmits : policy.Admits display x
      · exact Or.inl (Or.inr ⟨rfl, hadmits⟩)
      · simp only [Admits, not_forall, not_not] at hadmits
        obtain ⟨hshown, z, hz, hcancel⟩ := hadmits
        exact Or.inr ⟨hshown, z, Or.inl hz, hbefore z (h.known z hz), hcancel⟩
  · intro y
    constructor
    · rintro (⟨hdisplayed, hkept⟩ | ⟨rfl, hshown, hadmits⟩)
      · obtain ⟨hy, hshown, hfree⟩ := (h.displayed y).mp hdisplayed
        refine ⟨List.mem_append_left _ hy, hshown, ?_⟩
        intro x hx hretires
        rcases List.mem_append.mp hx with hold | hlast
        · exact hfree x hold hretires
        · rw [List.mem_singleton] at hlast
          subst hlast
          by_cases hadmits : policy.Admits display x
          · rcases hretires.2 with hlate | hrecent
            · exact hafter y hy hlate
            · exact hkept ⟨hadmits, hretires.1, hrecent⟩
          · obtain ⟨z, hz, hretired⟩ := h.retired_of_not_admitted relays hbefore hadmits hy hretires
            exact hfree z hz hretired
      · refine ⟨List.mem_append_right _ List.mem_cons_self, hshown, ?_⟩
        intro x hx hretires
        rcases List.mem_append.mp hx with hold | hlast
        · obtain ⟨z, hz, hcancel⟩ := h.exists_stored_cancel relays hbefore hold hretires.1
          exact hadmits hshown z hz hcancel
        · rw [List.mem_singleton] at hlast
          subst hlast
          exact hself hretires.1
    · rintro ⟨hy, hshown, hfree⟩
      rcases List.mem_append.mp hy with hold | hlast
      · refine Or.inl ⟨(h.displayed y).mpr ⟨hold, hshown, ?_⟩, ?_⟩
        · exact fun x hx => hfree x (List.mem_append_left _ hx)
        · rintro ⟨-, hcancels, hrecent⟩
          exact hfree m (List.mem_append_right _ List.mem_cons_self) ⟨hcancels, Or.inr hrecent⟩
      · rw [List.mem_singleton] at hlast
        subst hlast
        refine Or.inr ⟨rfl, hshown, ?_⟩
        intro _ z hz hcancel
        have hknown := h.known z hz
        exact hfree z (List.mem_append_left _ hknown) ⟨hcancel, Or.inl (hbefore z hknown)⟩

end Settled

/-- The display after all messages shows those that no message retires. -/
theorem displayed_run {before : μ → μ → Prop} {messages : List μ}
    (order : messages.Pairwise before) (asymm : ∀ x y, before x y → ¬ before y x)
    (irrefl : ∀ x ∈ messages, ¬ policy.cancels x x)
    (relays : policy.Relays before {x | x ∈ messages}) :
    policy.Settled before messages (policy.run Display.empty messages) := by
  induction messages using List.reverseRecOn with
  | nil =>
      refine ⟨fun x hx => absurd hx (Set.notMem_empty x), by simp, ?_⟩
      intro y
      exact ⟨fun hy => absurd hy (Set.notMem_empty y), fun hy => absurd hy.1 List.not_mem_nil⟩
  | append_singleton messages m ih =>
      obtain ⟨hearlier, -, hlast⟩ := List.pairwise_append.mp order
      have hbefore : ∀ x ∈ messages, before x m := fun x hx => hlast x hx m List.mem_cons_self
      have hsub : ∀ x ∈ messages, x ∈ messages ++ [m] := fun x hx => List.mem_append_left _ hx
      have hsettled := ih hearlier (fun x hx => irrefl x (hsub x hx))
        (fun z hz x hx y hy => relays z (hsub z hz) x (hsub x hx) y (hsub y hy))
      rw [run_append_singleton]
      refine hsettled.step relays hbefore (fun x hx => asymm x m (hbefore x hx))
        (irrefl m (List.mem_append_right _ List.mem_cons_self)) ?_
      exact fun hm => asymm m m (hbefore m hm) (hbefore m hm)

end Policy

end Tombstone
