import Mathlib.Data.List.Basic
import Mathlib.Algebra.Order.Ring.Nat

/-! # Replacing every occurrence of a word

The occurrences are those found from the left, which do not overlap. -/

namespace Replace

universe u

variable {α : Type u} [DecidableEq α] {old new l : List α}

/-- The letters of an occurrence that is already replaced are passed over first. -/
def replaceFrom (old new : List α) : ℕ → List α → List α
  | _, [] => []
  | n + 1, _ :: rest => replaceFrom old new n rest
  | 0, a :: rest =>
      if old <+: a :: rest then new ++ replaceFrom old new (old.length - 1) rest
      else a :: replaceFrom old new 0 rest

def replaceAll (old new l : List α) : List α := replaceFrom old new 0 l

@[simp] theorem replaceAll_nil : replaceAll old new [] = [] := rfl

theorem replaceFrom_append (passed : List α) :
    replaceFrom old new passed.length (passed ++ l) = replaceAll old new l := by
  induction passed with
  | nil => rfl
  | cons a passed ih => exact ih

theorem replaceAll_append (hold : old ≠ []) :
    replaceAll old new (old ++ l) = new ++ replaceAll old new l := by
  cases old with
  | nil => exact absurd rfl hold
  | cons a old =>
    have hprefix : a :: old <+: a :: (old ++ l) := List.prefix_append (a :: old) l
    rw [List.cons_append, replaceAll, replaceFrom, if_pos hprefix]
    exact congrArg (new ++ ·) (replaceFrom_append old)

theorem replaceAll_cons {a : α} (h : ¬ old <+: a :: l) :
    replaceAll old new (a :: l) = a :: replaceAll old new l := by
  rw [replaceAll, replaceFrom, if_neg h]
  rfl

/-- Along the occurrences of a word. -/
theorem induction_on {motive : List α → Prop} (hold : old ≠ []) (l : List α)
    (hnil : motive []) (hword : ∀ l, motive l → motive (old ++ l))
    (hletter : ∀ a l, ¬ old <+: a :: l → motive l → motive (a :: l)) : motive l := by
  induction hlength : l.length using Nat.strong_induction_on generalizing l with
  | _ n ih =>
    cases l with
    | nil => exact hnil
    | cons a rest =>
      by_cases h : old <+: a :: rest
      · obtain ⟨tail, htail⟩ := h
        have hpos := List.length_pos_of_ne_nil hold
        have hsplit := congrArg List.length htail
        rw [List.length_append] at hsplit
        rw [← htail]
        exact hword tail (ih tail.length (by omega) tail rfl)
      · rw [List.length_cons] at hlength
        exact hletter a rest h (ih rest.length (by omega) rest rfl)

theorem replaceAll_eq_self (h : ¬ old <:+: l) : replaceAll old new l = l := by
  induction l with
  | nil => rfl
  | cons a l ih =>
    have hprefix : ¬ old <+: a :: l := fun hp => h hp.isInfix
    have hrest : ¬ old <:+: l := fun hi => h (hi.trans (List.infix_cons (List.infix_refl l)))
    rw [replaceAll_cons hprefix, ih hrest]

/-- A single letter is replaced letter by letter. -/
theorem replaceAll_singleton (a b : α) (l : List α) :
    replaceAll [a] [b] l = l.map fun c => if c = a then b else c := by
  induction l with
  | nil => rfl
  | cons c l ih =>
    by_cases hc : c = a
    · have hword : replaceAll [a] [b] ([a] ++ l) = [b] ++ replaceAll [a] [b] l :=
        replaceAll_append (List.cons_ne_nil a [])
      subst hc
      rw [List.map_cons, if_pos rfl, ← ih]
      exact hword
    · have hprefix : ¬ [a] <+: c :: l := by
        intro h
        exact hc (List.cons_prefix_cons.mp h).1.symm
      rw [List.map_cons, if_neg hc, ← ih, replaceAll_cons hprefix]

/-- A word is passed over without the first letter of the word to be replaced. -/
theorem replaceAll_apart {a : α} {passed : List α} (h : a ∉ passed) :
    replaceAll (a :: old) new (passed ++ l) = passed ++ replaceAll (a :: old) new l := by
  induction passed with
  | nil => rfl
  | cons b passed ih =>
    obtain ⟨hne, hrest⟩ := List.ne_and_not_mem_of_not_mem_cons h
    have hprefix : ¬ a :: old <+: b :: (passed ++ l) := by
      intro hp
      exact hne (List.cons_prefix_cons.mp hp).1
    rw [List.cons_append, replaceAll_cons hprefix, ih hrest]
    rfl

theorem replaceAll_ne_nil (hold : old ≠ []) (hnew : new ≠ []) (hl : l ≠ []) :
    replaceAll old new l ≠ [] := by
  cases l with
  | nil => exact absurd rfl hl
  | cons a rest =>
    by_cases h : old <+: a :: rest
    · obtain ⟨tail, htail⟩ := h
      rw [← htail, replaceAll_append hold]
      simp [hnew]
    · rw [replaceAll_cons h]
      exact List.cons_ne_nil _ _

end Replace
