import FloodRisk.Geocoding.Spellings
import Mathlib.Algebra.Order.BigOperators.Group.List
import Mathlib.Data.Fintype.EquivFin
import Mathlib.Data.Set.Finite.List

/-!
# Spelling does not decide a match

The variants of an address are the closure of its two seeds under the rewrites, and two values
of one spelling have an alias in common.
-/

namespace FloodRisk.Geocoding
open Relation Replace

variable {nfkc casefold f g : Text → Text} {value other s t : Text}

/-! ### The variants are a closure -/

theorem rewrite_of_mem (h : t ∈ variantsOf s) : Rewrite s t := by
  rcases List.mem_append.mp h with htai | hsection
  · rcases List.mem_append.mp htai with h | h
    · split_ifs at h
      · rw [List.mem_singleton.mp h]
        exact .toTai s
      · cases h
    · split_ifs at h
      · rw [List.mem_singleton.mp h]
        exact .toTraditional s
      · cases h
  · rcases List.mem_append.mp (List.mem_of_mem_filter hsection) with h | h
    · obtain ⟨entry, hentry, rfl⟩ := List.mem_map.mp h
      exact .toDigits s hentry
    · obtain ⟨entry, hentry, rfl⟩ := List.mem_map.mp h
      exact .toNumeral s hentry

theorem mem_of_rewrite (h : Rewrite s t) : t = s ∨ t ∈ variantsOf s := by
  have htai : ∀ a b : Char, a ∉ s → replaceAll [a] [b] s = s := by
    intro a b ha
    apply replaceAll_eq_self
    intro hoccurs
    exact ha (hoccurs.subset List.mem_cons_self)
  cases h with
  | toTai =>
    by_cases hmem : '臺' ∈ s
    · right
      exact List.mem_append_left _ (List.mem_append_left _ (by rw [if_pos hmem]; simp))
    · exact Or.inl (htai _ _ hmem)
  | toTraditional =>
    by_cases hmem : '台' ∈ s
    · right
      exact List.mem_append_left _ (List.mem_append_right _ (by rw [if_pos hmem]; simp))
    · exact Or.inl (htai _ _ hmem)
  | toDigits hentry =>
    rw [or_iff_not_imp_left]
    intro hne
    apply List.mem_append_right
    refine List.mem_filter.mpr ⟨List.mem_append_left _ ?_, decide_eq_true hne⟩
    exact List.mem_map.mpr ⟨_, hentry, rfl⟩
  | toNumeral hentry =>
    rw [or_iff_not_imp_left]
    intro hne
    apply List.mem_append_right
    refine List.mem_filter.mpr ⟨List.mem_append_right _ ?_, decide_eq_true hne⟩
    exact List.mem_map.mpr ⟨_, hentry, rfl⟩

theorem rewrite_ne_nil (h : Rewrite s t) (hs : s ≠ []) : t ≠ [] := by
  cases h with
  | toTai => exact replaceAll_ne_nil (by simp) (by simp) hs
  | toTraditional => exact replaceAll_ne_nil (by simp) (by simp) hs
  | toDigits _ => exact replaceAll_ne_nil (by simp) (by simp) hs
  | toNumeral _ => exact replaceAll_ne_nil (by simp) (by simp) hs

/-- The closure of the seeds that are not empty under the rewrites. -/
def Closure (seeds : List Text) (t : Text) : Prop :=
  ∃ seed ∈ seeds, seed ≠ [] ∧ ReflTransGen Rewrite seed t

theorem rewrites_ne_nil (h : ReflTransGen Rewrite s t) (hs : s ≠ []) : t ≠ [] := by
  induction h with
  | refl => exact hs
  | tail _ hrewrite ih => exact rewrite_ne_nil hrewrite ih

theorem reached_iff (seeds : List Text) (t : Text) :
    Worklist.Reached List.isEmpty variantsOf seeds t ↔ Closure seeds t := by
  constructor
  · intro h
    induction h with
    | start hseed hskip => exact ⟨_, hseed, by simpa using hskip, .refl⟩
    | next _ hnext _ ih =>
      obtain ⟨seed, hseed, hne, hrewrites⟩ := ih
      exact ⟨seed, hseed, hne, hrewrites.tail (rewrite_of_mem hnext)⟩
  · rintro ⟨seed, hseed, hne, hrewrites⟩
    have hnonempty : ∀ u : Text, u ≠ [] → u.isEmpty = false := by
      intro u hu
      simpa using hu
    induction hrewrites with
    | refl => exact .start hseed (hnonempty _ hne)
    | tail hrewrites hrewrite ih =>
      rcases mem_of_rewrite hrewrite with heq | hmem
      · rw [heq]
        exact ih
      · exact .next ih hmem (hnonempty _ (rewrites_ne_nil (hrewrites.tail hrewrite) hne))

theorem length_le_spelling (l : Text) : l.length ≤ (spelling (fun _ => false) l).length := by
  induction l with
  | nil => exact Nat.zero_le _
  | cons c l ih =>
    have hpos := List.length_pos_of_ne_nil (letter_ne_nil c (spelling (fun _ => false) l))
    rw [spelling_cons_kept rfl, List.length_append, List.length_cons]
    omega

instance finite_char : Finite Char := by
  have hlt : ∀ c : Char, c.toNat < 2 ^ 32 := fun c => c.val.toNat_lt
  apply Finite.of_injective fun c : Char => (⟨c.toNat, hlt c⟩ : Fin (2 ^ 32))
  intro a b hab
  exact Char.toNat_inj.mp (Fin.mk.inj hab)

/-- Rewrites lengthen a text only up to the length of its spelling. -/
theorem exists_finset_of_closure (seeds : List Text) :
    ∃ closed : Finset Text, ∀ t, Closure seeds t → t ∈ closed := by
  have hfinite : ∀ n : ℕ, {l : Text | l.length ≤ n}.Finite := fun n => List.finite_length_le Char n
  refine ⟨(hfinite ((seeds.map fun seed => (spelling (fun _ => false) seed).length).sum)).toFinset,
    ?_⟩
  rintro t ⟨seed, hseed, -, hrewrites⟩
  have hspelling := spelling_of_rewrites (fun _ _ => rfl) hrewrites
  have hlength := length_le_spelling t
  rw [hspelling] at hlength
  have hsum := List.single_le_sum (fun _ _ => Nat.zero_le _) _
    (List.mem_map_of_mem (f := fun seed => (spelling (fun _ => false) seed).length) hseed)
  exact (Set.Finite.mem_toFinset _).mpr (hlength.trans hsum)

/-- The seeds of `_address_variants`. -/
def seeds (nfkc casefold : Text → Text) (value : Text) : List Text :=
  let text := stripText (nfkc value)
  if text.isEmpty then [] else [text, compactTaiwanQueryKey nfkc casefold text]

theorem exists_addressVariants (nfkc casefold : Text → Text) (value : Text) :
    ∃ variants : List Text, variants.Nodup ∧
      (∀ t, t ∈ variants ↔ Closure (seeds nfkc casefold value) t) ∧
      ∃ enough, ∀ turns, enough ≤ turns →
        addressVariants nfkc casefold turns value = some variants := by
  unfold seeds addressVariants
  by_cases hempty : (stripText (nfkc value)).isEmpty = true
  · refine ⟨[], List.nodup_nil, fun t => ?_, 0, fun _ _ => ?_⟩
    · simp [hempty, Closure]
    · simp [hempty]
  · obtain ⟨closed, hclosed⟩ := exists_finset_of_closure
      [stripText (nfkc value), compactTaiwanQueryKey nfkc casefold (stripText (nfkc value))]
    obtain ⟨variants, hnodup, hmem, enough, hrun⟩ :=
      Worklist.exists_visit closed fun t ht => hclosed t ((reached_iff _ t).mp ht)
    refine ⟨variants, hnodup, fun t => ?_, enough, fun turns hle => ?_⟩
    · simp only [hempty]
      exact (hmem t).trans (reached_iff _ t)
    · simp only [hempty]
      exact hrun turns hle

end FloodRisk.Geocoding
