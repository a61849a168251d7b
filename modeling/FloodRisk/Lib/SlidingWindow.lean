import Mathlib.Algebra.Order.Group.Defs
import Mathlib.Data.List.Induction
import Mathlib.Data.List.Sort
import Mathlib.Order.Interval.Set.Basic

/-! # Sliding windows

A limit on the admitted times of every window, over the log of all admitted times. -/

namespace SlidingWindow

variable {T : Type*} [AddCommGroup T] [LinearOrder T]
  {limit : ℕ} {window now : T} {log times : List T}

/-- The times of the log in the window that ends now. -/
def recent (window : T) (log : List T) (now : T) : List T := log.filter (now - window < ·)

def accept (limit : ℕ) (window : T) (log : List T) (now : T) : List T :=
  if (recent window log now).length < limit then log ++ [now] else log

/-- The admitted times of a run. -/
def admitted (limit : ℕ) (window : T) (times : List T) : List T :=
  times.foldl (accept limit window) []

theorem admitted_concat (limit : ℕ) (window : T) (times : List T) (now : T) :
    admitted limit window (times ++ [now]) =
      accept limit window (admitted limit window times) now := by
  rw [admitted, List.foldl_append]
  rfl

theorem admitted_sublist (limit : ℕ) (window : T) (times : List T) :
    (admitted limit window times).Sublist times := by
  induction times using List.reverseRecOn with
  | nil => exact List.Sublist.slnil
  | append_singleton times now ih =>
    rw [admitted_concat, accept]
    split_ifs
    · exact ih.append_right [now]
    · exact ih.trans (List.sublist_append_left times [now])

theorem admitted_sorted (h : times.Pairwise (· ≤ ·)) :
    (admitted limit window times).Pairwise (· ≤ ·) :=
  h.sublist (admitted_sublist limit window times)

/-- The times of the log in a set that ends at most one window before now are recent. -/
theorem length_filter_le_recent (interval : T → Bool)
    (h : ∀ t ∈ log, interval t = true → now - window < t) :
    (log.filter interval).length ≤ (recent window log now).length := by
  have hsub : log.filter interval = (recent window log now).filter interval := by
    rw [recent, List.filter_filter]
    apply List.filter_congr
    intro t ht
    cases hin : interval t with
    | false => rfl
    | true => simp [h t ht hin]
  rw [hsub]
  exact List.length_filter_le _ _

theorem length_filter_admitted_le {interval : T → Bool}
    (h : ∀ t u, t ≤ u → interval t = true → interval u = true → u - window < t)
    (hsorted : times.Pairwise (· ≤ ·)) :
    ((admitted limit window times).filter interval).length ≤ limit := by
  induction times using List.reverseRecOn with
  | nil => exact Nat.zero_le _
  | append_singleton times now ih =>
    obtain ⟨htimes, -, hlast⟩ := List.pairwise_append.mp hsorted
    rw [admitted_concat, accept]
    split_ifs with hroom
    · rw [List.filter_append, List.length_append]
      cases hnow : interval now with
      | false => simpa [hnow] using ih htimes
      | true =>
        have hrecent : ((admitted limit window times).filter interval).length ≤
            (recent window (admitted limit window times) now).length := by
          apply length_filter_le_recent
          intro t ht hin
          have hle : t ≤ now :=
            hlast t ((admitted_sublist limit window times).subset ht) now List.mem_cons_self
          exact h t now hle hin hnow
        simp only [hnow, List.filter_cons_of_pos, List.filter_nil, List.length_singleton]
        omega
    · exact ih htimes

section Windows

variable [IsOrderedAddMonoid T]

/-- A window that is open on the left. -/
theorem length_Ioc_le (hsorted : times.Pairwise (· ≤ ·)) (start : T) :
    ((admitted limit window times).filter fun t => start < t ∧ t ≤ start + window).length ≤
      limit := by
  apply length_filter_admitted_le _ hsorted
  intro t u _ ht hu
  simp only [decide_eq_true_eq] at ht hu
  exact lt_of_le_of_lt (sub_le_iff_le_add.mpr hu.2) ht.1

theorem length_recent_le (hsorted : (times ++ [now]).Pairwise (· ≤ ·)) :
    (recent window (admitted limit window times) now).length ≤ limit := by
  obtain ⟨htimes, -, hlast⟩ := List.pairwise_append.mp hsorted
  have hwindow : ((admitted limit window times).filter
      fun t => now - window < t ∧ t ≤ now - window + window).length ≤ limit :=
    length_Ioc_le htimes (now - window)
  rw [sub_add_cancel] at hwindow
  have hsame : recent window (admitted limit window times) now =
      (admitted limit window times).filter fun t => now - window < t ∧ t ≤ now := by
    apply List.filter_congr
    intro t ht
    have hle : t ≤ now :=
      hlast t ((admitted_sublist limit window times).subset ht) now List.mem_cons_self
    simp [hle]
  rw [hsame]
  exact hwindow

/-- Once the oldest time of a full window has left it there is room. -/
theorem length_recent_lt {oldest later : T} (hsorted : (times ++ [now]).Pairwise (· ≤ ·))
    (holdest : (recent window (admitted limit window times) now).head? = some oldest)
    (hlater : oldest ≤ later - window) (hle : now ≤ later) :
    (recent window (admitted limit window times) later).length < limit := by
  have hfew : (recent window (admitted limit window times) now).length ≤ limit :=
    length_recent_le hsorted
  have hsub : (recent window (admitted limit window times) later).Sublist
      (recent window (admitted limit window times) now).tail := by
    cases hrecent : recent window (admitted limit window times) now with
    | nil =>
      rw [hrecent] at holdest
      cases holdest
    | cons first rest =>
      rw [hrecent] at holdest
      cases holdest
      have hfilter : recent window (admitted limit window times) later =
          (oldest :: rest).filter (later - window < ·) := by
        rw [← hrecent, recent, recent, List.filter_filter]
        apply List.filter_congr
        intro t _
        have himp : later - window < t → now - window < t :=
          lt_of_le_of_lt (sub_le_sub_right hle window)
        by_cases ht : later - window < t
        · simp [ht, himp ht]
        · simp [ht]
      rw [hfilter, List.filter_cons_of_neg (by simpa using hlater)]
      exact List.filter_sublist
  have hlength := hsub.length_le
  have hpos : 0 < (recent window (admitted limit window times) now).length := by
    cases hrecent : recent window (admitted limit window times) now with
    | nil =>
      rw [hrecent] at holdest
      cases holdest
    | cons first rest => exact Nat.succ_pos _
  rw [List.length_tail] at hlength
  omega

end Windows

end SlidingWindow
