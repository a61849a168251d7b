import FloodRisk.Lib.Table
import Mathlib.Data.Int.Order.Basic
import Mathlib.Data.List.Perm.Subperm

/-! # The last time of each key

A log records keys and times in the order of the times; a table remembers the
last time of each key.  What a rule reads off the table holds of the log: a key
that is not remembered since a time has no entry since then, and a key whose
last time is old enough has no entry too close.  Where the keys since a time
are distinct, the table counts them. -/

namespace LastSeen

variable {κ : Type*} [DecidableEq κ]

abbrev Times (κ : Type*) := Table (Prod.fst : κ × ℤ → κ)

def lookup (times : Times κ) (k : κ) : Option ℤ := (times.find k).map Prod.snd

def record (times : Times κ) (k : κ) (now : ℤ) : Times κ :=
  times.upsertWhen (fun _ _ => true) (k, now)

def countSince (times : Times κ) (start : ℤ) : ℕ :=
  (times.rows.filter fun row => start ≤ row.2).length

def Remembers (times : Times κ) (log : List (κ × ℤ)) : Prop :=
  ∀ entry ∈ log, ∃ last, lookup times entry.1 = some last ∧ entry.2 ≤ last

theorem lookup_record_self (times : Times κ) (k : κ) (now : ℤ) :
    lookup (record times k now) k = some now := by
  have hfind : (record times k now).find k = some (k, now) := by
    apply Table.find_eq_some_iff.mpr
    refine ⟨Table.mem_upsertWhen.mpr (Or.inl ⟨rfl, ?_⟩), rfl⟩
    exact fun _ _ _ => Or.inr rfl
  rw [lookup, hfind, Option.map_some]

theorem lookup_record_of_ne (times : Times κ) {k other : κ} (now : ℤ) (h : other ≠ k) :
    lookup (record times k now) other = lookup times other := by
  rw [lookup, record, Table.find_upsertWhen_of_ne times _ h, lookup]

theorem remembers_nil (times : Times κ) : Remembers times [] := by
  intro entry h
  exact absurd h List.not_mem_nil

variable {times : Times κ} {log : List (κ × ℤ)} {k : κ} {now : ℤ}

theorem Remembers.record (h : Remembers times log) (hlast : ∀ entry ∈ log, entry.2 ≤ now) :
    Remembers (LastSeen.record times k now) (log ++ [(k, now)]) := by
  intro entry hentry
  by_cases hk : entry.1 = k
  · refine ⟨now, ?_, ?_⟩
    · rw [hk, lookup_record_self]
    · cases List.mem_append.mp hentry with
      | inl hold => exact hlast entry hold
      | inr hnew => rw [List.mem_singleton.mp hnew]
  · cases List.mem_append.mp hentry with
    | inl hold => rw [lookup_record_of_ne times now hk]; exact h entry hold
    | inr hnew => exact absurd (congrArg Prod.fst (List.mem_singleton.mp hnew)) hk

theorem Remembers.before {start : ℤ} (h : Remembers times log)
    (hold : ∀ last ∈ lookup times k, last < start) :
    ∀ entry ∈ log, entry.1 = k → entry.2 < start := by
  intro entry hentry hk
  obtain ⟨last, hlast, hle⟩ := h entry hentry
  have hbefore := hold last (hk ▸ hlast)
  omega

theorem Remembers.spaced {gap : ℤ} (h : Remembers times log)
    (hold : ∀ last ∈ lookup times k, gap ≤ now - last) :
    ∀ entry ∈ log, entry.1 = k → gap ≤ now - entry.2 := by
  intro entry hentry hk
  obtain ⟨last, hlast, hle⟩ := h entry hentry
  have hspaced := hold last (hk ▸ hlast)
  omega

theorem Remembers.length_le_countSince {start : ℤ} (h : Remembers times log)
    {chosen : List (κ × ℤ)} (hchosen : chosen ⊆ log) (hsince : ∀ entry ∈ chosen, start ≤ entry.2)
    (hnodup : (chosen.map Prod.fst).Nodup) : chosen.length ≤ countSince times start := by
  have hsub : chosen.map Prod.fst ⊆ (times.rows.filter fun row => start ≤ row.2).map Prod.fst := by
    intro name hname
    obtain ⟨entry, hentry, rfl⟩ := List.mem_map.mp hname
    obtain ⟨last, hlast, hle⟩ := h entry (hchosen hentry)
    obtain ⟨row, hfind, rfl⟩ := Option.map_eq_some_iff.mp hlast
    obtain ⟨hrow, hkey⟩ := Table.find_eq_some_iff.mp hfind
    have hstart := hsince entry hentry
    refine List.mem_map.mpr ⟨row, List.mem_filter.mpr ⟨hrow, ?_⟩, hkey⟩
    exact decide_eq_true (by omega)
  have hlength := (List.subperm_of_subset hnodup hsub).length_le
  rwa [List.length_map, List.length_map] at hlength

end LastSeen
