import Mathlib.Data.List.Chain

/-! # Journals of status changes

An append-only journal records each change of a subject's status with the
status before and after it.  The entries of one subject tell its history when
the first opens it, each later entry starts where the one before it ended, and
the last ends in the status the subject has now. -/

namespace Journal

variable {ε σ κ : Type*}

/-- The entries of one subject, in the order they were written. -/
def trail [DecidableEq κ] (subject : ε → κ) (k : κ) (journal : List ε) : List ε :=
  journal.filter fun entry => subject entry = k

theorem trail_append_self [DecidableEq κ] (subject : ε → κ) (journal : List ε) (entry : ε) :
    trail subject (subject entry) (journal ++ [entry]) =
      trail subject (subject entry) journal ++ [entry] := by
  simp [trail, List.filter_append]

theorem trail_append_of_ne [DecidableEq κ] {subject : ε → κ} {k : κ} (journal : List ε) {entry : ε}
    (h : subject entry ≠ k) : trail subject k (journal ++ [entry]) = trail subject k journal := by
  simp [trail, List.filter_append, h]

theorem trail_eq_nil [DecidableEq κ] {subject : ε → κ} {k : κ} {journal : List ε}
    (h : ∀ entry ∈ journal, subject entry ≠ k) : trail subject k journal = [] := by
  simpa [trail, List.filter_eq_nil_iff] using h

structure Tells (previous : ε → Option σ) (status : ε → σ) (entries : List ε) (current : σ) :
    Prop where
  opens : ∃ first rest, entries = first :: rest ∧ previous first = none
  linked : entries.IsChain fun earlier later => previous later = some (status earlier)
  current : entries.getLast?.map status = some current

variable {previous : ε → Option σ} {status : ε → σ}

theorem tells_singleton {entry : ε} (h : previous entry = none) :
    Tells previous status [entry] (status entry) :=
  ⟨⟨entry, [], rfl, h⟩, List.isChain_singleton entry, rfl⟩

theorem Tells.append {entries : List ε} {current : σ} (h : Tells previous status entries current)
    {entry : ε} (starts : previous entry = some current) :
    Tells previous status (entries ++ [entry]) (status entry) := by
  obtain ⟨first, rest, rfl, hfirst⟩ := h.opens
  refine ⟨⟨first, rest ++ [entry], rfl, hfirst⟩, ?_, by rw [List.getLast?_concat]; rfl⟩
  refine List.isChain_append.mpr ⟨h.linked, List.isChain_singleton entry, ?_⟩
  intro last hlast next hnext
  have hstatus : some (status last) = some current := by
    rw [← h.current, hlast]
    rfl
  have hentry : entry = next := Option.some.inj hnext
  rw [← hentry, starts, hstatus]

end Journal
