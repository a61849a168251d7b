import FloodRisk.Maintenance.Reindex

/-!
# The rebuild policy over whole runs

A run starts with empty dictionaries; its cycles come in the order of their
times.  The log of a run is what the rules of the policy speak about, and the
dictionaries remember it.
-/

namespace FloodRisk.Maintenance
open LastSeen

/-! ### Window occurrences -/

/-- The time of day is inside the window, which may cross midnight. -/
def IsInside (now : ℤ) (window : Window) : Prop :=
  if window.start < window.finish then
    minutes window.start ≤ timeOfDay now ∧ timeOfDay now < minutes window.finish
  else minutes window.start ≤ timeOfDay now ∨ timeOfDay now < minutes window.finish

theorem timeOfDay_range (now : ℤ) : 0 ≤ timeOfDay now ∧ timeOfDay now < dayLength :=
  ⟨Int.emod_nonneg now (by decide), Int.emod_lt_of_pos now (by decide)⟩

theorem minutes_range (time : TimeOfDay) : 0 ≤ minutes time ∧ minutes time < dayLength := by
  have htime := time.isLt
  unfold minutes dayLength
  omega

theorem minutes_lt {first second : TimeOfDay} : first < second ↔ minutes first < minutes second := by
  rw [Fin.lt_def]
  unfold minutes
  omega

theorem isInside_iff (now : ℤ) (window : Window) :
    IsInside now window ↔ (windowStartedAt now window).isSome := by
  unfold IsInside windowStartedAt
  simp only
  split_ifs with hday hinside hstart hfinish <;> simp_all

theorem timeOfDay_replaceTime (instant : ℤ) (time : TimeOfDay) :
    timeOfDay (replaceTime instant time) = minutes time := by
  have hrange := minutes_range time
  unfold replaceTime timeOfDay at *
  unfold dayLength at *
  omega

theorem minutes_ne (window : Window) : minutes window.start ≠ minutes window.finish := by
  intro h
  apply window.differ
  apply Fin.ext
  unfold minutes at h
  omega

theorem timeOfDay_started {now startedAt : ℤ} {window : Window}
    (h : windowStartedAt now window = some startedAt) :
    timeOfDay startedAt = minutes window.start := by
  have hreplaced := timeOfDay_replaceTime now window.start
  unfold windowStartedAt at h
  simp only at h
  split_ifs at h <;> rw [← Option.some.inj h]
  · exact hreplaced
  · exact hreplaced
  · rw [timeOfDay, Int.sub_emod_right]
    exact hreplaced

/-- The occurrence that contains a time starts no later, ends later and is shorter than a day. -/
theorem occurrence_bounds {now startedAt : ℤ} {window : Window}
    (h : windowStartedAt now window = some startedAt) :
    startedAt ≤ now ∧ now < windowEndsAt startedAt window ∧
      windowEndsAt startedAt window - startedAt < dayLength := by
  have hnow := timeOfDay_range now
  have hstart := minutes_range window.start
  have hfinish := minutes_range window.finish
  have hne := minutes_ne window
  have hday := timeOfDay_started h
  simp only [windowStartedAt, minutes_lt, replaceTime] at h
  simp only [windowEndsAt, replaceTime, hday]
  split_ifs at h ⊢ <;> rw [← Option.some.inj h] at * <;> omega

/-- Every time of the occurrence names the same start. -/
theorem occurrence_unique {now startedAt : ℤ} {window : Window}
    (h : windowStartedAt now window = some startedAt) {other : ℤ} (hfirst : startedAt ≤ other)
    (hlast : other < windowEndsAt startedAt window) :
    windowStartedAt other window = some startedAt := by
  have hother := timeOfDay_range other
  have hstart := minutes_range window.start
  have hfinish := minutes_range window.finish
  have hne := minutes_ne window
  have hday := timeOfDay_started h
  simp only [windowEndsAt, replaceTime, hday] at hlast
  simp only [windowStartedAt, minutes_lt, replaceTime]
  split_ifs at hlast
  all_goals split_ifs
  all_goals try rw [Option.some.injEq]
  all_goals unfold timeOfDay dayLength at *
  all_goals omega

/-! ### Runs -/

def cycleResults (config : ReindexConfig) : ReindexState → List Cycle → List (Cycle × CycleResult)
  | _, [] => []
  | state, cycle :: rest =>
      let result := reindexEvidenceIndexes config cycle state
      (cycle, result) :: cycleResults config result.state rest

/-- The `REINDEX` statements of a run, with the times of their cycles. -/
def attempts (results : List (Cycle × CycleResult)) : List (String × ℤ) :=
  results.flatMap fun entry => entry.2.statements.map fun indexName => (indexName, entry.1.now)

def rebuilds (results : List (Cycle × CycleResult)) : List (String × ℤ) :=
  results.flatMap fun entry => entry.2.recorded.map fun indexName => (indexName, entry.1.now)

def isIn (window : Window) (startedAt : ℤ) (entry : String × ℤ) : Bool :=
  windowStartedAt entry.2 window = some startedAt

/-- The rules of the policy, of the attempts and the recorded rebuilds so far. -/
structure KeepsPolicy (config : ReindexConfig) (attempted rebuilt : List (String × ℤ)) : Prop where
  once : attempted.Pairwise fun first second => first.1 = second.1 →
    windowStartedAt first.2 config.window ≠ windowStartedAt second.2 config.window
  budget : ∀ startedAt, ((rebuilt.filter (isIn config.window startedAt)).length : ℤ) ≤
    config.maxPerWindow
  spaced : rebuilt.Pairwise fun first second => first.1 = second.1 →
    config.interval ≤ second.2 - first.2
  inside : ∀ entry ∈ attempted, (windowStartedAt entry.2 config.window).isSome
  recorded : rebuilt.Sublist attempted

/-- The dictionaries remember a run that kept the policy. -/
structure Tracks (config : ReindexConfig) (state : ReindexState)
    (attempted rebuilt : List (String × ℤ)) : Prop extends KeepsPolicy config attempted rebuilt where
  rememberedAttempts : Remembers state.lastAttemptAt attempted
  rememberedRebuilds : Remembers state.lastReindexAt rebuilt

variable {config : ReindexConfig} {state : ReindexState} {attempted rebuilt : List (String × ℤ)}
  {now startedAt : ℤ} {indexName : String}

theorem Tracks.empty (hvalid : config.numbersValid = true) :
    Tracks config ReindexState.empty [] [] := by
  have hbudget : (0 : ℤ) ≤ config.maxPerWindow := by
    simp only [ReindexConfig.numbersValid, Bool.and_eq_true, decide_eq_true_eq] at hvalid
    omega
  refine ⟨⟨List.Pairwise.nil, ?_, List.Pairwise.nil, ?_, List.Sublist.refl []⟩,
    remembers_nil _, remembers_nil _⟩
  · intro startedAt
    simpa using hbudget
  · intro entry h
    exact absurd h List.not_mem_nil

/-- An occurrence has one attempt of an index, so its rebuilds are of different indexes. -/
theorem KeepsPolicy.names_nodup (h : KeepsPolicy config attempted rebuilt) (startedAt : ℤ) :
    ((rebuilt.filter (isIn config.window startedAt)).map Prod.fst).Nodup := by
  have honce := (h.once.sublist h.recorded).filter (isIn config.window startedAt)
  apply List.pairwise_map.mpr
  apply honce.imp_of_mem
  intro first second hfirst hsecond hwindow hname
  apply hwindow hname
  rw [of_decide_eq_true (List.mem_filter.mp hfirst).2,
    of_decide_eq_true (List.mem_filter.mp hsecond).2]

theorem Tracks.length_le_rebuildsInWindow (h : Tracks config state attempted rebuilt)
    (startedAt : ℤ) :
    (rebuilt.filter (isIn config.window startedAt)).length ≤ rebuildsInWindow state startedAt := by
  apply h.rememberedRebuilds.length_le_countSince (List.filter_subset_self _) _ (h.names_nodup startedAt)
  intro entry hentry
  exact (occurrence_bounds (of_decide_eq_true (List.mem_filter.mp hentry).2)).1

/-- An index that is due has no attempt in the occurrence of the cycle. -/
theorem Tracks.untried (h : Tracks config state attempted rebuilt)
    (opened : windowStartedAt now config.window = some startedAt)
    (due : Due config state startedAt now indexName) :
    ∀ entry ∈ attempted, entry.1 = indexName →
      windowStartedAt entry.2 config.window ≠ windowStartedAt now config.window := by
  intro entry hentry hname hsame
  have hbefore := h.rememberedAttempts.before due.untried entry hentry hname
  rw [opened] at hsame
  have hstarted := (occurrence_bounds hsame).1
  omega

theorem Tracks.attempt (h : Tracks config state attempted rebuilt)
    (hlast : ∀ entry ∈ attempted, entry.2 ≤ now)
    (opened : windowStartedAt now config.window = some startedAt)
    (due : Due config state startedAt now indexName) :
    Tracks config { state with lastAttemptAt := record state.lastAttemptAt indexName now }
      (attempted ++ [(indexName, now)]) rebuilt := by
  have huntried := h.untried opened due
  refine ⟨⟨?_, h.budget, h.spaced, ?_, h.recorded.trans (List.sublist_append_left _ _)⟩,
    h.rememberedAttempts.record hlast, h.rememberedRebuilds⟩
  · apply List.pairwise_append.mpr
    refine ⟨h.once, List.pairwise_singleton _ _, ?_⟩
    intro entry hentry new hnew hname
    rw [List.mem_singleton.mp hnew] at hname ⊢
    exact huntried entry hentry hname
  · intro entry hentry
    cases List.mem_append.mp hentry with
    | inl hold => exact h.inside entry hold
    | inr hnew =>
      rw [List.mem_singleton.mp hnew, opened]
      rfl

theorem Tracks.rebuild (h : Tracks config state attempted rebuilt)
    (hlast : ∀ entry ∈ attempted, entry.2 ≤ now)
    (opened : windowStartedAt now config.window = some startedAt)
    (budget : (rebuildsInWindow state startedAt : ℤ) < config.maxPerWindow)
    (due : Due config state startedAt now indexName) :
    Tracks config ⟨record state.lastReindexAt indexName now,
        record state.lastAttemptAt indexName now⟩
      (attempted ++ [(indexName, now)]) (rebuilt ++ [(indexName, now)]) := by
  have tried := h.attempt hlast opened due
  have hlastRebuilt : ∀ entry ∈ rebuilt, entry.2 ≤ now := by
    intro entry hentry
    exact hlast entry (h.recorded.subset hentry)
  refine ⟨⟨tried.once, ?_, ?_, tried.inside, h.recorded.append (List.Sublist.refl _)⟩,
    tried.rememberedAttempts, h.rememberedRebuilds.record hlastRebuilt⟩
  · intro other
    rw [List.filter_append, List.length_append]
    by_cases hother : isIn config.window other (indexName, now) = true
    · have hsame : other = startedAt := by
        have hopened := of_decide_eq_true hother
        rw [opened] at hopened
        exact (Option.some.inj hopened).symm
      have hcount := h.length_le_rebuildsInWindow startedAt
      rw [hsame] at hother ⊢
      rw [List.filter_cons_of_pos hother]
      simp only [List.filter_nil, List.length_singleton]
      omega
    · rw [List.filter_cons_of_neg hother]
      simpa using h.budget other
  · apply List.pairwise_append.mpr
    refine ⟨h.spaced, List.pairwise_singleton _ _, ?_⟩
    intro entry hentry new hnew hname
    rw [List.mem_singleton.mp hnew] at hname ⊢
    exact h.rememberedRebuilds.spaced due.spaced entry hentry hname

theorem Tracks.step (h : Tracks config state attempted rebuilt)
    (hlast : ∀ entry ∈ attempted, entry.2 ≤ now) {result : CycleResult}
    (effect : CycleEffect config now state result) :
    Tracks config result.state
      (attempted ++ result.statements.map fun indexName => (indexName, now))
      (rebuilt ++ result.recorded.map fun indexName => (indexName, now)) := by
  cases effect with
  | idle summary => simpa using h
  | attempted summary startedAt indexName opened budget due =>
    simpa using h.attempt hlast opened due
  | rebuilt summary startedAt indexName opened budget due =>
    exact h.rebuild hlast opened budget due

/-- Cycles later than everything in the log extend a log that keeps the policy. -/
theorem Tracks.run (cycles : List Cycle) (h : Tracks config state attempted rebuilt)
    (hlast : ∀ entry ∈ attempted, ∀ cycle ∈ cycles, entry.2 ≤ cycle.now)
    (hordered : cycles.Pairwise fun first second => first.now ≤ second.now) :
    KeepsPolicy config (attempted ++ attempts (cycleResults config state cycles))
      (rebuilt ++ rebuilds (cycleResults config state cycles)) := by
  induction cycles generalizing state attempted rebuilt with
  | nil => simpa [cycleResults, attempts, rebuilds] using h.toKeepsPolicy
  | cons cycle rest ih =>
    have heffect := reindexEvidenceIndexes_effect config cycle state
    have hstep := h.step (fun entry hentry => hlast entry hentry cycle List.mem_cons_self) heffect
    obtain ⟨hfirst, hrest⟩ := List.pairwise_cons.mp hordered
    have hrun := ih hstep (by
      intro entry hentry later hlater
      cases List.mem_append.mp hentry with
      | inl hold => exact hlast entry hold later (List.mem_cons_of_mem _ hlater)
      | inr hnew =>
        obtain ⟨name, -, rfl⟩ := List.mem_map.mp hnew
        exact hfirst later hlater) hrest
    simpa only [cycleResults, attempts, rebuilds, List.flatMap_cons, List.append_assoc] using hrun

theorem statements_length {result : CycleResult} (effect : CycleEffect config now state result) :
    result.statements.length ≤ 1 := by
  cases effect with
  | idle summary => exact Nat.zero_le 1
  | attempted summary startedAt indexName opened budget due => exact le_rfl
  | rebuilt summary startedAt indexName opened budget due => exact le_rfl

theorem statements_of_run (cycles : List Cycle) (state : ReindexState) :
    ∀ entry ∈ cycleResults config state cycles, entry.2.statements.length ≤ 1 := by
  induction cycles generalizing state with
  | nil => simp [cycleResults]
  | cons cycle rest ih =>
    intro entry hentry
    cases List.mem_cons.mp hentry with
    | inl hfirst =>
      rw [hfirst]
      exact statements_length (reindexEvidenceIndexes_effect config cycle state)
    | inr hrest => exact ih _ entry hrest

/-- What the window functions say of every time inside the window. -/
def NamesOccurrence (window : Window) : Prop :=
  ∀ now, IsInside now window → ∃ startedAt, windowStartedAt now window = some startedAt ∧
    startedAt ≤ now ∧ now < windowEndsAt startedAt window ∧
    windowEndsAt startedAt window - startedAt < dayLength ∧
    ∀ other, startedAt ≤ other → other < windowEndsAt startedAt window →
      windowStartedAt other window = some startedAt

theorem namesOccurrence (window : Window) : NamesOccurrence window := by
  intro now hinside
  obtain ⟨startedAt, hstarted⟩ := Option.isSome_iff_exists.mp ((isInside_iff now window).mp hinside)
  obtain ⟨hfirst, hlast, hshort⟩ := occurrence_bounds hstarted
  exact ⟨startedAt, hstarted, hfirst, hlast, hshort, fun other => occurrence_unique hstarted⟩

/-- Every run keeps the rebuild policy. -/
theorem rebuild_policy (config : ReindexConfig) (cycles : List Cycle)
    (hvalid : config.numbersValid = true)
    (hordered : cycles.Pairwise fun first second => first.now ≤ second.now) :
    let results := cycleResults config ReindexState.empty cycles
    (∀ entry ∈ results, entry.2.statements.length ≤ 1) ∧
      KeepsPolicy config (attempts results) (rebuilds results) ∧
      NamesOccurrence config.window := by
  have hrun := (Tracks.empty hvalid).run cycles (by simp) hordered
  simp only [List.nil_append] at hrun
  exact ⟨statements_of_run cycles ReindexState.empty, hrun, namesOccurrence config.window⟩

/-- Two indexes, and a window from 23:00 to 02:00. -/
def nightConfig : ReindexConfig where
  indexNames := ["idx_a", "idx_b"]
  windowUtc := "23:00-02:00"
  window := ⟨1380, 120, by decide⟩

def nightCycle (minute : ℕ) : Cycle where
  now := minutes minute
  serverVersionNum := .ok 160000
  indexState := fun _ => .ok (some ⟨16777216, 1000, true, 1⟩)
  reindexIndexConcurrently := fun _ => .ok ()
  indexStateAfter := fun _ => .ok (some ⟨8388608, 1000, true, 2⟩)

/-- The second cycle is after midnight, in the same occurrence; the third finds nothing due. -/
theorem night_keeps_policy :
    let results := cycleResults nightConfig ReindexState.empty
      [nightCycle 1385, nightCycle 1445, nightCycle 1450]
    rebuilds results = [("idx_a", minutes 1385), ("idx_b", minutes 1445)] ∧
      (∀ entry ∈ results, entry.2.statements.length ≤ 1) ∧
      KeepsPolicy nightConfig (attempts results) (rebuilds results) ∧
      NamesOccurrence nightConfig.window :=
  ⟨by decide +kernel, rebuild_policy nightConfig _ (by decide) (by decide)⟩

end FloodRisk.Maintenance
