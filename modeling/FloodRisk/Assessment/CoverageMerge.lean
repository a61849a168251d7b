import FloodRisk.Assessment.ObservationReads
import FloodRisk.Lib.Newest
import FloodRisk.Lib.SplitOn

/-!
# What the merge of station rows keeps

`query_nearby_realtime_coverage_rows` merges the latest rows with those of the
evidence table under a normalised station id, and returns the latest rows
alone when the evidence read is cancelled.
-/

namespace FloodRisk.Assessment
open Promotion Realtime

/-! ### The merge as a dictionary of the most recent rows -/

/-- `_coverage_row_recency`. -/
def recency (row : CoverageRead) : Bool ×ₗ ℤ ×ₗ ℤ :=
  toLex (row.observedAt.isSome, toLex (row.observedAt.getD row.ingestedAt, row.ingestedAt))

theorem recencyLe_iff (first second : CoverageRead) :
    recencyLe first second = true ↔ recency first ≤ recency second := by
  unfold recencyLe recency
  cases hfirst : first.observedAt <;> cases hsecond : second.observedAt <;>
    simp [Prod.Lex.toLex_le_toLex]

theorem mergeRow_eq_put (merged : List CoverageRead) (row : CoverageRead) :
    mergeRow merged row = Newest.put rowIdentity recency merged row := by
  have hlater : ∀ current, (!recencyLe row current) = true ↔ recency current < recency row := by
    intro current
    rw [Bool.not_eq_true', Bool.eq_false_iff, ne_eq, recencyLe_iff, not_le]
  unfold mergeRow Newest.put
  simp only [Bool.and_eq_true, decide_eq_true_eq, hlater]

theorem holds_merge (latestRows evidenceRows : List CoverageRead) :
    Newest.Holds rowIdentity recency (latestRows ++ evidenceRows)
      ((latestRows ++ evidenceRows).foldl mergeRow []) := by
  have hstep : mergeRow = Newest.put rowIdentity recency :=
    funext fun merged => funext fun row => mergeRow_eq_put merged row
  rw [hstep]
  exact Newest.holds_foldl_put _

theorem mem_merge_iff {latestRows evidenceRows : List CoverageRead} {row : CoverageRead} :
    row ∈ mergeNearbyCoverageRows latestRows evidenceRows ↔
      Newest.Stands rowIdentity recency (latestRows ++ evidenceRows) row := by
  rw [mergeNearbyCoverageRows, List.mem_insertionSort]
  exact (holds_merge latestRows evidenceRows).mem_iff row

theorem merge_identity_injective {latestRows evidenceRows : List CoverageRead}
    {first second : CoverageRead}
    (hfirst : first ∈ mergeNearbyCoverageRows latestRows evidenceRows)
    (hsecond : second ∈ mergeNearbyCoverageRows latestRows evidenceRows)
    (heq : rowIdentity first = rowIdentity second) : first = second := by
  rw [mergeNearbyCoverageRows, List.mem_insertionSort] at hfirst hsecond
  exact List.inj_on_of_nodup_map (holds_merge latestRows evidenceRows).distinct hfirst hsecond heq

theorem exists_newer_of_mem {latestRows evidenceRows : List CoverageRead} {row : CoverageRead}
    (h : row ∈ latestRows ++ evidenceRows) :
    ∃ kept ∈ mergeNearbyCoverageRows latestRows evidenceRows,
      rowIdentity kept = rowIdentity row ∧ recency row ≤ recency kept := by
  obtain ⟨kept, hkept, hidentity, hle⟩ := (holds_merge latestRows evidenceRows).newest row h
  exact ⟨kept, (List.mem_insertionSort _).mpr hkept, hidentity, hle⟩

/-! ### Levels and distances -/

def limits (signalType : SignalType) : List ℚ :=
  [(thresholds signalType).1, (thresholds signalType).2.1, (thresholds signalType).2.2]

theorem thresholds_ascend (signalType : SignalType) :
    (thresholds signalType).1 ≤ (thresholds signalType).2.1 ∧
      (thresholds signalType).2.1 ≤ (thresholds signalType).2.2 := by
  cases signalType <;> decide +kernel

def isWithinLimit (limit : ℚ) (nearest : Option NearbyCoverageRow) : Prop :=
  ∃ row ∈ nearest, row.distanceToQueryM ≤ limit

theorem levelRank_reaches (signalType : SignalType) (nearest : Option NearbyCoverageRow) :
    (3 ≤ levelRank (coverageLevel signalType nearest) ↔
        isWithinLimit (thresholds signalType).1 nearest) ∧
      (2 ≤ levelRank (coverageLevel signalType nearest) ↔
        isWithinLimit (thresholds signalType).2.1 nearest) ∧
      (1 ≤ levelRank (coverageLevel signalType nearest) ↔
        isWithinLimit (thresholds signalType).2.2 nearest) ∧
      levelRank (coverageLevel signalType nearest) ≤ 3 := by
  obtain ⟨hlow, hhigh⟩ := thresholds_ascend signalType
  cases nearest with
  | none => simp [coverageLevel, levelRank, isWithinLimit]
  | some row =>
      simp only [coverageLevel, isWithinLimit, Option.mem_some_iff, exists_eq_left']
      by_cases hfirst : row.distanceToQueryM ≤ (thresholds signalType).1
      · simp [hfirst, hfirst.trans hlow, (hfirst.trans hlow).trans hhigh, levelRank]
      · by_cases hsecond : row.distanceToQueryM ≤ (thresholds signalType).2.1
        · simp [hfirst, hsecond, hsecond.trans hhigh, levelRank]
        · by_cases hthird : row.distanceToQueryM ≤ (thresholds signalType).2.2
          · simp [hfirst, hsecond, hthird, levelRank]
          · simp [hfirst, hsecond, hthird, levelRank]

/-- A level is at least another when it meets each limit that the other meets. -/
theorem levelRank_le_iff {signalType : SignalType} {first second : Option NearbyCoverageRow} :
    levelRank (coverageLevel signalType first) ≤ levelRank (coverageLevel signalType second) ↔
      ∀ limit ∈ limits signalType, isWithinLimit limit first → isWithinLimit limit second := by
  obtain ⟨hhigh, hmedium, hlow, hmax⟩ := levelRank_reaches signalType first
  obtain ⟨khigh, kmedium, klow, -⟩ := levelRank_reaches signalType second
  simp only [limits, List.forall_mem_cons, ← hhigh, ← hmedium, ← hlow, ← khigh, ← kmedium, ← klow]
  constructor
  · intro hle
    exact ⟨fun h => h.trans hle, fun h => h.trans hle, fun h => h.trans hle,
      fun _ h => absurd h List.not_mem_nil⟩
  · rintro ⟨htop, hmid, hbottom, -⟩
    omega

theorem nearestRow_within {rows : List NearbyCoverageRow} {limit : ℚ} :
    isWithinLimit limit (nearestRow rows) ↔ ∃ row ∈ rows, row.distanceToQueryM ≤ limit := by
  constructor
  · rintro ⟨row, hrow, hle⟩
    exact ⟨row, List.argmin_mem hrow, hle⟩
  · rintro ⟨row, hrow, hle⟩
    cases hnearest : nearestRow rows with
    | none =>
        rw [List.argmin_eq_none.mp hnearest] at hrow
        exact absurd hrow List.not_mem_nil
    | some nearest =>
        exact ⟨nearest, rfl, (List.le_of_mem_argmin hrow hnearest).trans hle⟩

/-! ### Usable rows of a signal -/

/-- A fresh or degraded row of the signal within a limit. -/
structure Reaches (signalType : SignalType) (limit : ℚ) (row : CoverageRead) : Prop where
  signal : coverageSignalType row.eventType row.adapterKey = signalType
  usable : row.freshnessState ≠ .stale
  near : row.distanceToQueryM ≤ limit

def evaluation (signalType : SignalType) (rows : List CoverageRead)
    (sourceHealth : List NearbySourceHealth) (checks : CoverageChecks) : NearbyCoverageSignal :=
  evaluateSignal signalType (groupRows (rows.map CoverageRead.toNearbyCoverageRow) signalType)
    sourceHealth checks

def usableCount (signal : NearbyCoverageSignal) : ℕ := signal.freshCount + signal.degradedCount

def isUsableOf (signalType : SignalType) (row : CoverageRead) : Bool :=
  coverageSignalType row.eventType row.adapterKey = signalType && row.freshnessState ≠ .stale

section Evaluation

variable {rows : List CoverageRead} {signalType : SignalType}
  {sourceHealth : List NearbySourceHealth} {checks : CoverageChecks}

theorem mem_group (inReach : ∀ row ∈ rows, row.distanceToQueryM ≤ coverageRadiusM)
    {row : NearbyCoverageRow} :
    row ∈ inRange (groupRows (rows.map CoverageRead.toNearbyCoverageRow) signalType) ↔
      ∃ read ∈ rows, read.toNearbyCoverageRow = row ∧
        coverageSignalType read.eventType read.adapterKey = signalType := by
  simp only [inRange, groupRows, List.mem_filter, List.mem_map, decide_eq_true_eq]
  constructor
  · rintro ⟨⟨⟨⟨read, hread, rfl⟩, -⟩, hsignal⟩, -⟩
    exact ⟨read, hread, rfl, hsignal⟩
  · rintro ⟨read, hread, rfl, hsignal⟩
    exact ⟨⟨⟨⟨read, hread, rfl⟩, inReach read hread⟩, hsignal⟩, inReach read hread⟩

theorem level_within (inReach : ∀ row ∈ rows, row.distanceToQueryM ≤ coverageRadiusM) {limit : ℚ} :
    isWithinLimit limit (nearestRow (usableRows (inRange
        (groupRows (rows.map CoverageRead.toNearbyCoverageRow) signalType)))) ↔
      ∃ row ∈ rows, Reaches signalType limit row := by
  rw [nearestRow_within]
  constructor
  · rintro ⟨row, hrow, hle⟩
    obtain ⟨hgroup, husable⟩ := mem_usableRows.mp hrow
    obtain ⟨read, hread, rfl, hsignal⟩ := (mem_group inReach).mp hgroup
    exact ⟨read, hread, hsignal, husable, hle⟩
  · rintro ⟨read, hread, hreaches⟩
    refine ⟨read.toNearbyCoverageRow, mem_usableRows.mpr ⟨?_, hreaches.usable⟩, hreaches.near⟩
    exact (mem_group inReach).mpr ⟨read, hread, rfl, hreaches.signal⟩

theorem usableCount_evaluation (inReach : ∀ row ∈ rows, row.distanceToQueryM ≤ coverageRadiusM) :
    usableCount (evaluation signalType rows sourceHealth checks) =
      (rows.filter (isUsableOf signalType)).length := by
  have hrange : ∀ group : List NearbyCoverageRow, (∀ row ∈ group,
      row.distanceToQueryM ≤ coverageRadiusM) → inRange group = group :=
    fun group hgroup => List.filter_eq_self.mpr fun row hrow => decide_eq_true (hgroup row hrow)
  have hreads : ∀ row ∈ rows.map CoverageRead.toNearbyCoverageRow,
      row.distanceToQueryM ≤ coverageRadiusM := by
    intro row hrow
    obtain ⟨read, hread, rfl⟩ := List.mem_map.mp hrow
    exact inReach read hread
  have hgroup : inRange (groupRows (rows.map CoverageRead.toNearbyCoverageRow) signalType) =
      (rows.filter fun row => coverageSignalType row.eventType row.adapterKey = signalType).map
        CoverageRead.toNearbyCoverageRow := by
    rw [groupRows, hrange _ hreads, hrange _ fun row hrow => hreads row (List.mem_of_mem_filter hrow),
      List.filter_map]
    rfl
  have hsplit : ∀ group : List NearbyCoverageRow,
      group.countP (fun row => row.freshnessState = .fresh) +
        group.countP (fun row => row.freshnessState = .degraded) =
      group.countP fun row => !decide (row.freshnessState = .stale) := by
    intro group
    induction group with
    | nil => rfl
    | cons row rest ih =>
        simp only [List.countP_cons, ← ih]
        cases row.freshnessState <;> simp <;> omega
  show List.countP _ (inRange _) + List.countP _ (inRange _) = _
  rw [hsplit, hgroup, List.countP_map, List.countP_filter, ← List.countP_eq_length_filter]
  refine List.countP_congr ?_
  intro row _
  simp [isUsableOf, and_comm]

end Evaluation

/-! ### Stations -/

section Stations

variable {Geometry Point : Type} (geography : Geography Geometry Point)
  (tables : ObservationTables Geometry) (point : Point) (now : ℤ)

/-- The latest rows that the station read returns. -/
def readingsInReach : List (LatestRow Geometry) :=
  tables.latest.rows.filter fun reading =>
    isEnabledSource tables.toRealtimeTables reading.adapterKey &&
      geography.isWithin reading.geom point coverageRadiusM

def stationRead (reading : LatestRow Geometry) : CoverageRead :=
  latestCoverageRead geography tables.toRealtimeTables point now reading.toStationReading

/-- Every station of the latest rows has a row of its own in the result, of the
same normalised id and at least as recent. -/
def KeepsStations (result : List CoverageRead) : Prop :=
  ∃ represented : LatestRow Geometry → CoverageRead,
    (∀ reading ∈ readingsInReach geography tables point, represented reading ∈ result ∧
      rowIdentity (represented reading) = rowIdentity (stationRead geography tables point now reading)
        ∧ recencyLe (stationRead geography tables point now reading) (represented reading) = true) ∧
    ∀ first ∈ readingsInReach geography tables point,
      ∀ second ∈ readingsInReach geography tables point, first.key ≠ second.key →
        represented first ≠ represented second

/-- No signal has a lower level or fewer usable rows than in the other result. -/
def KeepsSignals (alone result : List CoverageRead) : Prop :=
  ∀ signalType sourceHealth checks,
    levelRank (evaluation signalType alone sourceHealth checks).coverageLevel ≤
        levelRank (evaluation signalType result sourceHealth checks).coverageLevel ∧
      usableCount (evaluation signalType alone sourceHealth checks) ≤
        usableCount (evaluation signalType result sourceHealth checks)

/-- The result with the supplement against the latest rows alone. -/
def MergeKeeps : Prop :=
  ∀ result, queryNearbyRealtimeCoverageRows geography tables.toRealtimeTables point true now =
      some result →
    KeepsStations geography tables point now result ∧
      ∀ alone, queryNearbyRealtimeCoverageRows geography tables.toRealtimeTables point false now =
        some alone → KeepsSignals alone result

/-! ### What decides -/

/-- Different stations have different normalised ids. -/
def IdentifiesStations : Prop :=
  ∀ first ∈ readingsInReach geography tables point,
    ∀ second ∈ readingsInReach geography tables point, first.key ≠ second.key →
      rowIdentity (stationRead geography tables point now first) ≠
        rowIdentity (stationRead geography tables point now second)

/-- Within each limit that a usable latest row meets lies a usable row that no
row of its id supersedes. -/
def KeepsLimits : Prop :=
  ∀ signalType, ∀ limit ∈ limits signalType,
    ∀ reading ∈ readingsInReach geography tables point,
      Reaches signalType limit (stationRead geography tables point now reading) →
        ∃ row, Newest.Stands rowIdentity recency
            ((readingsInReach geography tables point).map (stationRead geography tables point now) ++
              queryNearbyEvidenceCoverageRows geography tables.toRealtimeTables point now) row ∧
          Reaches signalType limit row

variable {geography tables point now}

theorem queryNearbyLatest_eq :
    queryNearbyLatestCoverageRows geography tables.toRealtimeTables point now =
      (readingsInReach geography tables point).map (stationRead geography tables point now) := by
  rw [queryNearbyLatestCoverageRows, readingsInReach]
  show ((tables.latest.rows.map LatestRow.toStationReading).filter _).map _ = _
  rw [List.filter_map, List.map_map]
  rfl

theorem candidate_freshness {reading : EvidenceReading Geometry} {row : CoverageRead}
    {realtime : RealtimeTables Geometry}
    (h : evidenceCandidate geography realtime point now reading = some row) :
    row.freshnessState =
      freshnessState (sourceFreshSeconds realtime row.adapterKey) now row.observedAt := by
  unfold evidenceCandidate at h
  split at h
  · split at h
    · rw [← Option.some.inj h]
    · exact absurd h (by simp)
  · exact absurd h (by simp)

/-- The freshness of every row is that of its observation at its source. -/
theorem freshness_of_mem {row : CoverageRead}
    (h : row ∈ queryNearbyLatestCoverageRows geography tables.toRealtimeTables point now ++
      queryNearbyEvidenceCoverageRows geography tables.toRealtimeTables point now) :
    row.freshnessState = freshnessState
      (sourceFreshSeconds tables.toRealtimeTables row.adapterKey) now row.observedAt := by
  rcases List.mem_append.mp h with hlatest | hevidence
  · obtain ⟨reading, -, rfl⟩ := List.mem_map.mp hlatest
    rfl
  · obtain ⟨newest, hnewest, rfl⟩ := List.mem_map.mp hevidence
    have hsorted := mem_of_distinctBy (mem_of_limitBy hnewest)
    obtain ⟨reading, -, hreading⟩ := List.mem_filterMap.mp ((List.mem_insertionSort _).mp hsorted)
    have hstate := candidate_freshness hreading
    exact hstate

theorem reach_of_mem {row : CoverageRead}
    (h : row ∈ queryNearbyLatestCoverageRows geography tables.toRealtimeTables point now ++
      queryNearbyEvidenceCoverageRows geography tables.toRealtimeTables point now) :
    row.distanceToQueryM ≤ coverageRadiusM := by
  rcases List.mem_append.mp h with hlatest | hevidence
  · exact latest_within hlatest
  · exact supplement_within hevidence

theorem usable_iff {freshSeconds : ℤ} {observedAt : ℤ} :
    freshnessState freshSeconds now (some observedAt) ≠ .stale ↔
      now - seconds freshSeconds ≤ observedAt ∨ now - seconds (freshSeconds * 3) ≤ observedAt := by
  simp only [freshnessState, ge_iff_le]
  by_cases hfresh : now - seconds freshSeconds ≤ observedAt
  · simp [hfresh]
  · by_cases hdegraded : now - seconds (freshSeconds * 3) ≤ observedAt <;> simp [hfresh, hdegraded]

/-- A more recent row of a usable latest row's id is usable, in the same signal. -/
theorem usable_of_newer {reading : LatestRow Geometry} {kept : CoverageRead} {signalType : SignalType}
    (hkept : kept ∈ queryNearbyLatestCoverageRows geography tables.toRealtimeTables point now ++
      queryNearbyEvidenceCoverageRows geography tables.toRealtimeTables point now)
    (hidentity : rowIdentity kept = rowIdentity (stationRead geography tables point now reading))
    (hrecency : recency (stationRead geography tables point now reading) ≤ recency kept)
    (husable : isUsableOf signalType (stationRead geography tables point now reading) = true) :
    isUsableOf signalType kept = true := by
  have hadapter : kept.adapterKey = reading.adapterKey := congrArg Prod.fst hidentity
  have hevent : kept.eventType = reading.eventType :=
    congrArg (fun identity => identity.2.1) hidentity
  obtain ⟨hsignal, hfresh⟩ := Bool.and_eq_true_iff.mp husable
  have hstate := of_decide_eq_true hfresh
  have hlater : ∃ observedAt, kept.observedAt = some observedAt ∧ reading.observedAt ≤ observedAt := by
    cases hobserved : kept.observedAt with
    | none =>
        simp [recency, hobserved, stationRead, latestCoverageRead, Prod.Lex.toLex_le_toLex] at hrecency
        exact absurd hrecency (by decide)
    | some observedAt =>
        refine ⟨observedAt, rfl, ?_⟩
        simp only [recency, hobserved, stationRead, latestCoverageRead, Prod.Lex.toLex_le_toLex]
          at hrecency
        rcases hrecency with hlt | ⟨-, hlt | ⟨heq, -⟩⟩
        · exact absurd hlt (by simp)
        · exact hlt.le
        · exact heq.le
  obtain ⟨observedAt, hobserved, hle⟩ := hlater
  have hkeptState := freshness_of_mem hkept
  rw [hobserved, hadapter] at hkeptState
  have hreadState : freshnessState (sourceFreshSeconds tables.toRealtimeTables reading.adapterKey)
      now (some reading.observedAt) ≠ .stale := hstate
  refine Bool.and_eq_true_iff.mpr ⟨?_, decide_eq_true ?_⟩
  · rw [hadapter, hevent]
    exact hsignal
  · rw [hkeptState]
    rcases usable_iff.mp hreadState with hearly | hearly
    · exact usable_iff.mpr (Or.inl (hearly.trans hle))
    · exact usable_iff.mpr (Or.inr (hearly.trans hle))

/-! ### The two halves of the merge -/

variable (geography tables point now)

def mergedRows : List CoverageRead :=
  mergeNearbyCoverageRows (queryNearbyLatestCoverageRows geography tables.toRealtimeTables point now)
    (queryNearbyEvidenceCoverageRows geography tables.toRealtimeTables point now)

variable {geography tables point now}

theorem exists_merged (now : ℤ) {reading : LatestRow Geometry}
    (hreading : reading ∈ readingsInReach geography tables point) :
    ∃ kept ∈ mergedRows geography tables point now,
      rowIdentity kept = rowIdentity (stationRead geography tables point now reading) ∧
        recency (stationRead geography tables point now reading) ≤ recency kept := by
  refine exists_newer_of_mem (List.mem_append_left _ ?_)
  rw [queryNearbyLatest_eq]
  exact List.mem_map_of_mem hreading

theorem keepsStations_iff :
    KeepsStations geography tables point now (mergedRows geography tables point now) ↔
      IdentifiesStations geography tables point now := by
  constructor
  · rintro ⟨represented, hkept, hdistinct⟩ first hfirst second hsecond hne hsame
    obtain ⟨hin, hidentity, -⟩ := hkept first hfirst
    obtain ⟨hin', hidentity', -⟩ := hkept second hsecond
    exact hdistinct first hfirst second hsecond hne
      (merge_identity_injective hin hin' (hidentity.trans (hsame.trans hidentity'.symm)))
  · intro hidentifies
    have hexists : ∀ reading : LatestRow Geometry, ∃ kept : CoverageRead,
        reading ∈ readingsInReach geography tables point →
          kept ∈ mergedRows geography tables point now ∧
          rowIdentity kept = rowIdentity (stationRead geography tables point now reading) ∧
          recency (stationRead geography tables point now reading) ≤ recency kept := by
      intro reading
      by_cases hreading : reading ∈ readingsInReach geography tables point
      · obtain ⟨kept, hkept⟩ := exists_merged now hreading
        exact ⟨kept, fun _ => hkept⟩
      · exact ⟨stationRead geography tables point now reading, fun h => absurd h hreading⟩
    choose represented hrepresented using hexists
    refine ⟨represented, ?_, ?_⟩
    · intro reading hreading
      obtain ⟨hin, hidentity, hrecency⟩ := hrepresented reading hreading
      exact ⟨hin, hidentity, (recencyLe_iff _ _).mpr hrecency⟩
    · intro first hfirst second hsecond hne heq
      apply hidentifies first hfirst second hsecond hne
      rw [← (hrepresented first hfirst).2.1, heq, (hrepresented second hsecond).2.1]

/-- With distinct ids every usable latest row keeps a usable row of its own. -/
theorem usable_length_le (hidentifies : IdentifiesStations geography tables point now)
    (signalType : SignalType) :
    ((queryNearbyLatestCoverageRows geography tables.toRealtimeTables point now).filter
        (isUsableOf signalType)).length ≤
      ((mergedRows geography tables point now).filter (isUsableOf signalType)).length := by
  have hkeys : ((readingsInReach geography tables point).map LatestRow.key).Nodup :=
    (List.Sublist.map _ List.filter_sublist).nodup tables.latest.keysNodup
  have hdistinct : ((queryNearbyLatestCoverageRows geography tables.toRealtimeTables point now).map
      rowIdentity).Nodup := by
    rw [queryNearbyLatest_eq, List.map_map]
    refine List.pairwise_map.mpr ((List.pairwise_map.mp hkeys).imp_of_mem ?_)
    exact fun hfirst hsecond hne => hidentifies _ hfirst _ hsecond hne
  have husable : (((queryNearbyLatestCoverageRows geography tables.toRealtimeTables point now).filter
      (isUsableOf signalType)).map rowIdentity).Nodup :=
    (List.Sublist.map _ List.filter_sublist).nodup hdistinct
  have hsubset : ((queryNearbyLatestCoverageRows geography tables.toRealtimeTables point now).filter
      (isUsableOf signalType)).map rowIdentity ⊆
        ((mergedRows geography tables point now).filter (isUsableOf signalType)).map rowIdentity := by
    intro identity hidentity
    obtain ⟨row, hrow, rfl⟩ := List.mem_map.mp hidentity
    obtain ⟨hread, hof⟩ := List.mem_filter.mp hrow
    rw [queryNearbyLatest_eq] at hread
    obtain ⟨reading, hreading, rfl⟩ := List.mem_map.mp hread
    obtain ⟨kept, hkept, hsame, hrecency⟩ := exists_merged now hreading
    have hin := List.mem_append.mpr (mem_mergeNearbyCoverageRows hkept)
    rw [← hsame]
    exact List.mem_map_of_mem
      (List.mem_filter.mpr ⟨hkept, usable_of_newer hin hsame hrecency hof⟩)
  have hlength := (List.subperm_of_subset husable hsubset).length_le
  rwa [List.length_map, List.length_map] at hlength

theorem levels_kept_iff :
    (∀ signalType sourceHealth checks,
        levelRank (evaluation signalType
            (queryNearbyLatestCoverageRows geography tables.toRealtimeTables point now)
            sourceHealth checks).coverageLevel ≤
          levelRank (evaluation signalType (mergedRows geography tables point now) sourceHealth
            checks).coverageLevel) ↔
      KeepsLimits geography tables point now := by
  have hlatest : ∀ row ∈ queryNearbyLatestCoverageRows geography tables.toRealtimeTables point now,
      row.distanceToQueryM ≤ coverageRadiusM := fun row hrow => latest_within hrow
  have hmerged : ∀ row ∈ mergedRows geography tables point now,
      row.distanceToQueryM ≤ coverageRadiusM :=
    fun row hrow => reach_of_mem (List.mem_append.mpr (mem_mergeNearbyCoverageRows hrow))
  have hlevels : ∀ signalType sourceHealth checks,
      levelRank (evaluation signalType
            (queryNearbyLatestCoverageRows geography tables.toRealtimeTables point now)
            sourceHealth checks).coverageLevel ≤
          levelRank (evaluation signalType (mergedRows geography tables point now) sourceHealth
            checks).coverageLevel ↔
        ∀ limit ∈ limits signalType,
          (∃ row ∈ queryNearbyLatestCoverageRows geography tables.toRealtimeTables point now,
            Reaches signalType limit row) →
          ∃ row ∈ mergedRows geography tables point now, Reaches signalType limit row := by
    intro signalType sourceHealth checks
    refine levelRank_le_iff.trans ?_
    simp only [level_within hlatest, level_within hmerged]
  constructor
  · intro h signalType limit hlimit reading hreading hreaches
    have hread : stationRead geography tables point now reading ∈
        queryNearbyLatestCoverageRows geography tables.toRealtimeTables point now := by
      rw [queryNearbyLatest_eq]
      exact List.mem_map_of_mem hreading
    obtain ⟨row, hrow, hrowReaches⟩ :=
      (hlevels signalType [] {}).mp (h signalType [] {}) limit hlimit ⟨_, hread, hreaches⟩
    rw [← queryNearbyLatest_eq]
    exact ⟨row, mem_merge_iff.mp hrow, hrowReaches⟩
  · intro h signalType sourceHealth checks
    refine (hlevels signalType sourceHealth checks).mpr ?_
    rintro limit hlimit ⟨row, hrow, hreaches⟩
    rw [queryNearbyLatest_eq] at hrow
    obtain ⟨reading, hreading, rfl⟩ := List.mem_map.mp hrow
    obtain ⟨kept, hstands, hkeptReaches⟩ := h signalType limit hlimit reading hreading hreaches
    rw [← queryNearbyLatest_eq] at hstands
    exact ⟨kept, mem_merge_iff.mpr hstands, hkeptReaches⟩

end Stations

/-! ### The merge -/

/-- The merge gives every station a row of its own and lowers no signal exactly
when the ids tell the stations apart and no row within a limit is superseded by
one beyond it, without another there. -/
theorem merge_keeps_iff {Geometry Point : Type} (geography : Geography Geometry Point)
    (tables : ObservationTables Geometry) (point : Point) (now : ℤ) :
    MergeKeeps geography tables point now ↔
      IdentifiesStations geography tables point now ∧ KeepsLimits geography tables point now := by
  have hsupplemented : queryNearbyRealtimeCoverageRows geography tables.toRealtimeTables point true
      now = some (mergedRows geography tables point now) := rfl
  constructor
  · intro h
    obtain ⟨hstations, hsignals⟩ := h _ hsupplemented
    refine ⟨keepsStations_iff.mp hstations, ?_⟩
    by_cases hnone :
        queryNearbyLatestCoverageRows geography tables.toRealtimeTables point now = []
    · intro signalType limit _ reading hreading _
      rw [queryNearbyLatest_eq, List.map_eq_nil_iff] at hnone
      rw [hnone] at hreading
      exact absurd hreading List.not_mem_nil
    · have halone : queryNearbyRealtimeCoverageRows geography tables.toRealtimeTables point false
          now = some (queryNearbyLatestCoverageRows geography tables.toRealtimeTables point now) := by
        simp only [queryNearbyRealtimeCoverageRows, Bool.false_eq_true, if_false, hnone, ne_eq,
          not_false_eq_true, if_true]
      refine levels_kept_iff.mp fun signalType sourceHealth checks => ?_
      exact (hsignals _ halone signalType sourceHealth checks).1
  · rintro ⟨hidentifies, hlimits⟩ result hresult
    have hmerged : result = mergedRows geography tables point now :=
      (Option.some.inj (hsupplemented.symm.trans hresult)).symm
    rw [hmerged]
    refine ⟨keepsStations_iff.mpr hidentifies, ?_⟩
    intro alone halone signalType sourceHealth checks
    have hlatest :
        alone = queryNearbyLatestCoverageRows geography tables.toRealtimeTables point now := by
      simp only [queryNearbyRealtimeCoverageRows, Bool.false_eq_true, if_false] at halone
      split at halone
      · exact (Option.some.inj halone).symm
      · exact absurd halone (by simp)
    rw [hlatest]
    refine ⟨levels_kept_iff.mpr hlimits signalType sourceHealth checks, ?_⟩
    have hlatestReach : ∀ row ∈ queryNearbyLatestCoverageRows geography tables.toRealtimeTables
        point now, row.distanceToQueryM ≤ coverageRadiusM := fun row hrow => latest_within hrow
    have hmergedReach : ∀ row ∈ mergedRows geography tables point now,
        row.distanceToQueryM ≤ coverageRadiusM :=
      fun row hrow => reach_of_mem (List.mem_append.mpr (mem_mergeNearbyCoverageRows hrow))
    rw [usableCount_evaluation hlatestReach, usableCount_evaluation hmergedReach]
    exact usable_length_le hidentifies signalType

/-! ### Two warnings of one township -/

/-- A latest row of a warning under the id that its promotion writes. -/
def warningReading (stationId : String) : LatestRow Unit where
  adapterKey := ncdrCap
  sourceId := stationId
  eventType := "flood_warning"
  stationId := stationId
  observedAt := 0
  ingestedAt := 0
  geom := ()
  evidenceId := none
  updatedAt := 0

def warningTables : ObservationTables Unit where
  jurisdictions := []
  snapshots := []
  boundaries := []
  contracts := []
  mappings := []
  boundaryNamed := boundaryNamed_nil
  sources := [{ unregisteredSource ncdrCap with isEnabled := true, isRegistered := true }]
  activeSnapshotRawRef := fun _ => none
  ingestionJobs := []
  evidence := Table.empty
  latest := ⟨[warningReading "cap:63000010:3f1b", warningReading "cap:63000010:a2c4"], by decide⟩

def atPoint : Geography Unit Unit where
  distance := fun _ _ => 100
  covers := fun _ _ => true
  isEmpty := fun _ => false
  isValid := fun _ => true
  geometrySha256 := fun _ => ""
  boundaryManifestSha256 := fun _ => ""
  mappingManifestSha256 := fun _ => ""

theorem normalizedStationId_warning :
    normalizedStationId "cap:63000010:3f1b" "cap:63000010:3f1b" = some "63000010" ∧
      normalizedStationId "cap:63000010:a2c4" "cap:63000010:a2c4" = some "63000010" := by
  have hcolon : ":" = String.ofList [':'] := rfl
  unfold normalizedStationId
  simp only [hcolon, SplitOn.splitOn_singleton]
  decide +kernel

/-- Both normalise to the township's code, and one row is left of the two. -/
theorem warnings_of_township_merge :
    ¬ MergeKeeps atPoint warningTables () 0 := by
  intro h
  have hidentifies := keepsStations_iff.mp (h _ rfl).1
  refine hidentifies (warningReading "cap:63000010:3f1b") ?_ (warningReading "cap:63000010:a2c4") ?_
    (by decide) ?_
  · exact List.mem_filter.mpr ⟨List.mem_cons_self, by decide +kernel⟩
  · exact List.mem_filter.mpr ⟨List.mem_cons_of_mem _ List.mem_cons_self, by decide +kernel⟩
  · obtain ⟨hfirst, hsecond⟩ := normalizedStationId_warning
    simp only [rowIdentity, stationRead, latestCoverageRead, warningReading, hfirst, hsecond,
      Option.getD_some]

end FloodRisk.Assessment
