import FloodRisk.Lib.Transition
import FloodRisk.Promotion.Calls
import FloodRisk.Promotion.Staging
import FloodRisk.Promotion.Station

/-!
# Exclusion of central and local flood sensors

The WRA IoW network republishes Tainan sensors.  `_handle_exact_central_local_duplicate`
keeps one row of such a pair: a local candidate is dropped when its central
peer is stored, a central candidate replaces its local peer.  The query for
the peer has `LIMIT 1`, so exclusion depends on the number of local rows that
a published central candidate matches.
-/

namespace FloodRisk.Promotion
open Transition

variable {env : Environment} {now : ℤ} {payload : EvidencePromotionPayload} {db : Database}

/-- Both rows report the same depth at the same time at one place. -/
def sensorsOverlap (env : Environment) (central localRow : OfficialRealtimeLatest) : Bool :=
  central.adapterKey = wraIowFloodDepth && central.eventType = .floodReport &&
    localRow.adapterKey = tainanFloodSensor && localRow.eventType = .floodReport &&
    central.observedAt = localRow.observedAt && central.floodDepthCm.isSome &&
    central.floodDepthCm = localRow.floodDepthCm &&
    (central.stationId = localRow.stationId ||
      env.withinDuplicateDistance central.geom localRow.geom)

def ExclusiveSensors (env : Environment) (db : Database) : Prop :=
  ∀ central ∈ db.officialRealtimeLatest, ∀ localRow ∈ db.officialRealtimeLatest,
    sensorsOverlap env central localRow = false

def isSensorCandidate (payload : EvidencePromotionPayload) : Prop :=
  payload.adapterKey = some wraIowFloodDepth ∨ payload.adapterKey = some tainanFloodSensor

/-- A central candidate that passes every check and is newer than the stored
row of its own station. -/
structure PublishesCentral (env : Environment) (now : ℤ) (payload : EvidencePromotionPayload)
    (db : Database) : Prop where
  adapter : payload.adapterKey = some wraIowFloodDepth
  report : payload.eventType = .floodReport
  candidate : StationCandidate env now payload db
  newer : ∀ row, ProposedRow payload row → ∀ stored ∈ db.officialRealtimeLatest,
    stored.key = row.key → stored.observedAt < row.observedAt

theorem sensorsOverlap_eq_true {central localRow : OfficialRealtimeLatest} :
    sensorsOverlap env central localRow = true ↔
      central.adapterKey = wraIowFloodDepth ∧ central.eventType = .floodReport ∧
      localRow.adapterKey = tainanFloodSensor ∧ localRow.eventType = .floodReport ∧
      central.observedAt = localRow.observedAt ∧
      (∃ depth, central.floodDepthCm = some depth ∧ localRow.floodDepthCm = some depth) ∧
      (central.stationId = localRow.stationId ∨
        env.withinDuplicateDistance central.geom localRow.geom = true) := by
  simp only [sensorsOverlap, Bool.and_eq_true, decide_eq_true_eq, Bool.or_eq_true,
    Option.isSome_iff_exists, and_assoc]
  constructor
  · rintro ⟨h1, h2, h3, h4, h5, ⟨depth, hdepth⟩, h6, h7⟩
    exact ⟨h1, h2, h3, h4, h5, ⟨depth, hdepth, h6 ▸ hdepth⟩, h7⟩
  · rintro ⟨h1, h2, h3, h4, h5, ⟨depth, hcentral, hlocal⟩, h7⟩
    exact ⟨h1, h2, h3, h4, h5, ⟨depth, hcentral⟩, hcentral.trans hlocal.symm, h7⟩

theorem ExclusiveSensors.mono {next : Database} (h : ExclusiveSensors env db)
    (hsub : ∀ row ∈ next.officialRealtimeLatest, row ∈ db.officialRealtimeLatest) :
    ExclusiveSensors env next :=
  fun central hcentral localRow hlocal => h central (hsub central hcentral) localRow
    (hsub localRow hlocal)

theorem isCap_of_sensor (h : isSensorCandidate payload) :
    isCurrentCapLifecycleCandidate payload = false := by
  rcases h with h | h <;>
    simp [isCurrentCapLifecycleCandidate, adapterEventIn, h, cwaHeavyRainWarning, ncdrCap,
      wraIowFloodDepth, tainanFloodSensor]

/-! ### Overlap with the candidate's row -/

theorem mem_exactDuplicates {probe : DuplicateProbe} (hprobe : duplicateProbe payload = some probe)
    {row : OfficialRealtimeLatest} :
    row ∈ exactDuplicates env payload db ↔
      row ∈ db.officialRealtimeLatest ∧ isExactDuplicate env probe row = true := by
  simp only [exactDuplicates, hprobe, List.mem_filter, Table.mem_def]

theorem probe_of_proposedRow {row : OfficialRealtimeLatest} (hrow : ProposedRow payload row)
    (hevent : payload.eventType = .floodReport) {depth : ℚ} (hdepth : row.floodDepthCm = some depth)
    {peer : String × Bool} (hpeer : duplicatePeer payload = some peer) :
    duplicateProbe payload =
      some ⟨peer.1, peer.2, row.observedAt, row.stationId, row.geom, depth⟩ :=
  duplicateProbe_eq_some.mpr ⟨hevent, hpeer, hrow.observedAt, hrow.stationId, hrow.geom,
    hrow.floodDepthCm.symm.trans hdepth⟩

theorem duplicatePeer_central (h : payload.adapterKey = some wraIowFloodDepth) :
    duplicatePeer payload = some (tainanFloodSensor, false) := by
  simp [duplicatePeer, h, wraIow_ne_tainan]

theorem duplicatePeer_local (h : payload.adapterKey = some tainanFloodSensor) :
    duplicatePeer payload = some (wraIowFloodDepth, true) := by
  simp [duplicatePeer, h]

theorem overlap_central_iff (symm : ∀ a b, env.withinDuplicateDistance a b =
      env.withinDuplicateDistance b a) {row localRow : OfficialRealtimeLatest}
    (hrow : ProposedRow payload row) (hadapter : payload.adapterKey = some wraIowFloodDepth)
    (hlocal : localRow ∈ db.officialRealtimeLatest) :
    sensorsOverlap env row localRow = true ↔
      row.eventType = .floodReport ∧ localRow ∈ exactDuplicates env payload db := by
  have hkey : row.adapterKey = wraIowFloodDepth :=
    Option.some.inj (hrow.adapterKey.symm.trans hadapter)
  have hpeer := duplicatePeer_central hadapter
  rw [sensorsOverlap_eq_true]
  constructor
  · rintro ⟨-, hevent, hl, hle, htime, ⟨depth, hdepth, hldepth⟩, hplace⟩
    have hprobe := probe_of_proposedRow hrow (hrow.eventType.symm.trans hevent) hdepth hpeer
    refine ⟨hevent, (mem_exactDuplicates hprobe).mpr ⟨hlocal, ?_⟩⟩
    simp only [isExactDuplicate, Bool.and_eq_true, decide_eq_true_eq, Bool.or_eq_true]
    refine ⟨⟨⟨⟨hl, hle⟩, htime.symm⟩, hldepth⟩, ?_⟩
    rcases hplace with hstation | hnear
    · exact Or.inl hstation.symm
    · exact Or.inr (by rw [symm]; exact hnear)
  · rintro ⟨hevent, hmem⟩
    cases hprobe : duplicateProbe payload with
    | none => simp [exactDuplicates, hprobe] at hmem
    | some probe =>
        have hof := duplicateProbe_eq_some.mp hprobe
        have hp := Prod.mk.inj (Option.some.inj (hof.peer.symm.trans hpeer))
        have hobs := Option.some.inj (hof.observedAt.symm.trans hrow.observedAt)
        have hst := Option.some.inj (hof.stationId.symm.trans hrow.stationId)
        have hpt := Option.some.inj (hof.point.symm.trans hrow.geom)
        have hmatch := ((mem_exactDuplicates hprobe).mp hmem).2
        simp only [isExactDuplicate, Bool.and_eq_true, decide_eq_true_eq, Bool.or_eq_true] at hmatch
        obtain ⟨⟨⟨⟨hl, hle⟩, htime⟩, hdepth⟩, hplace⟩ := hmatch
        refine ⟨hkey, hevent, hl.trans hp.1, hle, (htime.trans hobs).symm,
          ⟨probe.floodDepthCm, hrow.floodDepthCm.trans hof.floodDepthCm, hdepth⟩, ?_⟩
        rcases hplace with hstation | hnear
        · exact Or.inl (hstation.trans hst).symm
        · exact Or.inr (by rw [symm, ← hpt]; exact hnear)

theorem overlap_local {row central : OfficialRealtimeLatest} (hrow : ProposedRow payload row)
    (hadapter : payload.adapterKey = some tainanFloodSensor)
    (hcentral : central ∈ db.officialRealtimeLatest)
    (h : sensorsOverlap env central row = true) : central ∈ exactDuplicates env payload db := by
  obtain ⟨hc, hce, -, hevent, htime, ⟨depth, hcdepth, hdepth⟩, hplace⟩ :=
    sensorsOverlap_eq_true.mp h
  have hprobe := probe_of_proposedRow hrow (hrow.eventType.symm.trans hevent) hdepth
    (duplicatePeer_local hadapter)
  refine (mem_exactDuplicates hprobe).mpr ⟨hcentral, ?_⟩
  simp only [isExactDuplicate, Bool.and_eq_true, decide_eq_true_eq, Bool.or_eq_true]
  exact ⟨⟨⟨⟨hc, hce⟩, htime⟩, hcdepth⟩, hplace⟩

/-! ### What the duplicate handling keeps -/

theorem duplicateCentral_of_match (hadapter : payload.adapterKey = some tainanFloodSensor)
    (hpromotes : promotesLatest payload db = true) {central : OfficialRealtimeLatest}
    (h : central ∈ exactDuplicates env payload db) :
    (duplicateDecision env payload db).1 = some .duplicateCentral := by
  cases hprobe : duplicateProbe payload with
  | none => simp [exactDuplicates, hprobe] at h
  | some probe =>
      cases hfirst : firstByStationId (exactDuplicates env payload db) with
      | none =>
          rw [firstByStationId_eq_none.mp hfirst] at h
          exact absurd h List.not_mem_nil
      | some peer =>
          have hpeer := (duplicateProbe_eq_some.mp hprobe).peer
          rw [duplicatePeer_local hadapter] at hpeer
          have hlocal := (Prod.mk.inj (Option.some.inj hpeer)).2
          simp only [duplicateDecision, hpromotes, if_true, handleExactCentralLocalDuplicate,
            hprobe, hfirst, ← hlocal]

theorem mem_duplicateDecision_central (hadapter : payload.adapterKey = some wraIowFloodDepth)
    (hpromotes : promotesLatest payload db = true) {peer : OfficialRealtimeLatest}
    (hfirst : firstByStationId (exactDuplicates env payload db) = some peer)
    {row : OfficialRealtimeLatest} :
    row ∈ (duplicateDecision env payload db).2.officialRealtimeLatest ↔
      row ∈ db.officialRealtimeLatest ∧ row ≠ peer := by
  cases hprobe : duplicateProbe payload with
  | none => simp [exactDuplicates, hprobe, firstByStationId] at hfirst
  | some probe =>
      have hpeer := (duplicateProbe_eq_some.mp hprobe).peer
      rw [duplicatePeer_central hadapter] at hpeer
      have hlocal := (Prod.mk.inj (Option.some.inj hpeer)).2
      have hmem := (mem_exactDuplicates hprobe).mp (mem_of_firstByStationId hfirst)
      simp only [duplicateDecision, hpromotes, if_true, handleExactCentralLocalDuplicate, hprobe,
        hfirst, ← hlocal, Bool.false_eq_true, if_false, Table.mem_deleteWhere]
      have hmatch := hmem.2
      simp only [isExactDuplicate, Bool.and_eq_true, decide_eq_true_eq] at hmatch
      obtain ⟨⟨⟨⟨hp, hpe⟩, htime⟩, hdepth⟩, -⟩ := hmatch
      constructor
      · rintro ⟨hrow, hkept⟩
        refine ⟨hrow, ?_⟩
        rintro rfl
        simp [isReplacedLocal, hp, hpe, htime, hdepth] at hkept
      · rintro ⟨hrow, hne⟩
        refine ⟨hrow, ?_⟩
        by_contra hdoomed
        have hdoomed := Bool.not_eq_false _ ▸ hdoomed
        simp only [isReplacedLocal, Bool.and_eq_true, decide_eq_true_eq] at hdoomed
        obtain ⟨⟨⟨⟨ha, he⟩, hs⟩, -⟩, -⟩ := hdoomed
        refine hne (Table.eq_of_key_eq hrow hmem.1 ?_)
        simp only [OfficialRealtimeLatest.key, ha, he, hs, hp, hpe]

/-! ### One step -/

theorem exactDuplicates_nodup (env : Environment) (payload : EvidencePromotionPayload)
    (db : Database) : (exactDuplicates env payload db).Nodup := by
  unfold exactDuplicates
  split
  · exact List.nodup_nil
  · exact (List.Nodup.of_map _ db.officialRealtimeLatest.keysNodup).filter _

theorem firstByStationId_isSome {rows : List OfficialRealtimeLatest}
    {row : OfficialRealtimeLatest} (h : row ∈ rows) : ∃ peer, firstByStationId rows = some peer := by
  cases hfirst : firstByStationId rows with
  | some peer => exact ⟨peer, rfl⟩
  | none =>
      rw [firstByStationId_eq_none.mp hfirst] at h
      exact absurd h List.not_mem_nil

theorem eq_of_mem_of_length_le_one {rows : List OfficialRealtimeLatest}
    {first second : OfficialRealtimeLatest} (hlength : rows.length ≤ 1) (hfirst : first ∈ rows)
    (hsecond : second ∈ rows) : first = second := by
  cases rows with
  | nil => exact absurd hfirst List.not_mem_nil
  | cons head rest =>
      have hrest : rest = [] := by
        simp only [List.length_cons] at hlength
        exact List.length_eq_zero_iff.mp (by omega)
      subst hrest
      rw [List.mem_singleton.mp hfirst, List.mem_singleton.mp hsecond]

theorem exists_other_duplicate (peer : OfficialRealtimeLatest)
    (hlength : 2 ≤ (exactDuplicates env payload db).length) :
    ∃ other ∈ exactDuplicates env payload db, other ≠ peer := by
  have hnodup := exactDuplicates_nodup env payload db
  cases hrows : exactDuplicates env payload db with
  | nil => simp [hrows] at hlength
  | cons first rest =>
      cases rest with
      | nil => simp [hrows] at hlength
      | cons second rest =>
          rw [hrows] at hnodup
          have hne : first ≠ second := by
            intro heq
            have hnot := (List.nodup_cons.mp hnodup).1
            exact hnot (heq ▸ List.mem_cons_self)
          by_cases hfirst : first = peer
          · exact ⟨second, by simp, fun heq => hne (hfirst.trans heq.symm)⟩
          · exact ⟨first, by simp, hfirst⟩

theorem PublishesCentral.row_mem (h : PublishesCentral env now payload db) :
    ∃ row, ProposedRow payload row ∧
      (writeEvidence env now payload db).2.officialRealtimeLatest =
        (duplicateDecision env payload db).2.officialRealtimeLatest.upsertWhen observedAfter row ∧
      row ∈ (writeEvidence env now payload db).2.officialRealtimeLatest := by
  have hdistinct : (duplicateDecision env payload db).1 ≠ some .duplicateCentral := by
    unfold duplicateDecision handleExactCentralLocalDuplicate
    split
    · split
      · rename_i probe peer hprobe hpeer
        have hlocal := (duplicateProbe_eq_some.mp hprobe).peer
        rw [duplicatePeer_central h.adapter] at hlocal
        simp [← (Prod.mk.inj (Option.some.inj hlocal)).2]
      · simp
    · simp
  have insertable : InsertableStation env now payload db := ⟨h.candidate, hdistinct⟩
  obtain ⟨located, hlocated⟩ := h.candidate.located
  obtain ⟨row, hrow, -, hlatest⟩ := insertable.published hlocated (h.newer located hlocated)
  refine ⟨row, hrow, hlatest, ?_⟩
  rw [hlatest]
  refine Table.mem_upsertWhen.mpr (Or.inl ⟨rfl, ?_⟩)
  intro stored hstored hkey
  have hlt := h.newer row hrow stored (mem_of_mem_duplicateDecision hstored) hkey
  exact Or.inr (decide_eq_true hlt)

/-- A central candidate that is published over two matches breaks exclusion. -/
theorem not_exclusive_of_two_matches
    (symm : ∀ a b, env.withinDuplicateDistance a b = env.withinDuplicateDistance b a)
    (h : PublishesCentral env now payload db)
    (hlength : 2 ≤ (exactDuplicates env payload db).length) :
    ¬ ExclusiveSensors env (writeEvidence env now payload db).2 := by
  intro exclusive
  obtain ⟨row, hrow, hlatest, hmem⟩ := h.row_mem
  have hpromotes : promotesLatest payload db = true := by
    rw [promotesLatest_of_not_cap (isCap_of_sensor (Or.inl h.adapter))]
    exact h.candidate.current
  obtain ⟨first, hmatched⟩ : ∃ first, first ∈ exactDuplicates env payload db :=
    List.length_pos_iff_exists_mem.mp (by omega)
  obtain ⟨peer, hfirst⟩ := firstByStationId_isSome hmatched
  obtain ⟨other, hother, hne⟩ := exists_other_duplicate peer hlength
  have hstored : other ∈ db.officialRealtimeLatest := by
    cases hprobe : duplicateProbe payload with
    | none => simp [exactDuplicates, hprobe] at hother
    | some probe => exact ((mem_exactDuplicates hprobe).mp hother).1
  have hevent : row.eventType = .floodReport := hrow.eventType.trans h.report
  have hoverlap := (overlap_central_iff symm hrow h.adapter hstored).mpr ⟨hevent, hother⟩
  have hkept : other ∈ (writeEvidence env now payload db).2.officialRealtimeLatest := by
    rw [hlatest]
    refine Table.mem_upsertWhen.mpr (Or.inr ⟨?_, ?_⟩)
    · exact (mem_duplicateDecision_central h.adapter hpromotes hfirst).mpr ⟨hstored, hne⟩
    · rintro ⟨hkey, -⟩
      have hlocal := (sensorsOverlap_eq_true.mp hoverlap).2.2.1
      have hcentral := (sensorsOverlap_eq_true.mp hoverlap).1
      have hsame : other.adapterKey = row.adapterKey := congrArg Prod.fst hkey
      rw [hlocal, hcentral] at hsame
      exact wraIow_ne_tainan hsame.symm
  have hfalse := exclusive row hmem other hkept
  rw [hoverlap] at hfalse
  exact Bool.noConfusion hfalse

theorem new_central_exclusive
    (symm : ∀ a b, env.withinDuplicateDistance a b = env.withinDuplicateDistance b a)
    (exclusive : ExclusiveSensors env db)
    (single : PublishesCentral env now payload db →
      (exactDuplicates env payload db).length ≤ 1)
    (insertable : InsertableStation env now payload db) {row localRow : OfficialRealtimeLatest}
    (hrow : ProposedRow payload row) (hcentral : row.adapterKey = wraIowFloodDepth)
    (hnewer : ∀ stored ∈ (duplicateDecision env payload db).2.officialRealtimeLatest,
      stored.key = row.key → stored = row ∨ observedAfter row stored = true)
    (hlocal : localRow ∈ (duplicateDecision env payload db).2.officialRealtimeLatest) :
    sensorsOverlap env row localRow = false := by
  have hadapter : payload.adapterKey = some wraIowFloodDepth := by rw [hrow.adapterKey, hcentral]
  have hstored := mem_of_mem_duplicateDecision hlocal
  by_cases hold : row ∈ (duplicateDecision env payload db).2.officialRealtimeLatest
  · exact exclusive row (mem_of_mem_duplicateDecision hold) localRow hstored
  cases hoverlap : sensorsOverlap env row localRow with
  | false => rfl
  | true =>
      obtain ⟨hevent, hmatch⟩ := (overlap_central_iff symm hrow hadapter hstored).mp hoverlap
      have publishes : PublishesCentral env now payload db := by
        refine ⟨hadapter, hrow.eventType.symm.trans hevent, insertable.toStationCandidate, ?_⟩
        intro other hother stored hstored hkey
        have hkept : payload.adapterKey = some stored.adapterKey := by
          rw [hother.adapterKey, show stored.adapterKey = other.adapterKey from
            congrArg Prod.fst hkey]
        have hkey' : stored.key = row.key := hkey.trans (hother.key_eq hrow)
        rcases hnewer stored (mem_duplicateDecision_of_mem hstored hkept) hkey' with heq | hlt
        · exact absurd (heq ▸ mem_duplicateDecision_of_mem hstored hkept) hold
        · rw [hother.observedAt_eq hrow]
          exact of_decide_eq_true hlt
      have hpromotes : promotesLatest payload db = true := by
        rw [promotesLatest_of_not_cap (isCap_of_sensor (Or.inl hadapter))]
        exact insertable.current
      obtain ⟨peer, hfirst⟩ := firstByStationId_isSome hmatch
      have hpeer := mem_of_firstByStationId hfirst
      have hne := ((mem_duplicateDecision_central hadapter hpromotes hfirst).mp hlocal).2
      exact absurd (eq_of_mem_of_length_le_one (single publishes) hmatch hpeer) hne

/-- Exclusion survives a candidate unless it is a central one that is published
over two matches. -/
theorem exclusive_of_single_match
    (symm : ∀ a b, env.withinDuplicateDistance a b = env.withinDuplicateDistance b a)
    (hsensor : isSensorCandidate payload) (exclusive : ExclusiveSensors env db)
    (single : PublishesCentral env now payload db →
      (exactDuplicates env payload db).length ≤ 1) :
    ExclusiveSensors env (writeEvidence env now payload db).2 := by
  have hcap := isCap_of_sensor hsensor
  rcases writeEvidence_adds_own_row env now db hcap with
    hsub | ⟨insertable, row, hrow, hlatest⟩
  · exact exclusive.mono hsub
  have hpromotes : promotesLatest payload db = true := by
    rw [promotesLatest_of_not_cap hcap]
    exact insertable.current
  intro central hcentral localRow hlocal
  cases hoverlap : sensorsOverlap env central localRow with
  | false => rfl
  | true =>
      rw [hlatest] at hcentral hlocal
      obtain ⟨hca, -, hla, -⟩ := sensorsOverlap_eq_true.mp hoverlap
      rcases Table.mem_upsertWhen.mp hcentral with ⟨hnew, hnewer⟩ | ⟨hold, -⟩
      · rcases Table.mem_upsertWhen.mp hlocal with ⟨hsame, -⟩ | ⟨hkept, -⟩
        · rw [hsame, ← hnew, hca] at hla
          exact absurd hla wraIow_ne_tainan
        · rw [hnew] at hoverlap hca
          rw [new_central_exclusive symm exclusive single insertable hrow hca hnewer hkept]
            at hoverlap
          exact hoverlap.symm
      · rcases Table.mem_upsertWhen.mp hlocal with ⟨hnew, -⟩ | ⟨hkept, -⟩
        · rw [hnew] at hoverlap hla
          have hadapter : payload.adapterKey = some tainanFloodSensor := by
            rw [hrow.adapterKey, hla]
          have hmatch := overlap_local hrow hadapter (mem_of_mem_duplicateDecision hold) hoverlap
          exact absurd (duplicateCentral_of_match hadapter hpromotes hmatch) insertable.distinct
        · have hfalse := exclusive central (mem_of_mem_duplicateDecision hold) localRow
            (mem_of_mem_duplicateDecision hkept)
          rw [hoverlap] at hfalse
          exact hfalse

/-! ### Runs -/

/-- No published central candidate matches a second local row. -/
def singleMatch (env : Environment) (db : Database) (call : ℤ × EvidencePromotionPayload) : Prop :=
  PublishesCentral env call.1 call.2 db → (exactDuplicates env call.2 db).length ≤ 1

/-- A candidate keeps the sensors exclusive exactly when it is no central one
published over two or more local rows; hence every run without such a
candidate stays exclusive. -/
theorem sensors_exclusive_iff_single_match {env : Environment}
    (symm : ∀ a b, env.withinDuplicateDistance a b = env.withinDuplicateDistance b a)
    {db : Database} (exclusive : ExclusiveSensors env db) :
    (∀ call : ℤ × EvidencePromotionPayload, isSensorCandidate call.2 →
      (ExclusiveSensors env (writeStep env db call) ↔ singleMatch env db call)) ∧
    ∀ calls : List (ℤ × EvidencePromotionPayload), (∀ call ∈ calls, isSensorCandidate call.2) →
      Along (writeStep env) (singleMatch env) db calls →
      ExclusiveSensors env (run (writeStep env) db calls) := by
  refine ⟨?_, ?_⟩
  · intro call hsensor
    constructor
    · intro hafter publishes
      by_contra hlength
      exact not_exclusive_of_two_matches symm publishes (by omega) hafter
    · exact exclusive_of_single_match symm hsensor exclusive
  · intro calls hsensors along
    induction calls generalizing db with
    | nil => exact exclusive
    | cons call rest ih =>
        have hsensor := hsensors call List.mem_cons_self
        have hnext := exclusive_of_single_match symm hsensor exclusive along.1
        exact ih hnext (fun other hother => hsensors other (List.mem_cons_of_mem call hother))
          along.2

/-! ### Two local sensors at one central sensor -/

def nearby (first second : Position) : Bool :=
  |first.1 - second.1| ≤ 1 / 1000 && |first.2 - second.2| ≤ 1 / 1000

theorem nearby_comm (first second : Position) : nearby first second = nearby second first := by
  simp only [nearby, abs_sub_comm]

def sensorEnvironment : Environment :=
  { bareEnvironment with withinDuplicateDistance := nearby }

def sensorItem (adapterKey station : String) (longitude : ℚ) : StagingEvidenceUpsert where
  adapterKey := adapterKey
  sourceId := station ++ ":1"
  sourceType := .official
  eventType := .floodReport
  occurredAt := 1000
  observedAt := 1000
  payload :=
    { evidenceScope := some .current
      ingestionGenerationStartedAt := some (.aware 2000)
      locationPayload := .object (.object (.point [longitude, 23]))
      stationId := some station
      floodDepthCm := some 12 }

def stagedSensors (localItems : List StagingEvidenceUpsert) : Database :=
  writeBatch
    { adapterKey := wraIowFloodDepth, rawRef := "raw/wra_iow",
      accepted := [sensorItem wraIowFloodDepth "W1" (120 + 1 / 4000)] }
    (writeBatch { adapterKey := tainanFloodSensor, rawRef := "raw/tainan", accepted := localItems }
      (catalogued [wraIowFloodDepth, tainanFloodSensor]))

def sensorCalls (db : Database) : List (ℤ × EvidencePromotionPayload) :=
  (fetchAcceptedStaging none none (some ["raw/tainan"]) db ++
    fetchAcceptedStaging none none (some ["raw/wra_iow"]) db).map fun payload => (2000, payload)

def oneLocalSensor : Database := stagedSensors [sensorItem tainanFloodSensor "T1" 120]

def twoLocalSensors : Database :=
  stagedSensors [sensorItem tainanFloodSensor "T1" 120,
    sensorItem tainanFloodSensor "T2" (120 + 1 / 2000)]

theorem sensors_exclusive_with_one_local_sensor :
    ExclusiveSensors sensorEnvironment
      (run (writeStep sensorEnvironment) oneLocalSensor (sensorCalls oneLocalSensor)) := by
  have start : ExclusiveSensors sensorEnvironment oneLocalSensor := by
    unfold ExclusiveSensors
    decide +kernel
  have hsensors : ∀ call ∈ sensorCalls oneLocalSensor, isSensorCandidate call.2 := by
    unfold isSensorCandidate
    decide +kernel
  have along : Along (writeStep sensorEnvironment)
      (fun db call => (exactDuplicates sensorEnvironment call.2 db).length ≤ 1)
      oneLocalSensor (sensorCalls oneLocalSensor) := by
    decide +kernel
  have single : Along (writeStep sensorEnvironment) (singleMatch sensorEnvironment)
      oneLocalSensor (sensorCalls oneLocalSensor) := by
    refine Along.mono ?_ along
    intro db call hlength _
    exact hlength
  exact (sensors_exclusive_iff_single_match nearby_comm start).2 _ hsensors single

/-- A central observation that matches two local rows replaces one of them and
leaves the other beside itself. -/
theorem sensors_overlap_with_two_local_sensors :
    ¬ ∀ env : Environment,
      (∀ a b, env.withinDuplicateDistance a b = env.withinDuplicateDistance b a) →
      ∀ db : Database, db.officialRealtimeLatest.rows = [] →
      ∀ calls : List (ℤ × EvidencePromotionPayload), (∀ call ∈ calls, isSensorCandidate call.2) →
        ExclusiveSensors env (run (writeStep env) db calls) := by
  intro hall
  have hsensors : ∀ call ∈ sensorCalls twoLocalSensors, isSensorCandidate call.2 := by
    unfold isSensorCandidate
    decide +kernel
  have hexclusive := hall sensorEnvironment nearby_comm twoLocalSensors rfl _ hsensors
  have hoverlap : ¬ ExclusiveSensors sensorEnvironment
      (run (writeStep sensorEnvironment) twoLocalSensors (sensorCalls twoLocalSensors)) := by
    unfold ExclusiveSensors
    decide +kernel
  exact hoverlap hexclusive

end FloodRisk.Promotion
