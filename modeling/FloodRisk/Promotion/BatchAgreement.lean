import FloodRisk.Promotion.Batch
import FloodRisk.Promotion.Exclusion
import FloodRisk.Promotion.Pending

/-!
# The batch against the same writes one at a time

The settling transaction decides for the whole batch on the tables it finds.
A run of single writes decides for each candidate on the tables its turn finds.
-/

namespace FloodRisk.Promotion
open Transition

variable {env : Environment} {now : ℤ} {payload : EvidencePromotionPayload} {db : Database}

/-! ### The two paths -/

/-- `write_evidence` on the candidates one after the other. -/
def writeEach (env : Environment) (now : ℤ) : List EvidencePromotionPayload → Database →
    List (Option ℕ) × Database
  | [], db => ([], db)
  | payload :: rest, db =>
      let (result, next) := writeEvidence env now payload db
      let (results, final) := writeEach env now rest next
      (result :: results, final)

def singleStep (env : Environment) (now : ℤ) (db : Database)
    (payload : EvidencePromotionPayload) : Database :=
  (writeEvidence env now payload db).2

/-- Same ids at the same positions, same latest and evidence rows, and the same
staging rows still accepted. -/
structure Agrees (batch each : List (Option ℕ) × Database) : Prop where
  results : batch.1 = each.1
  latest : batch.2.officialRealtimeLatest = each.2.officialRealtimeLatest
  evidence : batch.2.evidence = each.2.evidence
  accepted : ∀ row : StagingEvidence, row.validationStatus = .accepted →
    (row ∈ batch.2.stagingEvidence ↔ row ∈ each.2.stagingEvidence)

/-- A candidate that the batch settles is still unchanged when its own turn
comes, its staging row has no evidence yet, and no local peer is replaced. -/
def SettlesAlike (env : Environment) (now : ℤ) (start db : Database)
    (payload : EvidencePromotionPayload) : Prop :=
  isUnchangedObservation env now start payload = true →
    isUnchangedObservation env now db payload = true ∧
    stagingEvidenceWasAlreadyUsed db payload = false ∧
    (duplicateDecision env payload db).1 ≠ some .replacedLocal

instance (env : Environment) (now : ℤ) (start db : Database)
    (payload : EvidencePromotionPayload) : Decidable (SettlesAlike env now start db payload) := by
  unfold SettlesAlike
  infer_instance

/-! ### The write of an unchanged observation -/

theorem unchanged_spec (h : isUnchangedObservation env now db payload = true) :
    isCurrentCapLifecycleCandidate payload = false ∧ payload.eventType ≠ .floodWarning ∧
      shouldUpsertOfficialRealtimeLatest payload = true ∧
      currentCandidateRejectionReason now payload = none ∧
      authorizeStagingCandidate db payload = some true ∧
      classifyLatestDecision env db payload = .idempotent := by
  unfold isUnchangedObservation at h
  cases hkey : batchIdempotentStationKey now payload with
  | none => simp [hkey] at h
  | some keyed =>
      obtain ⟨key, observedAt⟩ := keyed
      simp only [hkey] at h
      cases hfind : db.officialRealtimeLatest.find key with
      | none => simp [hfind] at h
      | some row =>
          simp only [hfind, Bool.and_eq_true, decide_eq_true_eq] at h
          obtain ⟨hfingerprint, hauth⟩ := h
          have hobserved : row.observedAt = observedAt :=
            congrArg LatestFingerprint.observedAt hfingerprint
          unfold batchIdempotentStationKey at hkey
          split at hkey
          · exact absurd hkey (by simp)
          rename_i hcap
          split at hkey
          · exact absurd hkey (by simp)
          rename_i hevent
          split at hkey
          · exact absurd hkey (by simp)
          rename_i hupsert
          split at hkey
          · exact absurd hkey (by simp)
          rename_i hreason
          split at hkey
          · rename_i stationId adapterKey observed hstation hadapter hown
            cases hkey
            refine ⟨by simpa using hcap, hevent, by simpa using hupsert, by simpa using hreason,
              hauth, ?_⟩
            simp only [classifyLatestDecision, hstation, hadapter, hown, hfind, compareWithStored,
              hobserved, lt_irrefl, if_false, hfingerprint, if_true]
          · exact absurd hkey (by simp)

theorem writeEvidence_unchanged (h : isUnchangedObservation env now db payload = true)
    (unused : stagingEvidenceWasAlreadyUsed db payload = false)
    (kept : (duplicateDecision env payload db).1 ≠ some .replacedLocal) :
    ∃ reason, writeEvidence env now payload db =
      (none, terminallyRejectStaging payload reason true db) := by
  obtain ⟨hcap, hevent, hupsert, hreason, hauth, hidempotent⟩ := unchanged_spec h
  have hsettle : settleCapCandidate env now payload db = none := by
    simp only [settleCapCandidate, hcap, Bool.not_false, if_true]
  have hpromotes : promotesLatest payload db = true := by
    simp only [promotesLatest, blockingNoActiveGeneration, hcap, hupsert, Bool.false_eq_true,
      if_false, Option.isNone_none, Bool.and_true]
  have hsame : (duplicateDecision env payload db).2 = db := by
    simp only [duplicateDecision, hpromotes, if_true, handleExactCentralLocalDuplicate] at kept ⊢
    split
    · rename_i probe peer hprobe hpeer
      by_cases hlocal : probe.localCandidate = true
      · simp only [hlocal, if_true]
      · simp only [hprobe, hpeer, if_neg hlocal, ne_eq, not_true_eq_false] at kept
    · rfl
  have hlatest : latestDecision env payload db = .idempotent := by
    simp only [latestDecision, hpromotes, hevent, hsame, ne_eq, not_false_eq_true, decide_true,
      Bool.and_true, if_true, hidempotent]
  have hcandidate : candidateRejectionReason env now payload = none := by
    simp only [candidateRejectionReason, hreason, currentGeometryTopologyRejectionReason, hcap,
      Bool.not_false, if_true, Option.none_or]
  have hfalse : ¬ some true = some false := by decide
  simp only [writeEvidence, writeEvidenceTransaction, hauth, if_neg hfalse, decide_true,
    hcandidate, decideCandidate, unused, Bool.and_false, Bool.false_eq_true, if_false, hsettle,
    promoteCandidate, hsame, hlatest]
  split
  · exact ⟨_, rfl⟩
  · exact ⟨_, rfl⟩

/-! ### Lockstep -/

/-- The id belongs to a candidate that the batch has settled and the single
writes have yet to reach. -/
def AwaitsTurn (settled : List ℕ) (rest : List EvidencePromotionPayload) (id : ℕ) : Prop :=
  id ∈ settled ∧ ∃ payload ∈ rest, validatedStagingId payload = some id

structure Lockstep (settled : List ℕ) (rest : List EvidencePromotionPayload)
    (each batch : Database) : Prop where
  tables : batch = each.withStaging batch.stagingEvidence
  accepted : ∀ row : StagingEvidence, row.validationStatus = .accepted →
    (row ∈ batch.stagingEvidence ↔ row ∈ each.stagingEvidence ∧ ¬ AwaitsTurn settled rest row.id)

theorem mem_rejectRows {ids : List ℕ} {reason : RejectionReason} {staging : StagingTable}
    {row : StagingEvidence} (h : row.validationStatus = .accepted) :
    row ∈ rejectRows ids reason staging ↔ row ∈ staging ∧ row.id ∉ ids := by
  have hmem : row ∈ rejectRows ids reason staging ↔
      ∃ old ∈ staging, (if old.id ∈ ids then rejectStagingRow reason old else old) = row :=
    List.mem_map
  rw [hmem]
  constructor
  · intro hrow
    obtain ⟨old, hold, heq⟩ := hrow
    by_cases hin : old.id ∈ ids
    · rw [if_pos hin] at heq
      have hrejected : (rejectStagingRow reason old).validationStatus ≠ .accepted := by
        unfold rejectStagingRow
        split
        · simp
        · assumption
      rw [heq] at hrejected
      exact absurd h hrejected
    · rw [if_neg hin] at heq
      exact ⟨heq ▸ hold, heq ▸ hin⟩
  · intro hrow
    exact ⟨row, hrow.1, if_neg hrow.2⟩

theorem authorizes_accepted {row : StagingEvidence} {raw : RawSnapshot}
    (h : row.validationStatus ≠ .accepted) : stagingRowAuthorizes db payload row raw = false := by
  simp only [stagingRowAuthorizes, h, decide_false, Bool.false_and]

theorem authorize_of_no_accepted {id : ℕ} (hid : validatedStagingId payload = some id)
    (h : ∀ row : StagingEvidence, row.validationStatus = .accepted → row.id = id →
      ¬ row ∈ db.stagingEvidence) : authorizeStagingCandidate db payload = some false := by
  obtain ⟨canonical, hstaging⟩ := validatedStagingId_eq_some.mp hid
  simp only [authorizeStagingCandidate, hstaging]
  cases hfind : db.stagingEvidence.find id with
  | none => rfl
  | some row =>
      obtain ⟨hrow, hown⟩ := Table.find_eq_some_iff.mp hfind
      have hclosed : row.validationStatus ≠ .accepted := fun haccepted => h row haccepted hown hrow
      cases hraw : db.rawSnapshots.rows.find? (fun raw => some raw.id = row.rawSnapshotId) with
      | none => simp only [hraw]
      | some raw => simp only [hraw, authorizes_accepted hclosed]

theorem authorize_eq_of_accepted {id : ℕ} {staging : StagingTable}
    (hid : validatedStagingId payload = some id)
    (h : ∀ row : StagingEvidence, row.validationStatus = .accepted → row.id = id →
      (row ∈ staging ↔ row ∈ db.stagingEvidence)) :
    authorizeStagingCandidate (db.withStaging staging) payload =
      authorizeStagingCandidate db payload := by
  by_cases hex : ∃ row : StagingEvidence, row.validationStatus = .accepted ∧ row.id = id ∧
      row ∈ db.stagingEvidence
  · obtain ⟨row, haccepted, hown, hrow⟩ := hex
    refine authorizeStagingCandidate_congr rfl rfl ?_
    intro other hother
    have heq : other = id := Option.some.inj (hother.symm.trans hid)
    rw [heq, Table.find_eq_some_iff.mpr ⟨hrow, hown⟩]
    exact Table.find_eq_some_iff.mpr ⟨(h row haccepted hown).mpr hrow, hown⟩
  · have hnone : ∀ row : StagingEvidence, row.validationStatus = .accepted → row.id = id →
        ¬ row ∈ db.stagingEvidence := by
      intro row haccepted hown hrow
      exact hex ⟨row, haccepted, hown, hrow⟩
    have hnext : ∀ row : StagingEvidence, row.validationStatus = .accepted → row.id = id →
        ¬ row ∈ (db.withStaging staging).stagingEvidence := by
      intro row haccepted hown hrow
      exact hnone row haccepted hown ((h row haccepted hown).mp hrow)
    rw [authorize_of_no_accepted hid hnone, authorize_of_no_accepted hid hnext]

namespace Lockstep

variable {settled : List ℕ} {rest : List EvidencePromotionPayload} {each batch : Database}

theorem step_settled (h : Lockstep settled (payload :: rest) each batch) {id : ℕ}
    (hid : validatedStagingId payload = some id) (hsettled : id ∈ settled)
    (reason : RejectionReason) :
    Lockstep settled rest (terminallyRejectStaging payload reason true each) batch := by
  have heq : terminallyRejectStaging payload reason true each = rejectStagingRows [id] reason each := by
    simp only [terminallyRejectStaging, hid, if_true]
  rw [heq]
  refine ⟨h.tables, ?_⟩
  intro row haccepted
  rw [h.accepted row haccepted]
  have hmem : row ∈ (rejectStagingRows [id] reason each).stagingEvidence ↔
      row ∈ each.stagingEvidence ∧ row.id ∉ [id] := mem_rejectRows haccepted
  rw [hmem, List.mem_singleton]
  have hawaits : AwaitsTurn settled (payload :: rest) row.id ↔
      row.id = id ∨ AwaitsTurn settled rest row.id := by
    constructor
    · intro hrow
      obtain ⟨hin, other, hother, hown⟩ := hrow
      rcases List.mem_cons.mp hother with hfirst | htail
      · rw [hfirst, hid] at hown
        exact Or.inl (Option.some.inj hown).symm
      · exact Or.inr ⟨hin, other, htail, hown⟩
    · intro hrow
      rcases hrow with heq | ⟨hin, other, htail, hown⟩
      · rw [heq]
        exact ⟨hsettled, payload, List.mem_cons_self, hid⟩
      · exact ⟨hin, other, List.mem_cons_of_mem payload htail, hown⟩
  rw [hawaits]
  tauto

theorem step_unsettled (env : Environment) (now : ℤ)
    (h : Lockstep settled (payload :: rest) each batch) {id : ℕ}
    (hid : validatedStagingId payload = some id) (hopen : id ∉ settled) :
    (writeEvidence env now payload batch).1 = (writeEvidence env now payload each).1 ∧
      Lockstep settled rest (writeEvidence env now payload each).2
        (writeEvidence env now payload batch).2 := by
  have hawaits : ∀ other, AwaitsTurn settled (payload :: rest) other ↔
      AwaitsTurn settled rest other := by
    intro other
    constructor
    · intro hrow
      obtain ⟨hin, candidate, hcandidate, hown⟩ := hrow
      rcases List.mem_cons.mp hcandidate with hfirst | htail
      · rw [hfirst, hid] at hown
        exact absurd (Option.some.inj hown ▸ hin) hopen
      · exact ⟨hin, candidate, htail, hown⟩
    · intro hrow
      obtain ⟨hin, candidate, htail, hown⟩ := hrow
      exact ⟨hin, candidate, List.mem_cons_of_mem payload htail, hown⟩
  have hauth : authorizeStagingCandidate (each.withStaging batch.stagingEvidence) payload =
      authorizeStagingCandidate each payload := by
    refine authorize_eq_of_accepted hid ?_
    intro row haccepted hown
    rw [h.accepted row haccepted, and_iff_left]
    intro hrow
    exact hopen (hown ▸ hrow.1)
  obtain ⟨result, next, effect, heffect, heq⟩ := writeEvidence_uniform env now payload each
    (authorizeStagingCandidate each payload)
  have heach : writeEvidence env now payload each =
      (result, next.withStaging (effect each.stagingEvidence)) := heq each.stagingEvidence rfl
  have hbatch : writeEvidence env now payload batch =
      (result, next.withStaging (effect batch.stagingEvidence)) := by
    rw [h.tables]
    exact heq batch.stagingEvidence hauth
  rw [heach, hbatch]
  refine ⟨rfl, rfl, ?_⟩
  intro row haccepted
  change row ∈ effect batch.stagingEvidence ↔ row ∈ effect each.stagingEvidence ∧ _
  have hrow := h.accepted row haccepted
  rw [hawaits] at hrow
  rcases heffect with hid | ⟨reason, authorized, hreject⟩
  · rw [hid]
    exact hrow
  · cases authorized with
    | false =>
        have hkeeps : ∀ staging, effect staging = staging := by
          intro staging
          simp only [hreject, rejectOwn, Bool.false_eq_true, if_false]
        rw [hkeeps, hkeeps]
        exact hrow
    | true =>
        have hrejects : ∀ staging, effect staging = rejectRows [id] reason staging := by
          intro staging
          simp only [hreject, rejectOwn, if_true, hid]
        rw [hrejects, hrejects, mem_rejectRows haccepted, mem_rejectRows haccepted, hrow]
        tauto

/-- Induction over the candidates; the databases are generalised because each
turn changes both. -/
theorem run (hids : ∀ payload ∈ rest, (validatedStagingId payload).isSome)
    {start : Database}
    (hsettled : ∀ payload ∈ rest, isSettled settled payload = true →
      isUnchangedObservation env now start payload = true)
    (along : Along (singleStep env now) (SettlesAlike env now start) each rest)
    (h : Lockstep settled rest each batch) :
    (writeUnsettled env now settled rest batch).1 = (writeEach env now rest each).1 ∧
      Lockstep settled [] (writeEach env now rest each).2
        (writeUnsettled env now settled rest batch).2 := by
  induction rest generalizing each batch with
  | nil => exact ⟨rfl, h⟩
  | cons payload rest ih =>
      obtain ⟨id, hid⟩ := Option.isSome_iff_exists.mp (hids payload List.mem_cons_self)
      have hidsRest : ∀ other ∈ rest, (validatedStagingId other).isSome :=
        fun other hother => hids other (List.mem_cons_of_mem payload hother)
      have hsettledRest : ∀ other ∈ rest, isSettled settled other = true →
          isUnchangedObservation env now start other = true :=
        fun other hother => hsettled other (List.mem_cons_of_mem payload hother)
      obtain ⟨hhere, halong⟩ := along
      by_cases hin : id ∈ settled
      · have hown : (validatedStagingId payload).any (· ∈ settled) = true := by
          simp only [hid, Option.any_some, hin, decide_true]
        obtain ⟨hunchanged, unused, kept⟩ := hhere (hsettled payload List.mem_cons_self hown)
        obtain ⟨reason, hwrite⟩ := writeEvidence_unchanged hunchanged unused kept
        have hnext := h.step_settled hid hin reason
        have hstep : singleStep env now each payload =
            terminallyRejectStaging payload reason true each := by
          simp only [singleStep, hwrite]
        rw [hstep] at halong
        obtain ⟨hresults, hfinal⟩ := ih hidsRest hsettledRest halong hnext
        simp only [writeUnsettled, writeEach, hown, if_true, hwrite]
        exact ⟨congrArg (List.cons none) hresults, hfinal⟩
      · have hown : (validatedStagingId payload).any (· ∈ settled) = false := by
          simp only [hid, Option.any_some, hin, decide_false]
        obtain ⟨hresult, hnext⟩ := step_unsettled env now h hid hin
        obtain ⟨hresults, hfinal⟩ := ih hidsRest hsettledRest halong hnext
        have hbatch : writeEvidenceTransaction env now payload batch =
            writeEvidence env now payload batch := rfl
        simp only [writeUnsettled, writeEach, hown, Bool.false_eq_true, if_false, hbatch]
        refine ⟨?_, hfinal⟩
        rw [hresult]
        exact congrArg (List.cons _) hresults

end Lockstep

theorem lockstep_settled (env : Environment) (now : ℤ) (db : Database)
    (payloads : List EvidencePromotionPayload) :
    Lockstep (settledStagingIds env now db payloads) payloads db
      (settleUnchangedObservations env now payloads db).2 := by
  refine ⟨rfl, ?_⟩
  intro row haccepted
  have hmem : row ∈ (settleUnchangedObservations env now payloads db).2.stagingEvidence ↔
      row ∈ db.stagingEvidence ∧ row.id ∉ settledStagingIds env now db payloads :=
    mem_rejectRows haccepted
  have hawaits : AwaitsTurn (settledStagingIds env now db payloads) payloads row.id ↔
      row.id ∈ settledStagingIds env now db payloads := by
    constructor
    · exact fun h => h.1
    · intro hin
      obtain ⟨payload, hpayload, hown, -⟩ := exists_unchanged_of_mem_settled hin
      exact ⟨hin, payload, hpayload, hown⟩
  rw [hmem, hawaits]

/-- A batch leaves what its candidates leave when they are written one at a
time, if each settled candidate would still be settled at its own turn. -/
theorem batch_agrees_with_single_writes {payloads : List EvidencePromotionPayload}
    (hids : ∀ payload ∈ payloads, (validatedStagingId payload).isSome)
    (hnodup : (payloads.map validatedStagingId).Nodup)
    (along : Along (singleStep env now) (SettlesAlike env now db) db payloads) :
    Agrees (writeEvidenceBatch env now payloads db) (writeEach env now payloads db) := by
  have hsettled : ∀ payload ∈ payloads,
      isSettled (settledStagingIds env now db payloads) payload = true →
      isUnchangedObservation env now db payload = true :=
    fun payload hmem hsettled => (isSettled_iff hids hnodup hmem).mp hsettled
  have hstart := lockstep_settled env now db payloads
  obtain ⟨hresults, hfinal⟩ := hstart.run hids hsettled along
  have hbatch : writeEvidenceBatch env now payloads db =
      writeUnsettled env now (settledStagingIds env now db payloads) payloads
        (settleUnchangedObservations env now payloads db).2 := rfl
  rw [hbatch]
  refine ⟨hresults, ?_, ?_, ?_⟩
  · rw [hfinal.tables]
    rfl
  · rw [hfinal.tables]
    rfl
  · intro row haccepted
    rw [hfinal.accepted row haccepted, and_iff_left]
    intro hawaits
    obtain ⟨-, payload, hpayload, -⟩ := hawaits
    exact absurd hpayload List.not_mem_nil

/-! ### Batches that settle otherwise -/

def stagedPoll (rawRef adapterKey : String) (item : StagingEvidenceUpsert) (db : Database) :
    Database :=
  writeBatch { adapterKey := adapterKey, rawRef := rawRef, accepted := [item] } db

def pollCandidates (rawRef : String) (db : Database) : List EvidencePromotionPayload :=
  fetchAcceptedStaging none none (some [rawRef]) db

/-- The central sensor is published again, unchanged, beside a local peer. -/
def frozenCentral : Database :=
  stagedPoll "raw/wra_iow/again" wraIowFloodDepth
    (sensorItem wraIowFloodDepth "W1" (120 + 1 / 4000)) twoLocalSensors

/-- A local sensor, a later observation of it and the first one once more. -/
def laterThenFirst : Database :=
  stagedPoll "raw/tainan/again" tainanFloodSensor (sensorItem tainanFloodSensor "T1" 120)
    (stagedPoll "raw/tainan/later" tainanFloodSensor
      { sensorItem tainanFloodSensor "T1" 120 with
        sourceId := "T1:2", occurredAt := 1500, observedAt := 1500 }
      oneLocalSensor)

/-- The batch and the single writes differ on distinct staged candidates, in a
state that single writes reach from a database without promoted rows. -/
def Disagrees (env : Environment) (now : ℤ) (start : Database)
    (calls : List (ℤ × EvidencePromotionPayload)) (payloads : List EvidencePromotionPayload) :
    Prop :=
  start.officialRealtimeLatest.rows = [] ∧ start.evidence.rows = [] ∧
    (∀ payload ∈ payloads, (validatedStagingId payload).isSome) ∧
    (payloads.map validatedStagingId).Nodup ∧
    ¬ Agrees (writeEvidenceBatch env now payloads (run (writeStep env) start calls))
      (writeEach env now payloads (run (writeStep env) start calls))

/-- The single write of an unchanged central observation deletes the local
peer, that of a promoted candidate leaves its staging row accepted, and that of
an overtaken observation stores its evidence. -/
theorem batch_disagrees_with_single_writes :
    Disagrees sensorEnvironment 2000 frozenCentral (sensorCalls frozenCentral)
      (pollCandidates "raw/wra_iow/again" frozenCentral) ∧
    Disagrees sensorEnvironment 2000 oneLocalSensor
      ((pollCandidates "raw/tainan" oneLocalSensor).map (Prod.mk 2000))
      (pollCandidates "raw/tainan" oneLocalSensor) ∧
    Disagrees sensorEnvironment 2000 laterThenFirst
      ((pollCandidates "raw/tainan" laterThenFirst).map (Prod.mk 2000))
      (pollCandidates "raw/tainan/later" laterThenFirst ++
        pollCandidates "raw/tainan/again" laterThenFirst) := by
  refine ⟨⟨rfl, rfl, by decide +kernel, by decide +kernel, ?_⟩,
    ⟨rfl, rfl, by decide +kernel, by decide +kernel, ?_⟩,
    ⟨rfl, rfl, by decide +kernel, by decide +kernel, ?_⟩⟩
  · intro h
    have hlatest := congrArg (fun latest => latest.rows.map OfficialRealtimeLatest.key) h.latest
    revert hlatest
    decide +kernel
  · intro h
    have haccepted : ∀ row ∈ (writeEach sensorEnvironment 2000
        (pollCandidates "raw/tainan" oneLocalSensor)
        (run (writeStep sensorEnvironment) oneLocalSensor
          ((pollCandidates "raw/tainan" oneLocalSensor).map (Prod.mk 2000)))).2.stagingEvidence.rows,
        row.validationStatus = .accepted →
          row ∈ (writeEvidenceBatch sensorEnvironment 2000
            (pollCandidates "raw/tainan" oneLocalSensor)
            (run (writeStep sensorEnvironment) oneLocalSensor
              ((pollCandidates "raw/tainan" oneLocalSensor).map
                (Prod.mk 2000)))).2.stagingEvidence.rows :=
      fun row hrow hstatus => (h.accepted row hstatus).mpr hrow
    revert haccepted
    decide +kernel
  · intro h
    have hresults := h.results
    revert hresults
    decide +kernel

/-- A frozen station beside a new observation of another one. -/
def frozenBesideNew : Database :=
  stagedPoll "raw/tainan/again" tainanFloodSensor (sensorItem tainanFloodSensor "T1" 120)
    (stagedPoll "raw/tainan/later" tainanFloodSensor
      { sensorItem tainanFloodSensor "T2" 121 with
        sourceId := "T2:2", occurredAt := 1500, observedAt := 1500 }
      oneLocalSensor)

theorem frozen_station_batch_agrees :
    Agrees
      (writeEvidenceBatch sensorEnvironment 2000
        (pollCandidates "raw/tainan/later" frozenBesideNew ++
          pollCandidates "raw/tainan/again" frozenBesideNew)
        (run (writeStep sensorEnvironment) frozenBesideNew
          ((pollCandidates "raw/tainan" frozenBesideNew).map (Prod.mk 2000))))
      (writeEach sensorEnvironment 2000
        (pollCandidates "raw/tainan/later" frozenBesideNew ++
          pollCandidates "raw/tainan/again" frozenBesideNew)
        (run (writeStep sensorEnvironment) frozenBesideNew
          ((pollCandidates "raw/tainan" frozenBesideNew).map (Prod.mk 2000)))) :=
  batch_agrees_with_single_writes (by decide +kernel) (by decide +kernel) (by decide +kernel)

end FloodRisk.Promotion
