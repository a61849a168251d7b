import FloodRisk.Promotion.Batch
import FloodRisk.Promotion.Order
import FloodRisk.Promotion.Staging

/-!
# Every order and every batching of the candidates of one station

`Absorbed` is carried through the settling transaction of a batch, through its
remaining writes and through a sequence of calls.  The settling transaction
retires candidates whose observation the table already shows, and those are
absorbed without a write.
-/

namespace FloodRisk.Promotion
open Newest Transition

variable {env : Environment} {now : ℤ} {payload : EvidencePromotionPayload} {db : Database}
  {key : LatestKey} {all done pending : Set EvidencePromotionPayload}

/-! ### Settled observations -/

theorem StationObservation.stored_of_unchanged (h : StationObservation key payload)
    (hunchanged : isUnchangedObservation env now db payload = true) :
    ∃ stored, storedReading key db = some stored ∧
      (candidateReading payload).observedAt = stored.observedAt := by
  unfold isUnchangedObservation at hunchanged
  cases hkeyed : batchIdempotentStationKey now payload with
  | none => simp [hkeyed] at hunchanged
  | some keyed =>
      obtain ⟨hadapter, hevent, hstation, hobserved⟩ := batchIdempotentStationKey_eq_some hkeyed
      have hkey : keyed.1 = key := by
        refine Prod.ext ?_ (Prod.ext ?_ ?_)
        · exact Option.some.inj (hadapter.symm.trans h.adapter)
        · exact hevent.symm.trans h.event
        · exact Option.some.inj (hstation.symm.trans h.station)
      have htime : (candidateReading payload).observedAt = keyed.2 := by
        rw [h.observedAt_eq] at hobserved
        exact Option.some.inj hobserved
      simp only [hkeyed, hkey] at hunchanged
      cases hfind : db.officialRealtimeLatest.find key with
      | none => simp [hfind] at hunchanged
      | some row =>
          simp only [hfind, Bool.and_eq_true, decide_eq_true_eq] at hunchanged
          have hsame : row.observedAt = keyed.2 :=
            congrArg LatestFingerprint.observedAt hunchanged.1
          refine ⟨row.reading, by simp [storedReading, hfind], ?_⟩
          rw [htime, ← hsame]
          rfl

/-! ### Batches -/

namespace Absorbed

theorem mono (h : Absorbed key done pending db) {fewer : Set EvidencePromotionPayload}
    (hfewer : fewer ⊆ pending) : Absorbed key done fewer db :=
  ⟨h.newest, fun payload hmem => h.pending payload (hfewer hmem)⟩

/-- A run of single writes absorbs the candidates it writes. -/
theorem writes (h : Absorbed key done pending db) (candidates : Candidates key all)
    (hpending : pending ⊆ all) (env : Environment) (now : ℤ)
    (payloads : List EvidencePromotionPayload) (hnodup : payloads.Nodup) (hmem : ∀ payload ∈ payloads, payload ∈ pending)
    (hfuture : ∀ payload ∈ payloads, notFuture now payload) :
    Absorbed key ({payload | payload ∈ payloads} ∪ done) (pending \ {payload | payload ∈ payloads})
      (run (writeStep env) db (payloads.map (Prod.mk now))) := by
  induction payloads generalizing db done pending with
  | nil =>
      have hnone : {payload | payload ∈ ([] : List EvidencePromotionPayload)} = ∅ := by simp
      rw [hnone, Set.empty_union, Set.sdiff_empty]
      exact h
  | cons first rest ih =>
      obtain ⟨hnot, hrest⟩ := List.nodup_cons.mp hnodup
      have hnext := h.write candidates hpending env (hmem first List.mem_cons_self)
        (hfuture first List.mem_cons_self)
      have hkept : ∀ payload ∈ rest, payload ∈ pending \ {first} := by
        intro payload hpayload
        exact ⟨hmem payload (List.mem_cons_of_mem first hpayload),
          fun heq => hnot (Set.mem_singleton_iff.mp heq ▸ hpayload)⟩
      have hfinal := ih hnext (fun payload hpayload => hpending hpayload.1) hrest hkept
        (fun payload hpayload => hfuture payload (List.mem_cons_of_mem first hpayload))
      have hdone : {payload | payload ∈ first :: rest} ∪ done =
          {payload | payload ∈ rest} ∪ insert first done := by
        ext payload
        simp only [Set.mem_union, Set.mem_ofPred_eq, List.mem_cons, Set.mem_insert_iff]
        tauto
      rw [hdone]
      refine hfinal.mono ?_
      rintro payload ⟨hpayload, hout⟩
      simp only [Set.mem_ofPred_eq, List.mem_cons, not_or] at hout
      exact ⟨⟨hpayload, hout.1⟩, hout.2⟩

/-- A batch absorbs all its candidates, settled or written. -/
theorem batch (h : Absorbed key done pending db) (candidates : Candidates key all)
    (hpending : pending ⊆ all) (env : Environment) (now : ℤ)
    (payloads : List EvidencePromotionPayload) (hnodup : payloads.Nodup) (hmem : ∀ payload ∈ payloads, payload ∈ pending)
    (hfuture : ∀ payload ∈ payloads, notFuture now payload) :
    Absorbed key ({payload | payload ∈ payloads} ∪ done) (pending \ {payload | payload ∈ payloads})
      (callStep env db (.batch now payloads)) := by
  let ids := settledStagingIds env now db payloads
  let settled := {payload | payload ∈ payloads ∧ isSettled ids payload = true}
  let written := payloads.filter fun payload => !isSettled ids payload
  -- two candidates of the batch never share a staging id
  have hown : ∀ payload ∈ settled, isUnchangedObservation env now db payload = true := by
    rintro payload ⟨hpayload, hsettled⟩
    obtain ⟨id, hid, hin⟩ := (Option.any_eq_true _ _).mp hsettled
    obtain ⟨other, hother, hotherId, hunchanged⟩ :=
      exists_unchanged_of_mem_settled (of_decide_eq_true hin)
    have hsame : other = payload := by
      by_contra hne
      refine (h.pending payload (hmem payload hpayload)).stagingId_ne
        (h.pending other (hmem other hother)) ?_ hotherId hid
      exact fun heq => hne (candidates.distinct other (hpending (hmem other hother)) payload
        (hpending (hmem payload hpayload)) heq)
    exact hsame ▸ hunchanged
  have hsettled : Absorbed key (settled ∪ done) (pending \ settled)
      (settleUnchangedObservations env now payloads db).2 := by
    refine h.settle candidates hpending (fun payload hpayload => hmem payload hpayload.1) ?_ ?_ _
    · intro payload hpayload
      obtain ⟨stored, hstored, heq⟩ :=
        (candidates.observation payload (hpending (hmem payload hpayload.1))).stored_of_unchanged
          (hown payload hpayload)
      exact ⟨stored, hstored, heq.le⟩
    · intro id hid
      obtain ⟨payload, hpayload, hpayloadId, -⟩ := exists_unchanged_of_mem_settled hid
      refine ⟨payload, ⟨hpayload, ?_⟩, hpayloadId⟩
      simp only [isSettled, hpayloadId, Option.any_some, decide_eq_true_eq]
      exact hid
  have hwritten : ∀ payload ∈ written, payload ∈ payloads ∧ isSettled ids payload = false := by
    intro payload hpayload
    obtain ⟨hin, hout⟩ := List.mem_filter.mp hpayload
    exact ⟨hin, by simpa using hout⟩
  have hfinal := hsettled.writes candidates (fun payload hpayload => hpending hpayload.1) env
    now written (hnodup.filter _) ?_
    (fun payload hpayload => hfuture payload (hwritten payload hpayload).1)
  · rw [callStep_batch]
    have hdone : {payload | payload ∈ payloads} ∪ done =
        {payload | payload ∈ written} ∪ (settled ∪ done) := by
      ext payload
      simp only [Set.mem_union, Set.mem_ofPred_eq, written, settled, List.mem_filter]
      cases isSettled ids payload <;> simp
    rw [hdone]
    refine hfinal.mono ?_
    rintro payload ⟨hpayload, hout⟩
    exact ⟨⟨hpayload, fun hin => hout hin.1⟩, fun hin => hout (hwritten payload hin).1⟩
  · intro payload hpayload
    have hin := hwritten payload hpayload
    refine ⟨hmem payload hin.1, fun hsettled => ?_⟩
    have hcontra := hsettled.2
    rw [hin.2] at hcontra
    exact Bool.noConfusion hcontra

theorem call (h : Absorbed key done pending db) (candidates : Candidates key all)
    (hpending : pending ⊆ all) (env : Environment) {call : Call} (hnodup : call.payloads.Nodup)
    (hmem : ∀ payload ∈ call.payloads, payload ∈ pending)
    (hfuture : ∀ payload ∈ call.payloads, notFuture call.now payload) :
    Absorbed key ({payload | payload ∈ call.payloads} ∪ done)
      (pending \ {payload | payload ∈ call.payloads}) (callStep env db call) := by
  cases call with
  | single now payload =>
      exact h.writes candidates hpending env now [payload] hnodup hmem hfuture
  | batch now payloads => exact h.batch candidates hpending env now payloads hnodup hmem hfuture

/-- A sequence of calls absorbs the candidates of all its calls. -/
theorem calls (h : Absorbed key done pending db) (candidates : Candidates key all)
    (hpending : pending ⊆ all) (env : Environment) (calls : List Call)
    (hnodup : (calls.flatMap Call.payloads).Nodup)
    (hmem : ∀ payload ∈ calls.flatMap Call.payloads, payload ∈ pending)
    (hfuture : ∀ call ∈ calls, ∀ payload ∈ call.payloads, notFuture call.now payload) :
    Absorbed key ({payload | payload ∈ calls.flatMap Call.payloads} ∪ done)
      (pending \ {payload | payload ∈ calls.flatMap Call.payloads})
      (run (callStep env) db calls) := by
  induction calls generalizing db done pending with
  | nil =>
      have hnone : {payload | payload ∈ ([] : List Call).flatMap Call.payloads} = ∅ := by simp
      rw [hnone, Set.empty_union, Set.sdiff_empty]
      exact h
  | cons first rest ih =>
      rw [List.flatMap_cons] at hnodup hmem ⊢
      obtain ⟨hfirst, hrest, hdisjoint⟩ := List.nodup_append.mp hnodup
      have hnext := h.call candidates hpending env hfirst
        (fun payload hpayload => hmem payload (List.mem_append_left _ hpayload))
        (hfuture first List.mem_cons_self)
      have hkept : ∀ payload ∈ rest.flatMap Call.payloads,
          payload ∈ pending \ {payload | payload ∈ first.payloads} := by
        intro payload hpayload
        exact ⟨hmem payload (List.mem_append_right _ hpayload),
          fun hin => hdisjoint payload hin payload hpayload rfl⟩
      have hfinal := ih hnext (fun payload hpayload => hpending hpayload.1) hrest hkept
        (fun other hother => hfuture other (List.mem_cons_of_mem first hother))
      have hdone : {payload | payload ∈ first.payloads ++ rest.flatMap Call.payloads} ∪ done =
          {payload | payload ∈ rest.flatMap Call.payloads} ∪
            ({payload | payload ∈ first.payloads} ∪ done) := by
        ext payload
        simp only [Set.mem_union, Set.mem_ofPred_eq, List.mem_append]
        tauto
      rw [hdone]
      refine hfinal.mono ?_
      rintro payload ⟨hpayload, hout⟩
      simp only [Set.mem_ofPred_eq, List.mem_append, not_or] at hout
      exact ⟨⟨hpayload, hout.1⟩, hout.2⟩

end Absorbed

/-! ### Committed states -/

def NotOlder (key : LatestKey) (db next : Database) : Prop :=
  ∀ row, db.officialRealtimeLatest.find key = some row →
    ∃ other, next.officialRealtimeLatest.find key = some other ∧
      row.observedAt ≤ other.observedAt

theorem NotOlder.refl (key : LatestKey) (db : Database) : NotOlder key db db :=
  fun row hrow => ⟨row, hrow, le_refl _⟩

theorem NotOlder.trans {first second third : Database} (h : NotOlder key first second)
    (k : NotOlder key second third) : NotOlder key first third := by
  intro row hrow
  obtain ⟨other, hother, hle⟩ := h row hrow
  obtain ⟨last, hlast, hle'⟩ := k other hother
  exact ⟨last, hlast, hle.trans hle'⟩

theorem StationObservation.notOlder (h : StationObservation key payload) (env : Environment)
    (now : ℤ) (db : Database) : NotOlder key db (writeEvidence env now payload db).2 := by
  intro row hfind
  by_cases hle : (candidateReading payload).observedAt ≤ row.observedAt
  · exact ⟨row, h.stored_of_le env now hfind hle, le_refl _⟩
  · rcases writeEvidence_unpaired_latest env now db h.isCap h.notLocal h.notCentral with
      hlatest | ⟨proposed, hproposed, hlatest⟩
    · exact ⟨row, hlatest ▸ hfind, le_refl _⟩
    · have hkey := h.key_eq hproposed
      have htime : proposed.observedAt = (candidateReading payload).observedAt :=
        congrArg StationReading.observedAt (h.reading_eq hproposed)
      have hafter : observedAfter proposed row = true := by
        simp only [observedAfter, decide_eq_true_eq]
        omega
      refine ⟨proposed, ?_, by omega⟩
      rw [hlatest, ← hkey, Table.find_upsertWhen_self, hkey, hfind]
      simp only [hafter, if_true]

/-! ### Replays -/

theorem find_callStep_of_le {call : Call} {row : OfficialRealtimeLatest}
    (hobservation : ∀ payload ∈ call.payloads, StationObservation key payload)
    (hfind : db.officialRealtimeLatest.find key = some row)
    (hle : ∀ payload ∈ call.payloads, (candidateReading payload).observedAt ≤ row.observedAt) :
    (callStep env db call).officialRealtimeLatest.find key = some row := by
  cases call with
  | single now payload =>
      exact (hobservation payload List.mem_cons_self).stored_of_le env now hfind
        (hle payload List.mem_cons_self)
  | batch now payloads =>
      have hkept : ∀ (db : Database) (write : ℤ × EvidencePromotionPayload),
          db.officialRealtimeLatest.find key = some row → write.2 ∈ payloads →
          (writeStep env db write).officialRealtimeLatest.find key = some row :=
        fun _ write hstored hmem =>
          (hobservation write.2 hmem).stored_of_le env write.1 hstored (hle write.2 hmem)
      rw [callStep_batch]
      refine run_invariant_of_along hkept hfind ?_
      · refine along_of_forall _ ?_ _
        intro write hwrite _
        obtain ⟨payload, hkept, rfl⟩ := List.mem_map.mp hwrite
        exact List.mem_of_mem_filter hkept

theorem find_callStep_of_stored {call : Call}
    (hobservation : ∀ payload ∈ call.payloads, StationObservation key payload)
    (hstored : ∀ payload ∈ call.payloads, ∃ row,
      db.officialRealtimeLatest.find key = some row ∧
        (candidateReading payload).observedAt ≤ row.observedAt) :
    (callStep env db call).officialRealtimeLatest.find key =
      db.officialRealtimeLatest.find key := by
  cases hfind : db.officialRealtimeLatest.find key with
  | some row =>
      refine find_callStep_of_le hobservation hfind ?_
      intro payload hpayload
      obtain ⟨other, hother, hle⟩ := hstored payload hpayload
      have heq := Option.some.inj (hother.symm.trans hfind)
      exact heq ▸ hle
  | none =>
      have hno : ∀ payload, payload ∉ call.payloads := by
        intro payload hpayload
        obtain ⟨other, hother, -⟩ := hstored payload hpayload
        rw [hfind] at hother
        exact absurd hother (by simp)
      cases call with
      | single now payload => exact absurd List.mem_cons_self (hno payload)
      | batch now payloads =>
          have hnil : payloads = [] := List.eq_nil_iff_forall_not_mem.mpr hno
          rw [hnil]
          exact hfind

/-! ### The latest row of a station -/

/-- The candidates of one station: pending before the first call, told apart by
source and raw reference, and equal in their readings when equal in time. -/
structure StationCandidates (key : LatestKey) (db : Database)
    (candidates : List EvidencePromotionPayload) : Prop where
  observation : ∀ payload ∈ candidates, StationObservation key payload
  pending : ∀ payload ∈ candidates, Pending db payload
  distinct : (candidates.map fun payload => (payload.sourceId, payload.rawRef)).Nodup
  agree : ∀ first ∈ candidates, ∀ second ∈ candidates,
    (candidateReading first).observedAt = (candidateReading second).observedAt →
      candidateReading first = candidateReading second

namespace StationCandidates

variable {candidates : List EvidencePromotionPayload}

theorem nodup (h : StationCandidates key db candidates) : candidates.Nodup :=
  List.Nodup.of_map _ h.distinct

theorem keyed (h : StationCandidates key db candidates) :
    Candidates key {payload | payload ∈ candidates} := by
  refine ⟨h.observation, ?_⟩
  intro first hfirst second hsecond heq
  exact List.inj_on_of_nodup_map h.distinct hfirst hsecond heq

theorem absorbed (h : StationCandidates key db candidates)
    (hempty : db.officialRealtimeLatest.find key = none) (env : Environment) {calls : List Call}
    (hmem : ∀ payload ∈ calls.flatMap Call.payloads, payload ∈ candidates)
    (hnodup : (calls.flatMap Call.payloads).Nodup)
    (hfuture : ∀ call ∈ calls, ∀ payload ∈ call.payloads, notFuture call.now payload) :
    IsNewest StationReading.observedAt
      (candidateReading '' {payload | payload ∈ calls.flatMap Call.payloads})
      (storedReading key (run (callStep env) db calls)) := by
  have start : Absorbed key ∅ {payload | payload ∈ candidates} db := by
    refine ⟨?_, h.pending⟩
    simp only [storedReading, hempty, Option.map_none, Set.image_empty]
    exact isNewest_empty
  have hfinal := start.calls h.keyed (Set.Subset.refl _) env calls hnodup hmem hfuture
  rw [Set.union_empty] at hfinal
  exact hfinal.newest

end StationCandidates

/-- Whatever the order of the candidates and the calls they are split into, the
latest row of the station ends with the newest reading, it never gets older on
the way, and a call that replays processed readings leaves it alone. -/
theorem station_latest_order_independent (env : Environment) {key : LatestKey} {db : Database}
    {candidates : List EvidencePromotionPayload} (h : StationCandidates key db candidates)
    (hempty : db.officialRealtimeLatest.find key = none) {calls : List Call}
    (order : (calls.flatMap Call.payloads).Perm candidates)
    (hfuture : ∀ call ∈ calls, ∀ payload ∈ call.payloads, notFuture call.now payload) :
    (∀ newest ∈ candidates,
      (∀ other ∈ candidates,
        (candidateReading other).observedAt ≤ (candidateReading newest).observedAt) →
      storedReading key (run (callStep env) db calls) = some (candidateReading newest)) ∧
    (db :: committedRun env db calls).Pairwise (NotOlder key) ∧
    ∀ before after : List Call, calls = before ++ after → ∀ replay : Call,
      (∀ payload ∈ replay.payloads, StationObservation key payload ∧
        ∃ processed ∈ before.flatMap Call.payloads,
          candidateReading payload = candidateReading processed) →
      (callStep env (run (callStep env) db before) replay).officialRealtimeLatest.find key =
        (run (callStep env) db before).officialRealtimeLatest.find key := by
  have hmem : ∀ payload ∈ calls.flatMap Call.payloads, payload ∈ candidates :=
    fun payload hpayload => order.mem_iff.mp hpayload
  have hnodup : (calls.flatMap Call.payloads).Nodup := order.nodup_iff.mpr h.nodup
  refine ⟨?_, ?_, ?_⟩
  · intro newest hnewest hmax
    have hfinal := h.absorbed hempty env hmem hnodup hfuture
    obtain ⟨stored, hstored, hle⟩ := hfinal.newest _ ⟨newest, order.mem_iff.mpr hnewest, rfl⟩
    obtain ⟨other, hother, hreading⟩ := hfinal.arrived stored hstored
    have hcandidate := hmem other hother
    have hequal : (candidateReading other).observedAt = (candidateReading newest).observedAt := by
      have hge := hmax other hcandidate
      rw [← hreading] at hle
      omega
    rw [hstored, ← hreading, h.agree other hcandidate newest hnewest hequal]
  · have hstepped : ∀ now db payload, StationObservation key payload →
        NotOlder key db (writeStep env db (now, payload)) :=
      fun now db payload hpayload => hpayload.notOlder env now db
    have between := between_committedRun env (NotOlder.refl key) (fun _ _ _ => NotOlder.trans)
      (fun _ _ db => NotOlder.refl key db) hstepped
      (fun payload hpayload => h.observation payload (hmem payload hpayload)) db
    exact List.pairwise_cons.mpr ⟨between.reached, between.pairwise⟩
  · intro before after hsplit replay hreplay
    rw [hsplit, List.flatMap_append] at hnodup hmem
    have hreached := h.absorbed hempty env
      (fun payload hpayload => hmem payload (List.mem_append_left _ hpayload))
      (List.nodup_append.mp hnodup).1
      (fun call hcall => hfuture call (hsplit ▸ List.mem_append_left _ hcall))
    have hstored : ∀ payload ∈ replay.payloads, ∃ row,
        (run (callStep env) db before).officialRealtimeLatest.find key = some row ∧
          (candidateReading payload).observedAt ≤ row.observedAt := by
      intro payload hpayload
      obtain ⟨-, processed, hprocessed, hreading⟩ := hreplay payload hpayload
      obtain ⟨stored, hstored, hle⟩ := hreached.newest _ ⟨processed, hprocessed, rfl⟩
      obtain ⟨row, hrow, hrowReading⟩ := Option.map_eq_some_iff.mp hstored
      rw [← hreading, ← hrowReading] at hle
      exact ⟨row, hrow, hle⟩
    exact find_callStep_of_stored (fun payload hpayload => (hreplay payload hpayload).1) hstored

/-! ### Three observations of one rain gauge -/

def gaugeKey : LatestKey := ("official.cwa.rainfall", .rainfall, .station "C0A1")

def gaugeItem (observedAt : ℤ) (rainfall : ℚ) : StagingEvidenceUpsert where
  adapterKey := "official.cwa.rainfall"
  sourceId := "C0A1:rain"
  sourceType := .official
  eventType := .rainfall
  occurredAt := observedAt
  observedAt := observedAt
  payload :=
    { evidenceScope := some .current
      ingestionGenerationStartedAt := some (.aware 5000)
      locationPayload := .object (.object (.point [121, 25]))
      stationId := some "C0A1"
      rainfallMm1h := some rainfall }

def stagedGauge : Database :=
  [("raw/1", gaugeItem 1000 4), ("raw/2", gaugeItem 2000 9), ("raw/3", gaugeItem 3000 2)].foldl
    (fun db poll => writeBatch
      { adapterKey := "official.cwa.rainfall", rawRef := poll.1, accepted := [poll.2] } db)
    (catalogued ["official.cwa.rainfall"])

def gaugeCandidates (rawRefs : List String) : List EvidencePromotionPayload :=
  fetchAcceptedStaging none none (some rawRefs) stagedGauge

def gaugeCalls : List Call :=
  [.batch 5000 (gaugeCandidates ["raw/3", "raw/1"]), .batch 5000 (gaugeCandidates ["raw/2"])]

theorem gauge_latest_order_independent :
    storedReading gaugeKey (run (callStep bareEnvironment) stagedGauge gaugeCalls) =
      some ⟨3000, some 2, none, none, none, none⟩ := by
  have hfields : ∀ payload ∈ gaugeCandidates ["raw/1", "raw/2", "raw/3"],
      payload.adapterKey = some gaugeKey.1 ∧ payload.eventType = gaugeKey.2.1 ∧
      officialRealtimeStationId payload = some gaugeKey.2.2 ∧
      isReviewedCurrentCandidate payload = true ∧
      (awareInstant payload.observedAt).isSome ∧ (awareInstant payload.occurredAt).isSome ∧
      explicitGeometryRejectionReason payload = none ∧
      ((geojsonPointGeometry payload.properties).bind pointPosition).isSome ∧
      payload.properties.capMessageType = none := by
    decide +kernel
  have hpending : ∀ payload ∈ gaugeCandidates ["raw/1", "raw/2", "raw/3"],
      authorizeStagingCandidate stagedGauge payload = some true ∧
      stagingEvidenceWasAlreadyUsed stagedGauge payload = false ∧
      (resolvedDataSource stagedGauge payload).isSome := by
    decide +kernel
  have hagree : ∀ first ∈ gaugeCandidates ["raw/1", "raw/2", "raw/3"],
      ∀ second ∈ gaugeCandidates ["raw/1", "raw/2", "raw/3"],
      (candidateReading first).observedAt = (candidateReading second).observedAt →
        candidateReading first = candidateReading second := by
    decide +kernel
  have hnewest : ∃ newest ∈ gaugeCandidates ["raw/1", "raw/2", "raw/3"],
      candidateReading newest = ⟨3000, some 2, none, none, none, none⟩ ∧
      ∀ other ∈ gaugeCandidates ["raw/1", "raw/2", "raw/3"],
        (candidateReading other).observedAt ≤ (candidateReading newest).observedAt := by
    decide +kernel
  have candidates : StationCandidates gaugeKey stagedGauge
      (gaugeCandidates ["raw/1", "raw/2", "raw/3"]) := by
    refine ⟨?_, ?_, by decide +kernel, hagree⟩
    · intro payload hpayload
      obtain ⟨hadapter, hevent, hstation, hreviewed, hobserved, hoccurred, hgeometry, hlocated,
        hplain⟩ := hfields payload hpayload
      exact ⟨hadapter, hevent, hstation, hreviewed, by rw [hevent]; decide, by rw [hadapter]; decide,
        by rw [hadapter]; decide, hobserved, fun _ => hoccurred, hgeometry, hlocated,
        by rw [hplain]; decide⟩
    · intro payload hpayload
      obtain ⟨hauthorized, hunused, hresolved⟩ := hpending payload hpayload
      exact ⟨by simp [hauthorized], hunused, hresolved, fun row hrow => absurd hrow List.not_mem_nil⟩
  have hfuture : ∀ call ∈ gaugeCalls, ∀ payload ∈ call.payloads, notFuture call.now payload := by
    unfold notFuture
    decide +kernel
  have order : (gaugeCalls.flatMap Call.payloads).Perm
      (gaugeCandidates ["raw/1", "raw/2", "raw/3"]) := by
    decide +kernel
  obtain ⟨newest, hmem, hreading, hmax⟩ := hnewest
  have hfinal := station_latest_order_independent bareEnvironment candidates rfl order hfuture
  rw [← hreading]
  exact hfinal.1 newest hmem hmax

end FloodRisk.Promotion
