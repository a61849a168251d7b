import FloodRisk.Lib.Newest
import FloodRisk.Promotion.Calls
import FloodRisk.Promotion.Pending
import FloodRisk.Promotion.Staging
import FloodRisk.Promotion.Station

/-!
# Order independence of the station latest row

The latest row of a station refines a newest-wins register over the readings
of the processed candidates.  Single writes, the settling transaction of a
batch and the writes of its remaining candidates all preserve the refinement,
so the final row depends on the set of candidates and not on their order or on
the way they are split into calls.
-/

namespace FloodRisk.Promotion
open Newest

variable {env : Environment} {now : ℤ} {payload : EvidencePromotionPayload} {db : Database}

/-! ### Readings -/

/-- What a latest row says about its observation. -/
structure StationReading where
  observedAt : ℤ
  rainfallMm1h : Option ℚ
  rainfallMm24h : Option ℚ
  waterLevelM : Option ℚ
  floodDepthCm : Option ℚ
  warningLevelM : Option ℚ
  deriving DecidableEq

def OfficialRealtimeLatest.reading (row : OfficialRealtimeLatest) : StationReading :=
  ⟨row.observedAt, row.rainfallMm1h, row.rainfallMm24h, row.waterLevelM, row.floodDepthCm,
    row.warningLevelM⟩

def candidateReading (payload : EvidencePromotionPayload) : StationReading :=
  ⟨(awareInstant payload.observedAt).getD 0, payload.properties.rainfallMm1h,
    payload.properties.rainfallMm24h, payload.properties.waterLevelM,
    payload.properties.floodDepthCm, payload.properties.warningLevelM⟩

/-- The register a key of the latest table refines. -/
def storedReading (key : LatestKey) (db : Database) : Option StationReading :=
  (db.officialRealtimeLatest.find key).map OfficialRealtimeLatest.reading

/-! ### Candidates of one key -/

/-- A reviewed observation of the key, outside the central and local pair, with
aware times and an explicit valid point. -/
structure StationObservation (key : LatestKey) (payload : EvidencePromotionPayload) : Prop where
  adapter : payload.adapterKey = some key.1
  event : payload.eventType = key.2.1
  station : officialRealtimeStationId payload = some key.2.2
  reviewed : isReviewedCurrentCandidate payload = true
  notWarning : payload.eventType ≠ .floodWarning
  notLocal : payload.adapterKey ≠ some tainanFloodSensor
  notCentral : payload.adapterKey ≠ some wraIowFloodDepth
  observed : (awareInstant payload.observedAt).isSome
  occurred : payload.occurredAt.isSome → (awareInstant payload.occurredAt).isSome
  geometry : explicitGeometryRejectionReason payload = none
  located : ((geojsonPointGeometry payload.properties).bind pointPosition).isSome
  plain : payload.properties.capMessageType ≠ some .cancel

/-- Not later than fifteen minutes after its generation, or after the clock
when it has none. -/
def notFuture (now : ℤ) (payload : EvidencePromotionPayload) : Prop :=
  (candidateReading payload).observedAt ≤
    (candidateGeneration payload).getD now + fifteenMinutes

namespace StationObservation

variable {key : LatestKey}

theorem isCap (h : StationObservation key payload) :
    isCurrentCapLifecycleCandidate payload = false :=
  isCurrentCapLifecycleCandidate_eq_false h.notWarning

theorem observedAt_eq (h : StationObservation key payload) :
    payload.observedAt = some (.aware (candidateReading payload).observedAt) := by
  obtain ⟨instant, hinstant⟩ := Option.isSome_iff_exists.mp h.observed
  have haware := awareInstant_eq_some.mp hinstant
  simp [candidateReading, haware]

theorem proposedRow (h : StationObservation key payload) : ∃ row, ProposedRow payload row := by
  obtain ⟨geom, hgeom⟩ := Option.isSome_iff_exists.mp h.located
  obtain ⟨row, hrow⟩ := latestRow_isSome h.station hgeom h.adapter h.observedAt_eq 0
  exact ⟨row, latestRow_eq_some hrow⟩

theorem key_eq (h : StationObservation key payload) {row : OfficialRealtimeLatest}
    (hrow : ProposedRow payload row) : row.key = key := by
  have hadapter := Option.some.inj (hrow.adapterKey.symm.trans h.adapter)
  have hstation := Option.some.inj (hrow.stationId.symm.trans h.station)
  simp only [OfficialRealtimeLatest.key, hadapter, hstation, hrow.eventType, h.event]

theorem reading_eq (h : StationObservation key payload) {row : OfficialRealtimeLatest}
    (hrow : ProposedRow payload row) : row.reading = candidateReading payload := by
  have hobserved := hrow.observedAt
  rw [h.observedAt_eq, Option.map_some] at hobserved
  have htime : (candidateReading payload).observedAt = row.observedAt :=
    Option.some.inj hobserved
  simp only [OfficialRealtimeLatest.reading, candidateReading, hrow.rainfallMm1h,
    hrow.rainfallMm24h, hrow.waterLevelM, hrow.floodDepthCm, hrow.warningLevelM] at htime ⊢
  rw [htime]

theorem shouldUpsert (h : StationObservation key payload) :
    shouldUpsertOfficialRealtimeLatest payload = true := by
  simp [shouldUpsertOfficialRealtimeLatest, h.reviewed, h.observedAt_eq]

theorem rejectionReason_eq_none (h : StationObservation key payload)
    (hfuture : notFuture now payload) : currentCandidateRejectionReason now payload = none := by
  have hmetadata : isMetadataInactiveStationCandidate payload = false := by
    simp [isMetadataInactiveStationCandidate, h.notLocal]
  have hrealtime : isRealtimeInactiveStationCandidate payload = false := by
    simp [isRealtimeInactiveStationCandidate, h.notLocal]
  have hoccurred : ¬ ((payload.occurredAt.isSome && (awareInstant payload.occurredAt).isNone) =
      true) := by
    rw [Bool.and_eq_true]
    rintro ⟨hsome, hnone⟩
    have haware := h.occurred hsome
    rw [Option.isNone_iff_eq_none.mp hnone] at haware
    exact Bool.noConfusion haware
  unfold currentCandidateRejectionReason
  simp only [h.reviewed, Bool.not_true, Bool.false_eq_true, if_false, hmetadata, hrealtime,
    h.observedAt_eq, awareInstant_aware, if_neg hoccurred]
  rw [if_neg (not_lt.mpr hfuture)]
  exact h.geometry

theorem insertable (h : StationObservation key payload) (hfuture : notFuture now payload)
    (pending : Pending db payload) : InsertableStation env now payload db := by
  have hadmissible : candidateRejectionReason env now payload = none := by
    rw [candidateRejectionReason_of_not_cap h.isCap]
    exact h.rejectionReason_eq_none hfuture
  have reaches : ReachesPromotion env now payload db :=
    ⟨pending.authorized, hadmissible, fun _ => pending.unused, settleCapCandidate_of_not_cap h.isCap⟩
  have hdistinct : (duplicateDecision env payload db).1 ≠ some .duplicateCentral := by
    rw [duplicateDecision_of_unpaired h.notLocal h.notCentral]
    simp
  exact ⟨⟨h.notWarning, reaches, h.shouldUpsert, h.plain, h.proposedRow,
    pending.resolved, pending.fresh⟩, hdistinct⟩

/-! ### One write -/

theorem stored_of_le (env : Environment) (now : ℤ) (h : StationObservation key payload)
    {row : OfficialRealtimeLatest}
    (hfind : db.officialRealtimeLatest.find key = some row)
    (hle : (candidateReading payload).observedAt ≤ row.observedAt) :
    (writeEvidence env now payload db).2.officialRealtimeLatest.find key = some row := by
  rcases writeEvidence_unpaired_latest env now db h.isCap h.notLocal h.notCentral with
    hlatest | ⟨proposed, hproposed, hlatest⟩
  · rw [hlatest]
    exact hfind
  · have hkey := h.key_eq hproposed
    have htime : proposed.observedAt = (candidateReading payload).observedAt :=
      congrArg StationReading.observedAt (h.reading_eq hproposed)
    have hold : ¬ observedAfter proposed row = true := by
      simp only [observedAfter, decide_eq_true_eq]
      omega
    rw [hlatest, ← hkey, Table.find_upsertWhen_self, hkey, hfind]
    simp only [if_neg hold]

theorem storedReading_write (h : StationObservation key payload) (hfuture : notFuture now payload)
    (pending : Pending db payload) :
    storedReading key (writeEvidence env now payload db).2 =
      absorb StationReading.observedAt (storedReading key db) (candidateReading payload) := by
  have insertable : InsertableStation env now payload db := h.insertable hfuture pending
  obtain ⟨located, hlocated⟩ := h.proposedRow
  have hkey := h.key_eq hlocated
  have htime : located.observedAt = (candidateReading payload).observedAt :=
    congrArg StationReading.observedAt (h.reading_eq hlocated)
  have hpublished : (∀ stored ∈ db.officialRealtimeLatest, stored.key = key →
      stored.observedAt < (candidateReading payload).observedAt) →
      storedReading key (writeEvidence env now payload db).2 = some (candidateReading payload) := by
    intro newer
    rw [← hkey, ← htime] at newer
    obtain ⟨proposed, hproposed, -, hlatest⟩ := insertable.published hlocated newer
    rw [duplicateDecision_of_unpaired h.notLocal h.notCentral] at hlatest
    have hpkey := h.key_eq hproposed
    have hptime := hproposed.observedAt_eq hlocated
    simp only [storedReading, hlatest]
    rw [← hpkey, Table.find_upsertWhen_self, hpkey]
    cases hfind : db.officialRealtimeLatest.find key with
    | none => simp only [Option.map_some, h.reading_eq hproposed]
    | some stored =>
        obtain ⟨hstored, hskey⟩ := Table.find_eq_some_iff.mp hfind
        have hlt := newer stored hstored (hskey.trans hkey.symm)
        have hafter : observedAfter proposed stored = true := by
          simp only [observedAfter, decide_eq_true_eq]
          omega
        simp only [hafter, if_true, Option.map_some, h.reading_eq hproposed]
  cases hfind : db.officialRealtimeLatest.find key with
  | none =>
      rw [hpublished (fun stored hstored hskey =>
        absurd hskey (Table.find_eq_none_iff.mp hfind stored hstored))]
      simp only [storedReading, hfind, Option.map_none, absorb]
  | some stored =>
      obtain ⟨hstored, hskey⟩ := Table.find_eq_some_iff.mp hfind
      by_cases hlt : stored.observedAt < (candidateReading payload).observedAt
      · rw [hpublished (fun other hother hokey => by
          rw [Table.eq_of_key_eq hother hstored (hokey.trans hskey.symm)]
          exact hlt)]
        simp only [storedReading, hfind, Option.map_some, absorb]
        rw [if_pos (show stored.reading.observedAt < _ from hlt)]
      · have hkept := stored_of_le env now h hfind (not_lt.mp hlt)
        simp only [storedReading, hkept, hfind, Option.map_some]
        rw [absorb_of_le (show _ ≤ stored.reading.observedAt from not_lt.mp hlt)]

end StationObservation

/-! ### The refinement -/

/-- The register of the key holds a newest reading of the done candidates, and
the others are still pending. -/
structure Absorbed (key : LatestKey) (done pending : Set EvidencePromotionPayload)
    (db : Database) : Prop where
  newest : IsNewest StationReading.observedAt (candidateReading '' done) (storedReading key db)
  pending : ∀ payload ∈ pending, Pending db payload

/-- Candidates of one key, told apart by their source and raw reference. -/
structure Candidates (key : LatestKey) (all : Set EvidencePromotionPayload) : Prop where
  observation : ∀ payload ∈ all, StationObservation key payload
  distinct : ∀ first ∈ all, ∀ second ∈ all,
    (first.sourceId, first.rawRef) = (second.sourceId, second.rawRef) → first = second

namespace Absorbed

variable {key : LatestKey} {all done pending : Set EvidencePromotionPayload}

theorem write (h : Absorbed key done pending db) (candidates : Candidates key all)
    (hpending : pending ⊆ all) (env : Environment) (hmem : payload ∈ pending)
    (hfuture : notFuture now payload) :
    Absorbed key (insert payload done) (pending \ {payload})
      (writeEvidence env now payload db).2 := by
  have hobservation := candidates.observation payload (hpending hmem)
  refine ⟨?_, ?_⟩
  · rw [Set.image_insert_eq,
      hobservation.storedReading_write hfuture (h.pending payload hmem)]
    exact h.newest.absorb (candidateReading payload)
  · rintro other ⟨hother, hne⟩
    have href : (payload.sourceId, payload.rawRef) ≠ (other.sourceId, other.rawRef) :=
      fun heq => hne (candidates.distinct payload (hpending hmem) other (hpending hother) heq).symm
    exact (h.pending other hother).write (h.pending payload hmem) env now href

/-- Candidates whose reading is not newer than the stored row may be counted as
done when their staging rows are rejected. -/
theorem settle (h : Absorbed key done pending db) (candidates : Candidates key all)
    (hpending : pending ⊆ all) {settled : Set EvidencePromotionPayload} {ids : List ℕ}
    (hsettled : settled ⊆ pending)
    (hold : ∀ payload ∈ settled, ∃ stored, storedReading key db = some stored ∧
      (candidateReading payload).observedAt ≤ stored.observedAt)
    (hids : ∀ id ∈ ids, ∃ payload ∈ settled, validatedStagingId payload = some id)
    (reason : RejectionReason) :
    Absorbed key (settled ∪ done) (pending \ settled) (rejectStagingRows ids reason db) := by
  refine ⟨?_, ?_⟩
  · have hstored : storedReading key (rejectStagingRows ids reason db) = storedReading key db := rfl
    rw [hstored, Set.image_union]
    refine ⟨fun x hx => Or.inr (h.newest.arrived x hx), ?_⟩
    rintro reading (⟨payload, hpayload, rfl⟩ | hreading)
    · exact hold payload hpayload
    · exact h.newest.newest reading hreading
  · rintro other ⟨hother, hnot⟩
    refine (h.pending other hother).rejectStagingRows reason ?_
    intro id hid heq
    obtain ⟨payload, hpayload, hown⟩ := hids id hid
    have hne : (payload.sourceId, payload.rawRef) ≠ (other.sourceId, other.rawRef) := by
      intro hsame
      have hequal := candidates.distinct payload (hpending (hsettled hpayload)) other
        (hpending hother) hsame
      exact hnot (hequal ▸ hpayload)
    exact (h.pending other hother).stagingId_ne (h.pending payload (hsettled hpayload)) hne hown heq

end Absorbed

end FloodRisk.Promotion
