import FloodRisk.Lib.Tombstone
import FloodRisk.Lib.Transition
import FloodRisk.Promotion.Calls
import FloodRisk.Promotion.Message
import FloodRisk.Promotion.Staging

/-!
# Convergence of CAP cancellation

The evidence table and the latest table together refine a display with
tombstones: a stored Update or Cancel keeps out the messages it references,
and takes down those that are on display from a poll that is not newer.
-/

namespace FloodRisk.Promotion
open Tombstone Transition

variable {env : Environment} {now : ℤ} {payload other : EvidencePromotionPayload} {db : Database}
  {display : Display EvidencePromotionPayload}

/-- Alerts and Updates are shown; an Update or Cancel takes down what it
references unless the row comes from a newer poll. -/
def capPolicy : Policy EvidencePromotionPayload where
  shown payload := isAlertOrUpdate payload.properties = true
  cancels := cancels
  recent payload other := generationOf other ≤ generationOf payload

/-- The row that the latest table holds for a stored message. -/
def ShowsMessage (env : Environment) (db : Database) (payload : EvidencePromotionPayload)
    (row : OfficialRealtimeLatest) : Prop :=
  ∃ evidence ∈ db.evidence, StoresMessage env db payload evidence ∧
    latestRow (withAdminAreaEnrichment env payload) evidence.id = some row

def ValidMessage (env : Environment) (payload : EvidencePromotionPayload) : Prop :=
  ∃ now, WarningMessage env now payload

/-- The tables hold the display, and no poll without an active event is recorded. -/
structure RefinesDisplay (env : Environment) (db : Database)
    (display : Display EvidencePromotionPayload) : Prop where
  valid : ∀ message ∈ display.stored, ValidMessage env message
  shown : ∀ message ∈ display.displayed, message ∈ display.stored ∧
    isAlertOrUpdate message.properties = true
  evidence : ∀ row ∈ db.evidence, isCurrentActualWarning row = true →
    ∃ message ∈ display.stored, StoresMessage env db message row
  stored : ∀ message ∈ display.stored, ∃ row ∈ db.evidence, StoresMessage env db message row
  ids : ∀ first ∈ db.evidence, ∀ second ∈ db.evidence, first.id = second.id → first = second
  rows : ∀ row, (row ∈ db.officialRealtimeLatest ∧ row.eventType = .floodWarning) ↔
    ∃ message ∈ display.displayed, ShowsMessage env db message row
  polls : ∀ job ∈ db.ingestionJobs, ∀ adapterKey, isSuccessfulNoActiveJob adapterKey job = false

/-! ### Rows of messages -/

theorem messageIdentity_eq (h : ValidMessage env payload) (k : ValidMessage env other)
    {row : Evidence} (stores : StoresMessage env db payload row)
    (storesOther : StoresMessage env db other row) :
    messageIdentity payload = messageIdentity other := by
  obtain ⟨_, h⟩ := h
  obtain ⟨_, k⟩ := k
  obtain ⟨own, references, generation, identified⟩ := h.identified
  obtain ⟨key, -, hkey⟩ := cap_adapterKey h.lifecycle
  have hidentity : messageIdentity payload =
      (some key, some own, payload.properties.adminCode) := by
    simp only [messageIdentity, hkey, identified.owns]
  have hcanonical := (h.isCanonicalCapMessage_iff stores).mpr hidentity
  rw [hidentity]
  exact ((k.isCanonicalCapMessage_iff storesOther).mp hcanonical).symm

namespace WarningMessage

theorem stationId (h : WarningMessage env now payload)
    (hshown : isAlertOrUpdate payload.properties = true) :
    ∃ own code, ownCapTriple payload.properties = some own ∧
      payload.properties.adminCode = some code ∧
      officialRealtimeStationId (withAdminAreaEnrichment env payload) = some (.cap code own) := by
  have same := (enrichment_same env payload).1
  obtain ⟨own, references, generation, identified⟩ := h.identified
  obtain ⟨code, hcode, hdigits⟩ := identified.code hshown
  refine ⟨own, code, identified.owns, h.adminCode ▸ hcode, ?_⟩
  have hsender : optionalText (some own.sender) = some own.sender := by
    simp only [optionalText, identified.stripped.1, if_neg identified.senderBounds.1]
  have hidentifier : optionalText (some own.identifier) = some own.identifier := by
    simp only [optionalText, identified.stripped.2, if_neg identified.identifierBounds.1]
  simp only [officialRealtimeStationId, same.eventType, cap_eventType h.lifecycle, if_true,
    warningStationId, same.adminCode, hcode, same.capSender, identified.capSender, hsender,
    same.capIdentifier, identified.capIdentifier, hidentifier, same.capSent, identified.capSent,
    awareInstant_aware, hdigits]

theorem exists_latestRow (h : WarningMessage env now payload)
    (hshown : isAlertOrUpdate payload.properties = true) (evidenceId : ℕ) :
    ∃ row, latestRow (withAdminAreaEnrichment env payload) evidenceId = some row := by
  have same := (enrichment_same env payload).1
  obtain ⟨own, code, -, -, hstation⟩ := h.stationId hshown
  obtain ⟨key, -, hkey⟩ := cap_adapterKey h.lifecycle
  obtain ⟨geom, hgeom⟩ := Option.isSome_iff_exists.mp (h.located hshown)
  have hupsert := cap_shouldUpsert h.lifecycle h.admissible
  simp only [shouldUpsertOfficialRealtimeLatest, Bool.and_eq_true] at hupsert
  obtain ⟨observed, hobserved⟩ := Option.isSome_iff_exists.mp hupsert.2
  exact latestRow_isSome hstation hgeom (same.adapterKey.trans hkey)
    (same.observedAt.trans hobserved) evidenceId

end WarningMessage

theorem messageIdentity_of_key (h : ValidMessage env payload) (k : ValidMessage env other)
    (hshown : isAlertOrUpdate payload.properties = true)
    (kshown : isAlertOrUpdate other.properties = true) {first second : ℕ}
    {row otherRow : OfficialRealtimeLatest}
    (hrow : latestRow (withAdminAreaEnrichment env payload) first = some row)
    (krow : latestRow (withAdminAreaEnrichment env other) second = some otherRow)
    (hkey : row.key = otherRow.key) : messageIdentity payload = messageIdentity other := by
  obtain ⟨_, h⟩ := h
  obtain ⟨_, k⟩ := k
  obtain ⟨own, code, hown, hcode, hstation⟩ := h.stationId hshown
  obtain ⟨otherOwn, otherCode, kown, kcode, kstation⟩ := k.stationId kshown
  have proposed := latestRow_eq_some hrow
  have otherProposed := latestRow_eq_some krow
  simp only [OfficialRealtimeLatest.key, Prod.mk.injEq] at hkey
  have hsame := proposed.stationId.symm.trans hstation
  have ksame := otherProposed.stationId.symm.trans kstation
  rw [hkey.2.2, ksame, Option.some.injEq, StationId.cap.injEq] at hsame
  have hadapter : payload.adapterKey = some row.adapterKey := by
    rw [← proposed.adapterKey, (enrichment_same env payload).1.adapterKey]
  have kadapter : other.adapterKey = some otherRow.adapterKey := by
    rw [← otherProposed.adapterKey, (enrichment_same env other).1.adapterKey]
  simp only [messageIdentity, hadapter, kadapter, hkey.1, hown, kown, hcode, kcode, hsame.1,
    hsame.2]

/-- The retirement of a message reaches the row of a shown message exactly when
it cancels it and is not from an older poll. -/
theorem retiredByCapReferences_iff (db : Database) (payload : EvidencePromotionPayload)
    (k : WarningMessage env now other) (hshown : isAlertOrUpdate other.properties = true) {row : OfficialRealtimeLatest}
    {evidence : Evidence} (hevidence : evidence ∈ db.evidence)
    (ids : ∀ linked ∈ db.evidence, linked.id = evidence.id → linked = evidence)
    (stores : StoresMessage env db other evidence)
    (hrow : latestRow (withAdminAreaEnrichment env other) evidence.id = some row) :
    retiredByCapReferences db (effectfulCapReferences payload) (generationOf payload) row = true ↔
      (∃ own, ownCapTriple other.properties = some own ∧ own ∈ effectfulCapReferences payload) ∧
        generationOf other ≤ generationOf payload := by
  have same := (enrichment_same env other).1
  have proposed := latestRow_eq_some hrow
  obtain ⟨own, references, generation, identified⟩ := k.identified
  have hevent : row.eventType = .floodWarning := by
    rw [proposed.eventType, same.eventType, cap_eventType k.lifecycle]
  have hadapter : other.adapterKey = some row.adapterKey := by
    rw [← proposed.adapterKey, same.adapterKey]
  obtain ⟨key, hreviewed, hkey⟩ := cap_adapterKey k.lifecycle
  have hkeyRow : key = row.adapterKey := Option.some.inj (hkey.symm.trans hadapter)
  have hgeneration : row.qualityFlags.ingestionGenerationStartedAt.any
      (fun stored => stored.timestamptz ≤ generationOf payload) =
        decide (generationOf other ≤ generationOf payload) := by
    rw [proposed.generation, same.generation, awareInstant_eq_some.mp identified.dated]
    simp only [Option.any_some, generationOf, identified.dated, Option.getD_some]
    rfl
  have hlinked : (db.evidence.rows.any fun linked =>
      linked.id = row.evidenceId &&
        isRetirableEvidence db (effectfulCapReferences payload) row.adapterKey linked) = true ↔
      ∃ own, ownCapTriple other.properties = some own ∧ own ∈ effectfulCapReferences payload := by
    rw [latestRow_evidenceId hrow, ← k.isRetirableEvidence_iff stores hshown hadapter]
    simp only [List.any_eq_true, Bool.and_eq_true, decide_eq_true_eq]
    constructor
    · rintro ⟨linked, hmem, hid, hretirable⟩
      exact ids linked hmem hid ▸ hretirable
    · exact fun hretirable => ⟨evidence, hevidence, rfl, hretirable⟩
  simp only [retiredByCapReferences, hevent, hkeyRow ▸ hreviewed, decide_true, Bool.true_and,
    hgeneration, Bool.and_eq_true, hlinked, decide_eq_true_eq]

/-! ### A message that is shut out -/

namespace RefinesDisplay

theorem congr (h : RefinesDisplay env db display) {next : Database}
    (hsources : next.dataSources = db.dataSources) (hevidence : next.evidence = db.evidence)
    (hlatest : next.officialRealtimeLatest = db.officialRealtimeLatest)
    (hjobs : next.ingestionJobs = db.ingestionJobs) : RefinesDisplay env next display := by
  have hstores : ∀ message row, StoresMessage env next message row ↔
      StoresMessage env db message row :=
    fun _ _ => ⟨fun k => k.congr hsources.symm, fun k => k.congr hsources⟩
  refine ⟨h.valid, h.shown, ?_, ?_, ?_, ?_, ?_⟩
  · simpa only [hevidence, hstores] using h.evidence
  · simpa only [hevidence, hstores] using h.stored
  · simpa only [hevidence] using h.ids
  · simpa only [hlatest, ShowsMessage, hevidence, hstores] using h.rows
  · simpa only [hjobs] using h.polls

/-- The tombstone query answers as the display. -/
theorem alive_iff (h : RefinesDisplay env db display) (message : WarningMessage env now payload) :
    capRejectionReason now db payload = none ↔ capPolicy.Admits display payload := by
  obtain ⟨own, references, generation, identified⟩ := message.identified
  have hfind : db.evidence.rows.any (isCapTombstone db own) = true ↔
      ∃ z ∈ display.stored, cancels z payload := by
    simp only [List.any_eq_true]
    constructor
    · rintro ⟨row, hrow, htombstone⟩
      have hcurrent : isCurrentActualWarning row = true := by
        simp only [isCapTombstone, Bool.and_eq_true] at htombstone
        exact htombstone.1.1.1.1
      obtain ⟨z, hz, stores⟩ := h.evidence row hrow hcurrent
      obtain ⟨_, hvalid⟩ := h.valid z hz
      obtain ⟨hlifecycle, hmem⟩ := (hvalid.isCapTombstone_iff stores own).mp htombstone
      exact ⟨z, hz, hlifecycle, own, identified.owns, hmem⟩
    · rintro ⟨z, hz, hlifecycle, triple, htriple, hmem⟩
      obtain ⟨row, hrow, stores⟩ := h.stored z hz
      obtain ⟨_, hvalid⟩ := h.valid z hz
      have hsame : triple = own := Option.some.inj (htriple.symm.trans identified.owns)
      exact ⟨row, hrow, (hvalid.isCapTombstone_iff stores own).mpr ⟨hlifecycle, hsame ▸ hmem⟩⟩
  simp only [capRejectionReason, message.shape, identified.owns]
  constructor
  · intro hnone hshown z hz hcancels
    have hany := hfind.mpr ⟨z, hz, hcancels⟩
    have hshown' : isAlertOrUpdate payload.properties = true := hshown
    simp [hany, hshown'] at hnone
  · intro hadmits
    rw [if_neg]
    rw [Bool.and_eq_true]
    rintro ⟨hshown, hany⟩
    obtain ⟨z, hz, hcancels⟩ := hfind.mp hany
    exact hadmits hshown z hz hcancels

theorem write_rejected (h : RefinesDisplay env db display)
    (message : WarningMessage env now payload) (pending : Pending db payload)
    (hadmits : ¬ capPolicy.Admits display payload) :
    RefinesDisplay env (writeEvidence env now payload db).2 display := by
  have hreason : ∃ reason, capRejectionReason now db payload = some reason := by
    refine Option.ne_none_iff_exists'.mp ?_
    exact fun hnone => hadmits ((h.alive_iff message).mp hnone)
  obtain ⟨reason, hreason⟩ := hreason
  have hsettled : settleCapCandidate env now payload db = some (reason, db) := by
    simp only [settleCapCandidate, message.lifecycle, Bool.not_true, Bool.false_eq_true, if_false,
      hreason]
  have hresult : (writeEvidence env now payload db).2 =
      terminallyRejectStaging payload reason
        (decide (authorizeStagingCandidate db payload = some true)) db := by
    simp only [writeEvidence, writeEvidenceTransaction, if_neg pending.authorized,
      message.admissible, decideCandidate, pending.unused, Bool.and_false, Bool.false_eq_true,
      if_false, hsettled]
  have frame := writeEvidence_frame env now payload db
  refine h.congr frame.dataSources ?_ ?_ frame.ingestionJobs
  · rw [hresult, terminallyRejectStaging_evidence]
  · rw [hresult, terminallyRejectStaging_latest]

end RefinesDisplay

/-! ### A message that is admitted -/

def Catalogued (db : Database) (payload : EvidencePromotionPayload) : Prop :=
  ∃ source, resolvedDataSource db payload = some source ∧
    (db.dataSources.rows.find? (fun other => other.id = source.id)).map DataSource.adapterKey =
      payload.adapterKey

namespace RefinesDisplay

theorem unblocked (h : RefinesDisplay env db display) (payload : EvidencePromotionPayload) :
    blockingNoActiveGeneration payload db = none := by
  have hmax : maxSuccessfulNoActiveEventGeneration db payload = none := by
    unfold maxSuccessfulNoActiveEventGeneration
    split
    · rfl
    · rename_i adapterKey hkey
      have hnone : db.ingestionJobs.filter (isSuccessfulNoActiveJob adapterKey) = [] := by
        refine List.filter_eq_nil_iff.mpr ?_
        intro job hjob
        simp [h.polls job hjob adapterKey]
      simp [hnone]
  simp [blockingNoActiveGeneration, hmax]

theorem unstored (h : RefinesDisplay env db display) (message : WarningMessage env now payload)
    (distinct : ∀ other ∈ display.stored, messageIdentity other ≠ messageIdentity payload) :
    canonicalCapMessageEvidenceId db payload = none := by
  obtain ⟨own, references, generation, identified⟩ := message.identified
  obtain ⟨key, -, hkey⟩ := cap_adapterKey message.lifecycle
  simp only [canonicalCapMessageEvidenceId, hkey, identified.owns, Option.map_eq_none_iff,
    List.find?_eq_none]
  intro row hrow hcanonical
  have hcurrent : isCurrentActualWarning row = true := by
    simp only [isCanonicalCapMessage, Bool.and_eq_true] at hcanonical
    exact hcanonical.1.1.1.1.2
  obtain ⟨other, hother, stores⟩ := h.evidence row hrow hcurrent
  obtain ⟨_, hvalid⟩ := h.valid other hother
  have hidentity := (hvalid.isCanonicalCapMessage_iff stores).mp hcanonical
  refine distinct other hother ?_
  rw [hidentity]
  simp only [messageIdentity, hkey, identified.owns, message.adminCode]

theorem insertsWarning (h : RefinesDisplay env db display)
    (message : WarningMessage env now payload) (pending : Pending db payload)
    (hadmits : capPolicy.Admits display payload)
    (distinct : ∀ other ∈ display.stored, messageIdentity other ≠ messageIdentity payload)
    {source : DataSource} (hsource : resolvedDataSource db payload = some source) :
    ∃ evidence, InsertsWarning env now payload db evidence ∧
      ∀ row, row ∈ evidence ↔ row ∈ db.evidence ∨
        row = evidenceRow (withAdminAreaEnrichment env payload) source
          (freshId (db.evidence.rows.map Evidence.id)) := by
  have hweighted : weightedPayload env payload db = withAdminAreaEnrichment env payload :=
    weightedPayload_of_unblocked (h.unblocked payload)
  have hfree : ∀ row ∈ db.evidence, row.sourceRawRef ≠
      (evidenceRow (withAdminAreaEnrichment env payload) source
        (freshId (db.evidence.rows.map Evidence.id))).sourceRawRef := by
    intro row hrow
    rw [(enrichment_same env payload).1.sourceRawRef_eq]
    exact pending.fresh row hrow
  obtain ⟨evidence, hevidence⟩ := Table.insertNew_isSome hfree
  refine ⟨evidence, ⟨⟨message.lifecycle, pending.authorized, message.admissible,
    fun _ => pending.unused, (h.alive_iff message).mpr hadmits, message.bounded⟩,
    h.unstored message distinct, source, hsource, ?_⟩, fun row => Table.mem_of_insertNew hevidence⟩
  rw [hweighted]
  exact hevidence

theorem mem_retired_iff (h : RefinesDisplay env db display)
    (message : WarningMessage env now payload) {evidence : Table Evidence.sourceRawRef}
    (hold : ∀ row ∈ db.evidence, row ∈ evidence)
    (ids : ∀ first ∈ evidence, ∀ second ∈ evidence, first.id = second.id → first = second)
    (row : OfficialRealtimeLatest) :
    (row ∈ (retiredDatabase env payload db evidence).officialRealtimeLatest ∧
        row.eventType = .floodWarning) ↔
      ∃ other ∈ display.displayed, ShowsMessage env db other row ∧
        ¬ (cancels payload other ∧ generationOf other ≤ generationOf payload) := by
  have same := (enrichment_same env payload).1
  obtain ⟨own, references, generation, identified⟩ := message.identified
  have hgeneration : candidateGeneration (withAdminAreaEnrichment env payload) =
      some (generationOf payload) := by
    rw [candidateGeneration, same.generation]
    simp only [generationOf, identified.dated, Option.getD_some]
    exact identified.dated
  have heffectful : effectfulCapReferences (withAdminAreaEnrichment env payload) =
      effectfulCapReferences payload := by
    simp only [effectfulCapReferences, ownCapTriple, same.capSender, same.capIdentifier,
      same.capSent, same.capReferences]
  have hretired : ∀ other ∈ display.displayed, ShowsMessage env db other row →
      (row ∈ (retiredDatabase env payload db evidence).officialRealtimeLatest ↔
        row ∈ db.officialRealtimeLatest ∧
          ¬ (cancels payload other ∧ generationOf other ≤ generationOf payload)) := by
    intro other hother shows
    obtain ⟨linked, hlinked, stores, hrow⟩ := shows
    obtain ⟨hstored, hshown⟩ := h.shown other hother
    obtain ⟨_, hvalid⟩ := h.valid other hstored
    have hiff := retiredByCapReferences_iff { db with evidence := evidence } payload hvalid hshown
      (hold linked hlinked) (fun next hnext hid => ids next hnext linked (hold linked hlinked) hid)
      (stores.congr rfl) hrow
    simp only [retiredDatabase, h.unblocked payload, Option.isNone_none, Bool.true_and]
    cases hlifecycle : isUpdateOrCancel payload.properties with
    | false => simp [cancels, hlifecycle]
    | true =>
        simp only [if_true, retireCapReferences, hgeneration, heffectful, Table.mem_deleteWhere,
          cancels, hlifecycle, true_and, ← hiff, Bool.not_eq_true]
  constructor
  · rintro ⟨hmem, hevent⟩
    obtain ⟨other, hother, shows⟩ := (h.rows row).mp ⟨retiredDatabase_subset hmem, hevent⟩
    exact ⟨other, hother, shows, ((hretired other hother shows).mp hmem).2⟩
  · rintro ⟨other, hother, shows, hkept⟩
    obtain ⟨hmem, hevent⟩ := (h.rows row).mpr ⟨other, hother, shows⟩
    exact ⟨(hretired other hother shows).mpr ⟨hmem, hkept⟩, hevent⟩

theorem storesMessage_new (message : WarningMessage env now payload) {source : DataSource}
    (hsource : resolvedDataSource db payload = some source) (catalogued : Catalogued db payload)
    (id : ℕ) :
    StoresMessage env db payload
      (evidenceRow (withAdminAreaEnrichment env payload) source id) := by
  obtain ⟨listed, hlisted, hkey⟩ := catalogued
  obtain ⟨key, -, hadapter⟩ := cap_adapterKey message.lifecycle
  have hsame : listed = source := Option.some.inj (hlisted.symm.trans hsource)
  refine ⟨source, rfl, ?_⟩
  rw [hsame, hadapter] at hkey
  have hor := congrArg
    (fun found => found.or (withAdminAreaEnrichment env payload).properties.adapterKey) hkey
  rw [hadapter]
  exact hor

end RefinesDisplay

/-- The write of an admitted message that the display does not know: `evidence`
is the table after the insert of its row `new`. -/
structure AdmittedWrite (env : Environment) (now : ℤ) (payload : EvidencePromotionPayload)
    (db : Database) (display : Display EvidencePromotionPayload)
    (evidence : Table Evidence.sourceRawRef) (new : Evidence) : Prop where
  refines : RefinesDisplay env db display
  message : WarningMessage env now payload
  admits : capPolicy.Admits display payload
  distinct : ∀ other ∈ display.stored, messageIdentity other ≠ messageIdentity payload
  inserts : InsertsWarning env now payload db evidence
  mem_iff : ∀ row, row ∈ evidence ↔ row ∈ db.evidence ∨ row = new
  stores : StoresMessage env db payload new
  newId : new.id = freshId (db.evidence.rows.map Evidence.id)

namespace AdmittedWrite

variable {evidence : Table Evidence.sourceRawRef} {new : Evidence}
  {row newRow : OfficialRealtimeLatest}

theorem dataSources (_ : AdmittedWrite env now payload db display evidence new) :
    (writeEvidence env now payload db).2.dataSources = db.dataSources :=
  (writeEvidence_frame env now payload db).dataSources

theorem old (h : AdmittedWrite env now payload db display evidence new) {row : Evidence}
    (hrow : row ∈ db.evidence) : row ∈ evidence :=
  (h.mem_iff row).mpr (Or.inl hrow)

theorem ids (h : AdmittedWrite env now payload db display evidence new) :
    ∀ first ∈ evidence, ∀ second ∈ evidence, first.id = second.id → first = second := by
  have hfresh : ∀ row ∈ db.evidence, row.id ≠ new.id := by
    intro row hrow heq
    rw [h.newId] at heq
    exact freshId_not_mem _ (List.mem_map.mpr ⟨row, hrow, heq⟩)
  intro first hfirst second hsecond heq
  rcases (h.mem_iff first).mp hfirst with ofirst | nfirst
  · rcases (h.mem_iff second).mp hsecond with osecond | nsecond
    · exact h.refines.ids first ofirst second osecond heq
    · exact absurd (heq.trans (congrArg Evidence.id nsecond)) (hfresh first ofirst)
  · rcases (h.mem_iff second).mp hsecond with osecond | nsecond
    · exact absurd (heq.symm.trans (congrArg Evidence.id nfirst)) (hfresh second osecond)
    · rw [nfirst, nsecond]

theorem database_eq (h : AdmittedWrite env now payload db display evidence new) :
    (writeEvidence env now payload db).2 =
      if isAlertOrUpdate payload.properties then
        upsertOfficialRealtimeLatest (withAdminAreaEnrichment env payload) new.id
          (retiredDatabase env payload db evidence)
      else retiredDatabase env payload db evidence := by
  have hpublishes : publishesWarning payload db = isAlertOrUpdate payload.properties := by
    simp only [publishesWarning, h.refines.unblocked payload, Option.isNone_none, Bool.true_and]
  have hwrite := h.inserts.write_eq
  rw [hpublishes, ← h.newId] at hwrite
  exact hwrite

theorem evidence_eq (h : AdmittedWrite env now payload db display evidence new) :
    (writeEvidence env now payload db).2.evidence = evidence := by
  have hretired : (retiredDatabase env payload db evidence).evidence = evidence := by
    unfold retiredDatabase
    split
    · exact (SameOutsideLatest.retireReferences _ _).evidence
    · rfl
  rw [h.database_eq]
  split
  · rw [(SameOutsideLatest.upsert _ _ _).evidence, hretired]
  · exact hretired

theorem shows_iff (h : AdmittedWrite env now payload db display evidence new)
    {other : EvidencePromotionPayload} (hother : other ∈ display.displayed) :
    ShowsMessage env (writeEvidence env now payload db).2 other row ↔
      ShowsMessage env db other row := by
  obtain ⟨hstored, -⟩ := h.refines.shown other hother
  constructor
  · rintro ⟨linked, hlinked, stores, hrow⟩
    rw [h.evidence_eq] at hlinked
    rcases (h.mem_iff linked).mp hlinked with hold | hnew
    · exact ⟨linked, hold, stores.congr h.dataSources.symm, hrow⟩
    · rw [hnew] at stores
      have hsame := messageIdentity_eq (h.refines.valid other hstored) ⟨now, h.message⟩
        (stores.congr h.dataSources.symm) h.stores
      exact absurd hsame (h.distinct other hstored)
  · rintro ⟨linked, hlinked, stores, hrow⟩
    exact ⟨linked, h.evidence_eq ▸ h.old hlinked, stores.congr h.dataSources, hrow⟩

theorem shows_own_iff (h : AdmittedWrite env now payload db display evidence new)
    (hnewRow : latestRow (withAdminAreaEnrichment env payload) new.id = some newRow) :
    ShowsMessage env (writeEvidence env now payload db).2 payload row ↔ row = newRow := by
  constructor
  · rintro ⟨linked, hlinked, stores, hrow⟩
    rw [h.evidence_eq] at hlinked
    rcases (h.mem_iff linked).mp hlinked with hold | hlast
    · obtain ⟨other, hother, ostores⟩ :=
        h.refines.evidence linked hold (h.message.messageRow stores).current
      exact absurd (messageIdentity_eq (h.refines.valid other hother) ⟨now, h.message⟩ ostores
        (stores.congr h.dataSources.symm)) (h.distinct other hother)
    · rw [hlast, hnewRow] at hrow
      exact (Option.some.inj hrow).symm
  · intro heq
    rw [heq]
    exact ⟨new, h.evidence_eq ▸ (h.mem_iff new).mpr (Or.inr rfl), h.stores.congr h.dataSources,
      hnewRow⟩

theorem mem_kept_iff (h : AdmittedWrite env now payload db display evidence new) :
    (row ∈ (retiredDatabase env payload db evidence).officialRealtimeLatest ∧
        row.eventType = .floodWarning) ↔
      ∃ other ∈ display.displayed,
        ¬ (capPolicy.Admits display payload ∧ cancels payload other ∧
          generationOf other ≤ generationOf payload) ∧
        ShowsMessage env (writeEvidence env now payload db).2 other row := by
  rw [h.refines.mem_retired_iff h.message (fun _ => h.old) h.ids row]
  constructor
  · rintro ⟨other, hother, shows, hnot⟩
    exact ⟨other, hother, fun hand => hnot hand.2, (h.shows_iff hother).mpr shows⟩
  · rintro ⟨other, hother, hnot, shows⟩
    exact ⟨other, hother, (h.shows_iff hother).mp shows, fun hand => hnot ⟨h.admits, hand⟩⟩

/-- A Cancel leaves the rows that it does not retire. -/
theorem rows_of_cancel (h : AdmittedWrite env now payload db display evidence new)
    (hshown : isAlertOrUpdate payload.properties = false) :
    (row ∈ (writeEvidence env now payload db).2.officialRealtimeLatest ∧
        row.eventType = .floodWarning) ↔
      ∃ other ∈ (capPolicy.step display payload).displayed,
        ShowsMessage env (writeEvidence env now payload db).2 other row := by
  have hwrite := h.database_eq
  rw [hshown, if_neg Bool.false_ne_true] at hwrite
  rw [hwrite, h.mem_kept_iff, ← hwrite]
  constructor
  · rintro ⟨other, hother, hnot, shows⟩
    exact ⟨other, Or.inl ⟨hother, hnot⟩, shows⟩
  · rintro ⟨other, ⟨hother, hnot⟩ | ⟨-, hcontra, -⟩, shows⟩
    · exact ⟨other, hother, hnot, shows⟩
    · exact absurd (hshown.symm.trans hcontra) Bool.false_ne_true

/-- No displayed message has the key of the new row. -/
theorem key_free (h : AdmittedWrite env now payload db display evidence new)
    (hshown : isAlertOrUpdate payload.properties = true)
    (hnewRow : latestRow (withAdminAreaEnrichment env payload) new.id = some newRow)
    (hevent : newRow.eventType = .floodWarning)
    (hrow : row ∈ (retiredDatabase env payload db evidence).officialRealtimeLatest) :
    row.key ≠ newRow.key := by
  intro hkey
  have hsame : row.eventType = newRow.eventType := congrArg (fun key => key.2.1) hkey
  obtain ⟨other, hother, linked, -, -, hlinked⟩ :=
    (h.refines.rows row).mp ⟨retiredDatabase_subset hrow, hsame.trans hevent⟩
  obtain ⟨hstored, hother⟩ := h.refines.shown other hother
  exact h.distinct other hstored (messageIdentity_of_key (h.refines.valid other hstored)
    ⟨now, h.message⟩ hother hshown hlinked hnewRow hkey)

/-- An Alert or Update adds its row to those that it does not retire. -/
theorem rows_of_shown (h : AdmittedWrite env now payload db display evidence new)
    (hshown : isAlertOrUpdate payload.properties = true) :
    (row ∈ (writeEvidence env now payload db).2.officialRealtimeLatest ∧
        row.eventType = .floodWarning) ↔
      ∃ other ∈ (capPolicy.step display payload).displayed,
        ShowsMessage env (writeEvidence env now payload db).2 other row := by
  obtain ⟨newRow, hnewRow⟩ := h.message.exists_latestRow hshown new.id
  have hevent : newRow.eventType = .floodWarning := by
    rw [(latestRow_eq_some hnewRow).eventType, (enrichment_same env payload).1.eventType,
      cap_eventType h.message.lifecycle]
  have hlatest : (row ∈ (writeEvidence env now payload db).2.officialRealtimeLatest ∧
        row.eventType = .floodWarning) ↔
      row = newRow ∨ (row ∈ (retiredDatabase env payload db evidence).officialRealtimeLatest ∧
        row.eventType = .floodWarning) := by
    rw [h.database_eq, hshown, if_pos rfl, upsert_latest_of_row hnewRow, Table.mem_upsertWhen]
    constructor
    · rintro ⟨⟨heq, -⟩ | ⟨hrow, -⟩, hrevent⟩
      · exact Or.inl heq
      · exact Or.inr ⟨hrow, hrevent⟩
    · rintro (heq | ⟨hrow, hrevent⟩)
      · refine ⟨Or.inl ⟨heq, fun stored hstored hkey => ?_⟩, by rw [heq, hevent]⟩
        exact absurd hkey (h.key_free hshown hnewRow hevent hstored)
      · exact ⟨Or.inr ⟨hrow, fun hand => h.key_free hshown hnewRow hevent hrow hand.1⟩, hrevent⟩
  rw [hlatest, h.mem_kept_iff]
  constructor
  · rintro (heq | ⟨other, hother, hnot, shows⟩)
    · exact ⟨payload, Or.inr ⟨rfl, hshown, h.admits⟩, (h.shows_own_iff hnewRow).mpr heq⟩
    · exact ⟨other, Or.inl ⟨hother, hnot⟩, shows⟩
  · rintro ⟨other, ⟨hother, hnot⟩ | ⟨rfl, -, -⟩, shows⟩
    · exact Or.inr ⟨other, hother, hnot, shows⟩
    · exact Or.inl ((h.shows_own_iff hnewRow).mp shows)

end AdmittedWrite

namespace RefinesDisplay

theorem write_admitted (h : RefinesDisplay env db display)
    (message : WarningMessage env now payload) (pending : Pending db payload)
    (catalogued : Catalogued db payload) (hadmits : capPolicy.Admits display payload)
    (distinct : ∀ other ∈ display.stored, messageIdentity other ≠ messageIdentity payload) :
    RefinesDisplay env (writeEvidence env now payload db).2 (capPolicy.step display payload) := by
  obtain ⟨source, hsource⟩ := Option.isSome_iff_exists.mp pending.resolved
  obtain ⟨evidence, inserts, hmem⟩ := h.insertsWarning message pending hadmits distinct hsource
  have write : AdmittedWrite env now payload db display evidence
      (evidenceRow (withAdminAreaEnrichment env payload) source
        (freshId (db.evidence.rows.map Evidence.id))) :=
    ⟨h, message, hadmits, distinct, inserts, hmem,
      storesMessage_new message hsource catalogued _, rfl⟩
  have hsources := write.dataSources
  refine ⟨?_, ?_, ?_, ?_, ?_, ?_, ?_⟩
  · intro other hother
    rcases Policy.mem_stored_step.mp hother with hstored | ⟨rfl, -⟩
    · exact h.valid other hstored
    · exact ⟨now, message⟩
  · intro other hother
    rcases Policy.mem_displayed_step.mp hother with ⟨hdisplayed, -⟩ | ⟨rfl, hshown, hadmitted⟩
    · exact ⟨Or.inl (h.shown other hdisplayed).1, (h.shown other hdisplayed).2⟩
    · exact ⟨Or.inr ⟨rfl, hadmitted⟩, hshown⟩
  · intro row hrow hcurrent
    rw [write.evidence_eq] at hrow
    rcases (hmem row).mp hrow with hold | hnew
    · obtain ⟨other, hother, stores⟩ := h.evidence row hold hcurrent
      exact ⟨other, Or.inl hother, stores.congr hsources⟩
    · refine ⟨payload, Or.inr ⟨rfl, hadmits⟩, ?_⟩
      rw [hnew]
      exact write.stores.congr hsources
  · intro other hother
    rw [write.evidence_eq]
    rcases Policy.mem_stored_step.mp hother with hstored | ⟨rfl, -⟩
    · obtain ⟨row, hrow, stores⟩ := h.stored other hstored
      exact ⟨row, write.old hrow, stores.congr hsources⟩
    · exact ⟨_, (hmem _).mpr (Or.inr rfl), write.stores.congr hsources⟩
  · rw [write.evidence_eq]
    exact write.ids
  · intro row
    cases hshown : isAlertOrUpdate payload.properties with
    | false => exact write.rows_of_cancel hshown
    | true => exact write.rows_of_shown hshown
  · rw [(writeEvidence_frame env now payload db).ingestionJobs]
    exact h.polls

end RefinesDisplay

/-! ### Runs -/

/-- Distinct valid messages whose candidates wait for their promotion, each
valid at the clock of its own call. -/
structure CapMessages (env : Environment) (db : Database)
    (calls : List (ℤ × EvidencePromotionPayload)) : Prop where
  valid : ∀ call ∈ calls, WarningMessage env call.1 call.2
  pending : ∀ call ∈ calls, Pending db call.2
  catalogued : ∀ call ∈ calls, Catalogued db call.2
  identities : (calls.map fun call => messageIdentity call.2).Nodup
  references : (calls.map fun call => (call.2.sourceId, call.2.rawRef)).Nodup

theorem CapMessages.write {call : ℤ × EvidencePromotionPayload}
    {rest : List (ℤ × EvidencePromotionPayload)} (h : CapMessages env db (call :: rest)) :
    CapMessages env (writeStep env db call) rest := by
  have frame := writeEvidence_frame env call.1 call.2 db
  have hrest : ∀ other ∈ rest, other ∈ call :: rest := fun other => List.mem_cons_of_mem call
  refine ⟨fun other hother => h.valid other (hrest other hother), ?_, ?_,
    (List.nodup_cons.mp h.identities).2, (List.nodup_cons.mp h.references).2⟩
  · intro other hother
    refine (h.pending other (hrest other hother)).write (h.pending call List.mem_cons_self) env
      call.1 ?_
    exact fun heq => (List.nodup_cons.mp h.references).1 (List.mem_map.mpr ⟨other, hother, heq.symm⟩)
  · intro other hother
    obtain ⟨source, hsource, hkey⟩ := h.catalogued other (hrest other hother)
    refine ⟨source, ?_, ?_⟩
    · exact (resolvedDataSource_congr frame.dataSources other.2).trans hsource
    · rw [show (writeStep env db call).dataSources = db.dataSources from frame.dataSources]
      exact hkey

/-- The tables refine the display through every order of the messages. -/
theorem RefinesDisplay.run {calls : List (ℤ × EvidencePromotionPayload)}
    (h : RefinesDisplay env db display) (messages : CapMessages env db calls)
    (distinct : ∀ other ∈ display.stored, ∀ call ∈ calls,
      messageIdentity other ≠ messageIdentity call.2) :
    RefinesDisplay env (Transition.run (writeStep env) db calls)
      (capPolicy.run display (calls.map Prod.snd)) := by
  induction calls generalizing db display with
  | nil => exact h
  | cons call rest ih =>
      have message := messages.valid call List.mem_cons_self
      have pending := messages.pending call List.mem_cons_self
      have hdistinct : ∀ other ∈ display.stored, messageIdentity other ≠ messageIdentity call.2 :=
        fun other hother => distinct other hother call List.mem_cons_self
      have hnext : RefinesDisplay env (writeStep env db call) (capPolicy.step display call.2) := by
        by_cases hadmits : capPolicy.Admits display call.2
        · exact h.write_admitted message pending (messages.catalogued call List.mem_cons_self)
            hadmits hdistinct
        · rw [Policy.step_of_not_admits hadmits]
          exact h.write_rejected message pending hadmits
      refine ih hnext messages.write ?_
      intro other hother next hnextCall
      rcases Policy.mem_stored_step.mp hother with hstored | ⟨heq, -⟩
      · exact distinct other hstored next (List.mem_cons_of_mem call hnextCall)
      · rw [heq]
        intro hsame
        exact (List.nodup_cons.mp messages.identities).1
          (List.mem_map.mpr ⟨next, hnextCall, hsame.symm⟩)

/-- No warning is stored or shown, and no poll without an active event is recorded. -/
structure NoWarnings (db : Database) : Prop where
  evidence : ∀ row ∈ db.evidence, isCurrentActualWarning row = false
  ids : ∀ first ∈ db.evidence, ∀ second ∈ db.evidence, first.id = second.id → first = second
  latest : ∀ row ∈ db.officialRealtimeLatest, row.eventType ≠ .floodWarning
  polls : ∀ job ∈ db.ingestionJobs, ∀ adapterKey, isSuccessfulNoActiveJob adapterKey job = false

theorem NoWarnings.refines (h : NoWarnings db) (env : Environment) :
    RefinesDisplay env db Display.empty := by
  refine ⟨fun _ hm => absurd hm (Set.notMem_empty _), fun _ hm => absurd hm (Set.notMem_empty _),
    ?_, fun _ hm => absurd hm (Set.notMem_empty _), h.ids, ?_, h.polls⟩
  · intro row hrow hcurrent
    rw [h.evidence row hrow] at hcurrent
    exact Bool.noConfusion hcurrent
  · intro row
    constructor
    · exact fun hrow => absurd hrow.2 (h.latest row hrow.1)
    · rintro ⟨message, hmem, -⟩
      exact absurd hmem (Set.notMem_empty message)

/-! ### The order of the messages -/

def processedBefore (messages : List EvidencePromotionPayload)
    (first second : EvidencePromotionPayload) : Prop :=
  messages.idxOf first < messages.idxOf second

theorem pairwise_processedBefore {messages : List EvidencePromotionPayload}
    (hnodup : messages.Nodup) : messages.Pairwise (processedBefore messages) := by
  rw [List.pairwise_iff_getElem]
  intro i j hi hj hij
  simp only [processedBefore, hnodup.idxOf_getElem]
  exact hij

/-- `payload` takes `other` off the display: it references it with an earlier
sent time, and it is processed first or its poll is not older. -/
def retires (messages : List EvidencePromotionPayload)
    (payload other : EvidencePromotionPayload) : Prop :=
  capPolicy.Retires (processedBefore messages) payload other

/-- A message that arrives before an Update it references also retires what the
Update retires. -/
def RelaysRetirement (messages : List EvidencePromotionPayload) : Prop :=
  ∀ first ∈ messages, ∀ update ∈ messages, ∀ other ∈ messages,
    processedBefore messages first update → isAlertOrUpdate update.properties = true →
    cancels first update → retires messages update other → retires messages first other

/-- After all messages the rows of warnings are those of the Alerts and Updates
that no Update or Cancel retires, and each of these has one. -/
theorem warning_rows_converge {calls : List (ℤ × EvidencePromotionPayload)}
    (start : NoWarnings db) (messages : CapMessages env db calls)
    (relays : RelaysRetirement (calls.map Prod.snd)) :
    (∀ row : OfficialRealtimeLatest,
      (row ∈ (run (writeStep env) db calls).officialRealtimeLatest ∧
          row.eventType = .floodWarning) ↔
        ∃ message ∈ calls.map Prod.snd, isAlertOrUpdate message.properties = true ∧
          (∀ other ∈ calls.map Prod.snd, ¬ retires (calls.map Prod.snd) other message) ∧
          ShowsMessage env (run (writeStep env) db calls) message row) ∧
    ∀ message ∈ calls.map Prod.snd, isAlertOrUpdate message.properties = true →
      (∀ other ∈ calls.map Prod.snd, ¬ retires (calls.map Prod.snd) other message) →
      ∃ row, ShowsMessage env (run (writeStep env) db calls) message row := by
  have hnodup : (calls.map Prod.snd).Nodup := by
    refine List.Nodup.of_map messageIdentity ?_
    rw [List.map_map]
    exact messages.identities
  have refines := (start.refines env).run messages
    (fun other hother => absurd hother (Set.notMem_empty other))
  have settled : capPolicy.Settled (processedBefore (calls.map Prod.snd)) (calls.map Prod.snd)
      (capPolicy.run Display.empty (calls.map Prod.snd)) :=
    Policy.displayed_run (pairwise_processedBefore hnodup)
      (fun _ _ hxy hyx => Nat.lt_asymm hxy hyx) (fun message _ => not_cancels_self message) relays
  refine ⟨?_, ?_⟩
  · intro row
    rw [refines.rows row]
    constructor
    · rintro ⟨message, hmem, shows⟩
      obtain ⟨hin, hshown, hfree⟩ := (settled.displayed message).mp hmem
      exact ⟨message, hin, hshown, hfree, shows⟩
    · rintro ⟨message, hin, hshown, hfree, shows⟩
      exact ⟨message, (settled.displayed message).mpr ⟨hin, hshown, hfree⟩, shows⟩
  · intro message hin hshown hfree
    have hmem := (settled.displayed message).mpr ⟨hin, hshown, hfree⟩
    have hstored := (refines.shown message hmem).1
    obtain ⟨evidence, hevidence, stores⟩ := refines.stored message hstored
    obtain ⟨_, hvalid⟩ := refines.valid message hstored
    obtain ⟨row, hrow⟩ := hvalid.exists_latestRow hshown evidence.id
    exact ⟨row, evidence, hevidence, stores, hrow⟩

/-! ### An Alert and its Cancel -/

/-- An Alert and a Cancel that references it, each in a poll of its own. -/
def stagedCancellation (alertGeneration cancelGeneration : ℤ) : Database :=
  writeBatch
    { adapterKey := ncdrCap, rawRef := "raw/2",
      accepted := [warningItem ncdrCap "C1" 1100 cancelGeneration .cancel
        [canonicalReference ⟨"cwa", "A1", 1000⟩]] }
    (writeBatch
      { adapterKey := ncdrCap, rawRef := "raw/1",
        accepted := [warningItem ncdrCap "A1" 1000 alertGeneration .alert []] }
      (catalogued [ncdrCap]))

def cancellationCalls (alertGeneration cancelGeneration : ℤ) :
    List (ℤ × EvidencePromotionPayload) :=
  (fetchAcceptedStaging none none none (stagedCancellation alertGeneration cancelGeneration)).map
    (Prod.mk 6000)

theorem noWarnings_staged (alertGeneration cancelGeneration : ℤ) :
    NoWarnings (stagedCancellation alertGeneration cancelGeneration) :=
  ⟨fun _ hrow => absurd hrow List.not_mem_nil, fun _ hrow => absurd hrow List.not_mem_nil,
    fun _ hrow => absurd hrow List.not_mem_nil, fun _ hjob => absurd hjob List.not_mem_nil⟩

/-- The fields of `CapMessages` that are evaluated on the staged candidates. -/
def checkedCalls (db : Database) (calls : List (ℤ × EvidencePromotionPayload)) : Prop :=
  (∀ call ∈ calls,
    isCurrentCapLifecycleCandidate call.2 = true ∧
    candidateRejectionReason bareEnvironment call.1 call.2 = none ∧
    capShapeRejectionReason call.1 call.2 = none ∧
    call.2.properties.capSender = (ownCapTriple call.2.properties).map CapTriple.sender ∧
    call.2.properties.capIdentifier = (ownCapTriple call.2.properties).map CapTriple.identifier ∧
    optionalText call.2.properties.adminCode = call.2.properties.adminCode ∧
    call.2.properties.capReferences =
      (capReferenceTriples call.2.properties.capReferences).map (List.map canonicalReference) ∧
    warningBoundaryRejectionReason (withAdminAreaEnrichment bareEnvironment call.2) = none ∧
    ((geojsonPointGeometry (withAdminAreaEnrichment bareEnvironment call.2).properties).bind
      pointPosition).isSome = true ∧
    authorizeStagingCandidate db call.2 = some true ∧
    stagingEvidenceWasAlreadyUsed db call.2 = false ∧
    ((resolvedDataSource db call.2).bind fun source =>
      (db.dataSources.rows.find? (fun other => other.id = source.id)).map DataSource.adapterKey) =
        call.2.adapterKey ∧
    call.2.adapterKey.isSome) ∧
  (calls.map fun call => messageIdentity call.2).Nodup ∧
  (calls.map fun call => (call.2.sourceId, call.2.rawRef)).Nodup

instance (db : Database) (calls : List (ℤ × EvidencePromotionPayload)) :
    Decidable (checkedCalls db calls) :=
  inferInstanceAs (Decidable (_ ∧ _))

theorem capMessages_of_checked {calls : List (ℤ × EvidencePromotionPayload)}
    (hevidence : db.evidence.rows = []) (h : checkedCalls db calls) :
    CapMessages bareEnvironment db calls := by
  obtain ⟨hcalls, hidentities, hreferences⟩ := h
  refine ⟨?_, ?_, ?_, hidentities, hreferences⟩
  · intro call hcall
    obtain ⟨hlifecycle, hadmissible, hshape, hsender, hidentifier, hcode, hstaged, hbounded,
      hlocated, -⟩ := hcalls call hcall
    exact ⟨hlifecycle, hadmissible, hshape, hsender, hidentifier, hcode, hstaged, hbounded,
      fun _ => hlocated⟩
  · intro call hcall
    obtain ⟨-, -, -, -, -, -, -, -, -, hauthorized, hunused, hsource, hadapter⟩ := hcalls call hcall
    refine ⟨by simp [hauthorized], hunused, ?_, ?_⟩
    · cases hresolved : resolvedDataSource db call.2 with
      | some source => rfl
      | none =>
          rw [hresolved, Option.bind_none] at hsource
          rw [← hsource] at hadapter
          exact absurd hadapter (by simp)
    · intro row hrow
      rw [Table.mem_def, hevidence] at hrow
      exact absurd hrow List.not_mem_nil
  · intro call hcall
    obtain ⟨-, -, -, -, -, -, -, -, -, -, -, hsource, hadapter⟩ := hcalls call hcall
    cases hresolved : resolvedDataSource db call.2 with
    | some source =>
        rw [hresolved, Option.bind_some] at hsource
        exact ⟨source, hresolved, hsource⟩
    | none =>
        rw [hresolved, Option.bind_none] at hsource
        rw [← hsource] at hadapter
        exact absurd hadapter (by simp)

/-- A Cancel from a later poll takes the Alert down. -/
theorem cancelled_alert_is_taken_down :
    ((run (writeStep bareEnvironment) (stagedCancellation 2000 3000)
      (cancellationCalls 2000 3000)).officialRealtimeLatest.rows.filter
        fun row => row.eventType = .floodWarning) = [] := by
  have messages : CapMessages bareEnvironment (stagedCancellation 2000 3000)
      (cancellationCalls 2000 3000) := capMessages_of_checked rfl (by decide +kernel)
  have hforward : ∀ first ∈ (cancellationCalls 2000 3000).map Prod.snd,
      ∀ update ∈ (cancellationCalls 2000 3000).map Prod.snd,
      ((cancellationCalls 2000 3000).map Prod.snd).idxOf first <
          ((cancellationCalls 2000 3000).map Prod.snd).idxOf update →
        ¬ cancels first update := by decide +kernel
  have hcancelled : ∀ message ∈ (cancellationCalls 2000 3000).map Prod.snd,
      isAlertOrUpdate message.properties = true →
      ∃ other ∈ (cancellationCalls 2000 3000).map Prod.snd,
        cancels other message ∧ generationOf message ≤ generationOf other := by decide +kernel
  have hfinal := (warning_rows_converge (noWarnings_staged 2000 3000) messages
    (fun first hfirst update hupdate _ _ hbefore _ hcancels =>
      absurd hcancels (hforward first hfirst update hupdate hbefore))).1
  rw [List.filter_eq_nil_iff]
  intro row hrow hevent
  obtain ⟨message, hmessage, hshown, hfree, -⟩ :=
    (hfinal row).mp ⟨hrow, of_decide_eq_true hevent⟩
  obtain ⟨other, hother, hcancels, hrecent⟩ := hcancelled message hmessage hshown
  exact hfree other hother ⟨hcancels, Or.inr hrecent⟩

/-- A Cancel from an older poll leaves the Alert that was promoted before it. -/
theorem cancelled_alert_of_a_newer_poll_stays :
    ¬ ∀ (env : Environment) (db : Database) (calls : List (ℤ × EvidencePromotionPayload)),
      NoWarnings db → CapMessages env db calls →
      ∀ row, (row ∈ (run (writeStep env) db calls).officialRealtimeLatest ∧
          row.eventType = .floodWarning) ↔
        ∃ message ∈ calls.map Prod.snd, isAlertOrUpdate message.properties = true ∧
          (∀ other ∈ calls.map Prod.snd, ¬ cancels other message) ∧
          ShowsMessage env (run (writeStep env) db calls) message row := by
  intro hall
  have messages : CapMessages bareEnvironment (stagedCancellation 5000 3000)
      (cancellationCalls 5000 3000) := capMessages_of_checked rfl (by decide +kernel)
  have hexact := hall bareEnvironment _ _ (noWarnings_staged 5000 3000) messages
  have hrows : ∃ row ∈ (run (writeStep bareEnvironment) (stagedCancellation 5000 3000)
      (cancellationCalls 5000 3000)).officialRealtimeLatest.rows,
      row.eventType = .floodWarning := by decide +kernel
  have hcancelled : ∀ message ∈ (cancellationCalls 5000 3000).map Prod.snd,
      isAlertOrUpdate message.properties = true →
      ∃ other ∈ (cancellationCalls 5000 3000).map Prod.snd, cancels other message := by
    decide +kernel
  obtain ⟨row, hrow, hevent⟩ := hrows
  obtain ⟨message, hmessage, hshown, hfree, -⟩ := (hexact row).mp ⟨hrow, hevent⟩
  obtain ⟨other, hother, hcancels⟩ := hcancelled message hmessage hshown
  exact hfree other hother hcancels

end FloodRisk.Promotion
