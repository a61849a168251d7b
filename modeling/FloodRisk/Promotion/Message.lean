import FloodRisk.Promotion.Pending
import FloodRisk.Promotion.Warning

/-!
# Valid CAP messages

A message as the staging builder writes it (pipelines/staging.py) and as the
writer accepts it.  Its evidence row is what the tombstone query, the
retirement of references and the canonical identity compare with, and on staged
text all three agree with the triples the writer computes.
-/

namespace FloodRisk.Promotion

variable {env : Environment} {now : ℤ} {payload other : EvidencePromotionPayload} {db : Database}

/-! ### Messages -/

/-- A reference as `_canonical_cap_references` writes it. -/
def canonicalReference (triple : CapTriple) : CapReference where
  exactKeys := true
  sender := some triple.sender
  identifier := some triple.identifier
  sent := some (.aware triple.sent)

/-- A current message that passes every check of its own, with its texts and
references as staged, a resolved boundary and, when it is shown, a point. -/
structure WarningMessage (env : Environment) (now : ℤ) (payload : EvidencePromotionPayload) :
    Prop where
  lifecycle : isCurrentCapLifecycleCandidate payload = true
  admissible : candidateRejectionReason env now payload = none
  shape : capShapeRejectionReason now payload = none
  sender : payload.properties.capSender =
    (ownCapTriple payload.properties).map CapTriple.sender
  identifier : payload.properties.capIdentifier =
    (ownCapTriple payload.properties).map CapTriple.identifier
  adminCode : optionalText payload.properties.adminCode = payload.properties.adminCode
  references : payload.properties.capReferences =
    (capReferenceTriples payload.properties.capReferences).map (List.map canonicalReference)
  bounded : warningBoundaryRejectionReason (withAdminAreaEnrichment env payload) = none
  located : isAlertOrUpdate payload.properties = true →
    ((geojsonPointGeometry (withAdminAreaEnrichment env payload).properties).bind
      pointPosition).isSome

/-- What `/* canonical-cap-idempotence */` identifies a message by. -/
def messageIdentity (payload : EvidencePromotionPayload) :
    Option String × Option CapTriple × Option String :=
  (payload.adapterKey, ownCapTriple payload.properties, payload.properties.adminCode)

/-- An Update or Cancel that references the message with an earlier sent time. -/
def cancels (payload other : EvidencePromotionPayload) : Prop :=
  isUpdateOrCancel payload.properties = true ∧
    ∃ own, ownCapTriple other.properties = some own ∧ own ∈ effectfulCapReferences payload

instance : Decidable (cancels payload other) :=
  decidable_of_iff (isUpdateOrCancel payload.properties = true ∧
      (ownCapTriple other.properties).any (· ∈ effectfulCapReferences payload) = true) (by
    simp only [cancels, Option.any_eq_true, decide_eq_true_eq])

def generationOf (payload : EvidencePromotionPayload) : ℤ := (candidateGeneration payload).getD 0

theorem own_not_effectful {own : CapTriple} (h : ownCapTriple payload.properties = some own) :
    own ∉ effectfulCapReferences payload := by
  intro hmem
  unfold effectfulCapReferences at hmem
  rw [h] at hmem
  cases hreferences : capReferenceTriples payload.properties.capReferences with
  | none => simp [hreferences] at hmem
  | some references =>
      simp only [hreferences, List.mem_filter, decide_eq_true_eq] at hmem
      omega

theorem not_cancels_self (payload : EvidencePromotionPayload) : ¬ cancels payload payload := by
  rintro ⟨-, own, hown, hmem⟩
  exact own_not_effectful hown hmem

namespace WarningMessage

structure Shape (payload : EvidencePromotionPayload) (own : CapTriple)
    (references : List CapTriple) (generation : ℤ) : Prop where
  actual : payload.properties.capStatus = some "Actual"
  owns : ownCapTriple payload.properties = some own
  cites : capReferenceTriples payload.properties.capReferences = some references
  dated : candidateGeneration payload = some generation
  code : isAlertOrUpdate payload.properties = true →
    ∃ code, optionalText payload.properties.adminCode = some code ∧ fullmatchDigits 8 code = true

theorem shaped (h : capShapeRejectionReason now payload = none) :
    ∃ own references generation, Shape payload own references generation := by
  obtain ⟨generation, hgeneration⟩ := candidateGeneration_of_shape h
  unfold capShapeRejectionReason at h
  simp only at h
  split at h
  · exact absurd h (by simp)
  split at h
  · exact absurd h (by simp)
  rename_i hstatus
  simp only [not_or, not_not] at hstatus
  cases hown : ownCapTriple payload.properties with
  | none => simp [hown] at h
  | some own =>
      simp only [hown] at h
      split at h
      · exact absurd h (by simp)
      rename_i hcode
      split at h
      · exact absurd h (by simp)
      cases hreferences : capReferenceTriples payload.properties.capReferences with
      | none => simp [hreferences] at h
      | some references =>
          refine ⟨own, references, generation, hstatus.1, hown, hreferences, hgeneration, ?_⟩
          intro hshown
          simp only [hshown, Bool.true_and, Bool.not_eq_true', Bool.not_eq_false] at hcode
          exact (Option.any_eq_true _ _).mp hcode

/-- What a triple says about the members it was read from. -/
structure ReadFrom (own : CapTriple) (sender identifier : Option String) (sent : Option Datetime) :
    Prop where
  sender : ∃ raw, sender = some raw ∧ own.sender = strip raw
  identifier : ∃ raw, identifier = some raw ∧ own.identifier = strip raw
  sent : sent = some (.aware own.sent)
  senderBounds : own.sender ≠ "" ∧ own.sender.length ≤ 512
  identifierBounds : own.identifier ≠ "" ∧ own.identifier.length ≤ 512

theorem readFrom_of_capTriple {sender identifier : Option String} {sent : Option Datetime}
    {own : CapTriple} (h : capTriple sender identifier sent = some own) :
    ReadFrom own sender identifier sent := by
  unfold capTriple at h
  split at h
  · rename_i senderValue identifierValue instant hinstant
    split at h
    · exact absurd h (by simp)
    · rename_i hbounds
      simp only [not_or, not_lt] at hbounds
      cases h
      exact ⟨⟨senderValue, rfl, rfl⟩, ⟨identifierValue, rfl, rfl⟩, awareInstant_eq_some.mp hinstant,
        ⟨hbounds.1, hbounds.2.1⟩, ⟨hbounds.2.2.1, hbounds.2.2.2⟩⟩
  · exact absurd h (by simp)

/-- The members of a message and the triple it is known by. -/
structure Identified (payload : EvidencePromotionPayload) (own : CapTriple)
    (references : List CapTriple) (generation : ℤ) : Prop
    extends Shape payload own references generation where
  capSender : payload.properties.capSender = some own.sender
  capIdentifier : payload.properties.capIdentifier = some own.identifier
  capSent : payload.properties.capSent = some (.aware own.sent)
  stripped : strip own.sender = own.sender ∧ strip own.identifier = own.identifier
  senderBounds : own.sender ≠ "" ∧ own.sender.length ≤ 512
  identifierBounds : own.identifier ≠ "" ∧ own.identifier.length ≤ 512
  staged : payload.properties.capReferences = some (references.map canonicalReference)
  referenceCount : references.length ≤ 64

theorem identified (h : WarningMessage env now payload) :
    ∃ own references generation, Identified payload own references generation := by
  obtain ⟨own, references, generation, shape⟩ := shaped h.shape
  have read := readFrom_of_capTriple shape.owns
  have hsender := h.sender
  have hidentifier := h.identifier
  have hstaged := h.references
  rw [shape.owns, Option.map_some] at hsender hidentifier
  rw [shape.cites, Option.map_some] at hstaged
  obtain ⟨rawSender, hrawSender, hstripSender⟩ := read.sender
  obtain ⟨rawIdentifier, hrawIdentifier, hstripIdentifier⟩ := read.identifier
  have hsameSender : rawSender = own.sender := Option.some.inj (hrawSender.symm.trans hsender)
  have hsameIdentifier : rawIdentifier = own.identifier :=
    Option.some.inj (hrawIdentifier.symm.trans hidentifier)
  rw [hsameSender] at hstripSender
  rw [hsameIdentifier] at hstripIdentifier
  have hcount : references.length ≤ 64 := by
    have hreferences := shape.cites
    unfold capReferenceTriples at hreferences
    split at hreferences
    · exact absurd hreferences (by simp)
    · split at hreferences
      · simp only at hreferences
        split at hreferences
        · exact absurd hreferences (by simp)
        · rename_i hlength
          rw [← Option.some.inj hreferences]
          omega
      · exact absurd hreferences (by simp)
  exact ⟨own, references, generation, shape, hsender, hidentifier, read.sent,
    ⟨hstripSender.symm, hstripIdentifier.symm⟩, read.senderBounds, read.identifierBounds, hstaged,
    hcount⟩

theorem mem_effectful_iff {own triple : CapTriple} {references : List CapTriple} {generation : ℤ}
    (identified : Identified payload own references generation) :
    triple ∈ effectfulCapReferences payload ↔ triple ∈ references ∧ triple.sent < own.sent := by
  simp only [effectfulCapReferences, identified.owns, identified.cites, List.mem_filter,
    decide_eq_true_eq]

end WarningMessage

/-! ### The evidence row of a message -/

def StoresMessage (env : Environment) (db : Database) (payload : EvidencePromotionPayload)
    (row : Evidence) : Prop :=
  ∃ source, row = evidenceRow (withAdminAreaEnrichment env payload) source row.id ∧
    evidenceAdapterKey db row = payload.adapterKey

theorem evidenceAdapterKey_congr {next : Database} (h : next.dataSources = db.dataSources)
    (row : Evidence) : evidenceAdapterKey next row = evidenceAdapterKey db row := by
  simp only [evidenceAdapterKey, h]

theorem StoresMessage.congr {next : Database} {row : Evidence} (h : StoresMessage env db payload row)
    (hsources : next.dataSources = db.dataSources) : StoresMessage env next payload row := by
  obtain ⟨source, hrow, hadapter⟩ := h
  exact ⟨source, hrow, by rw [evidenceAdapterKey_congr hsources, hadapter]⟩

structure MessageRow (payload : EvidencePromotionPayload) (row : Evidence) : Prop where
  current : isCurrentActualWarning row = true
  capSender : row.properties.capSender = payload.properties.capSender
  capIdentifier : row.properties.capIdentifier = payload.properties.capIdentifier
  capSent : row.properties.capSent = payload.properties.capSent
  adminCode : row.properties.adminCode = payload.properties.adminCode
  capMessageType : row.properties.capMessageType = payload.properties.capMessageType
  capReferences : row.properties.capReferences = payload.properties.capReferences
  generation : row.properties.ingestionGenerationStartedAt =
    payload.properties.ingestionGenerationStartedAt

namespace WarningMessage

theorem messageRow (h : WarningMessage env now payload) {row : Evidence}
    (stores : StoresMessage env db payload row) : MessageRow payload row := by
  obtain ⟨source, hrow, -⟩ := stores
  obtain ⟨same, hscope⟩ := enrichment_same env payload
  obtain ⟨own, references, generation, shape⟩ := shaped h.shape
  have hlifecycle := h.lifecycle
  simp only [isCurrentCapLifecycleCandidate, Bool.and_eq_true, decide_eq_true_eq] at hlifecycle
  rw [hrow]
  refine ⟨?_, same.capSender, same.capIdentifier, same.capSent, same.adminCode,
    same.capMessageType, same.capReferences, same.generation⟩
  simp only [isCurrentActualWarning, evidenceRow, same.eventType, cap_eventType h.lifecycle,
    same.sourceType, hlifecycle.1.1, hscope, hlifecycle.1.2, same.capStatus, shape.actual,
    decide_true, Bool.and_self]

/-- The tombstone query finds the row exactly when the message cancels the triple. -/
theorem isCapTombstone_iff (h : WarningMessage env now payload) {row : Evidence}
    (stores : StoresMessage env db payload row) (own : CapTriple) :
    isCapTombstone db own row = true ↔
      isUpdateOrCancel payload.properties = true ∧ own ∈ effectfulCapReferences payload := by
  obtain ⟨lifecycle, references, generation, identified⟩ := h.identified
  have fields := h.messageRow stores
  obtain ⟨source, hrow, hadapter⟩ := stores
  obtain ⟨key, hreviewed, hkey⟩ := cap_adapterKey h.lifecycle
  have hlifecycle : isUpdateOrCancel row.properties = isUpdateOrCancel payload.properties := by
    simp only [isUpdateOrCancel, fields.capMessageType]
  have hgeneration : row.properties.ingestionGenerationStartedAt.isSome = true := by
    rw [fields.generation, awareInstant_eq_some.mp identified.dated]
    rfl
  have hretires : ∀ triple, referenceRetires own lifecycle.sent (canonicalReference triple) = true ↔
      triple = own ∧ own.sent < lifecycle.sent := by
    intro triple
    obtain ⟨sender, identifier, sent⟩ := triple
    obtain ⟨ownSender, ownIdentifier, ownSent⟩ := own
    simp only [referenceRetires, canonicalReference, Bool.true_and, Option.some.injEq,
      Option.map_some, Datetime.timestamptz, Bool.and_eq_true, decide_eq_true_eq,
      CapTriple.mk.injEq, and_assoc]
  simp only [isCapTombstone, fields.current, hadapter, hkey, Option.any_some, hreviewed,
    decide_true, Bool.true_and, hlifecycle, hgeneration, Bool.and_true, fields.capSent,
    identified.capSent, fields.capReferences, identified.staged, Bool.and_eq_true,
    decide_eq_true_eq, List.any_eq_true]
  rw [mem_effectful_iff identified]
  constructor
  · rintro ⟨hupdate, -, reference, hmem, hmatch⟩
    obtain ⟨triple, htriple, rfl⟩ := List.mem_map.mp hmem
    obtain ⟨heq, hearlier⟩ := (hretires triple).mp hmatch
    exact ⟨hupdate, heq ▸ htriple, hearlier⟩
  · rintro ⟨hupdate, hmem, hearlier⟩
    have hpositive : 1 ≤ (references.map canonicalReference).length := by
      rw [List.length_map]
      exact List.length_pos_of_mem hmem
    have hcount : (references.map canonicalReference).length ≤ 64 := by
      rw [List.length_map]
      exact identified.referenceCount
    exact ⟨hupdate, ⟨hpositive, hcount⟩, canonicalReference own, List.mem_map_of_mem hmem,
      (hretires own).mpr ⟨rfl, hearlier⟩⟩

/-- The canonical look-up finds the row exactly when the identities agree. -/
theorem isCanonicalCapMessage_iff (h : WarningMessage env now payload) {row : Evidence}
    (stores : StoresMessage env db payload row) {adapterKey : String} {own : CapTriple}
    {adminCode : Option String} :
    isCanonicalCapMessage db adapterKey own adminCode row = true ↔
      messageIdentity payload = (some adapterKey, some own, adminCode) := by
  obtain ⟨stored, references, generation, identified⟩ := h.identified
  have fields := h.messageRow stores
  obtain ⟨source, hrow, hadapter⟩ := stores
  obtain ⟨sender, identifier, sent⟩ := stored
  obtain ⟨ownSender, ownIdentifier, ownSent⟩ := own
  simp only [isCanonicalCapMessage, hadapter, fields.current, fields.capSender,
    identified.capSender, fields.capIdentifier, identified.capIdentifier, fields.capSent,
    identified.capSent, fields.adminCode, Option.map_some, Datetime.timestamptz, Bool.and_true,
    Bool.and_eq_true, decide_eq_true_eq, Option.some.injEq, messageIdentity, identified.owns,
    Prod.mk.injEq, CapTriple.mk.injEq, and_assoc]

theorem isRetirableEvidence_iff (h : WarningMessage env now payload) {row : Evidence}
    (stores : StoresMessage env db payload row)
    (hshown : isAlertOrUpdate payload.properties = true) {references : List CapTriple}
    {adapterKey : String} (hkey : payload.adapterKey = some adapterKey) :
    isRetirableEvidence db references adapterKey row = true ↔
      ∃ own, ownCapTriple payload.properties = some own ∧ own ∈ references := by
  obtain ⟨own, ownReferences, generation, identified⟩ := h.identified
  have fields := h.messageRow stores
  obtain ⟨source, hrow, hadapter⟩ := stores
  obtain ⟨code, hcode, hdigits⟩ := identified.code hshown
  have hshownRow : isAlertOrUpdate row.properties = true := by
    simp only [isAlertOrUpdate, fields.capMessageType]
    exact hshown
  have hlength : ∀ text : String, text ≠ "" → 1 ≤ text.length := by
    intro text hne
    by_contra hlt
    exact hne (String.length_eq_zero_iff.mp (by omega))
  have hadmin : row.properties.adminCode = some code := by
    rw [fields.adminCode, ← h.adminCode, hcode]
  obtain ⟨sender, identifier, sent⟩ := own
  simp only [isRetirableEvidence, fields.current, hshownRow, hadapter, hkey, hadmin,
    Option.any_some, hdigits, fields.capSender, identified.capSender, fields.capIdentifier,
    identified.capIdentifier, fields.capSent, identified.capSent, btrim_of_strip identified.stripped.1,
    btrim_of_strip identified.stripped.2, hlength _ identified.senderBounds.1,
    hlength _ identified.identifierBounds.1, identified.senderBounds.2,
    identified.identifierBounds.2, Datetime.timestamptz, decide_true, Bool.and_self, Bool.true_and,
    List.any_eq_true, identified.owns, Option.some.injEq, exists_eq_left']
  constructor
  · rintro ⟨triple, hmem, heq⟩
    exact of_decide_eq_true heq ▸ hmem
  · exact fun hmem => ⟨_, hmem, decide_eq_true rfl⟩

end WarningMessage

end FloodRisk.Promotion
