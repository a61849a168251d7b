import FloodRisk.Ncdr.AllClear
import FloodRisk.Ncdr.CapOutcome
import FloodRisk.Staging.Accepted
import Mathlib.Data.List.Dedup

/-!
# NCDR rows in staging (adapters/ncdr/cap_alerts.py, pipelines/staging.py)

The metadata checks of staging on the rows that the NCDR adapter normalizes.
-/

namespace FloodRisk.Staging
open Promotion
open Ncdr (PayloadValue ParsedCapMessage ParsedCapArea ParsedCapReference)

/-! ### The payload of a row -/

mutual

/-- The Python value of a payload value; an instant is the text that `isoformat` prints. -/
def rawValue : PayloadValue → RawValue
  | .null => .null
  | .text value => .text value
  | .instant value => .text (isoformat (utcReading value))
  | .number value => .number value
  | .items values => .list (rawValues values)
  | .object members => .mapping (rawMembers members)

def rawValues : List PayloadValue → List RawValue
  | [] => []
  | value :: rest => rawValue value :: rawValues rest

def rawMembers : Ncdr.RawPayload → RawPayload
  | [] => []
  | (key, value) :: rest => (key, rawValue value) :: rawMembers rest

end

theorem getMember_rawMembers (payload : Ncdr.RawPayload) (key : String) :
    getMember (rawMembers payload) key = rawValue (Ncdr.getMember payload key) := by
  induction payload with
  | nil => rfl
  | cons member rest ih =>
    obtain ⟨name, value⟩ := member
    unfold getMember Ncdr.getMember at *
    rw [rawMembers, List.lookup_cons, List.lookup_cons]
    cases key == name with
    | true => rfl
    | false => exact ih

/-! ### Rows -/

section Rows

variable {runtime : Ncdr.Runtime} {message : ParsedCapMessage} {area : Option ParsedCapArea}
  {transportCapid sourceUrl : String} {fetchedAt : ℤ} {rawSnapshotKey : Option String}
  {row : Ncdr.RawSourceItem × Option String}

/-- The members of a row that staging checks beside those of `PreparedFrom`. -/
structure PreparedMembers (message : ParsedCapMessage) (area : Option ParsedCapArea)
    (payload : Ncdr.RawPayload) : Prop where
  scope : Ncdr.getMember payload "evidence_scope" = .text "current"
  precision : Ncdr.getMember payload "location_precision" = .text "admin_area"
  references : Ncdr.getMember payload "cap_references" =
    .items (message.references.map Ncdr.referencePayload)
  window : ∃ activeFrom expires, Ncdr.messageLifecycle message = .ok (activeFrom, expires) ∧
    Ncdr.getMember payload "active_from" = .instant activeFrom ∧
    Ncdr.getMember payload "active_until" = .instant expires
  absent : ∀ key ∈ ["limitations", "dataset_revision"], Ncdr.getMember payload key = .null
  unreviewed : Ncdr.reviewedTownshipGeocode area = none →
    ∀ key ∈ ["admin_code", "ncdr_geocode", "ncdr_geocode_profile"],
      Ncdr.getMember payload key = .null

theorem preparedMembers
    (h : Ncdr.prepareAuditRow runtime message area transportCapid fetchedAt sourceUrl
      rawSnapshotKey = .ok row) : PreparedMembers message area row.1.payload := by
  obtain ⟨⟨activeFrom, expires⟩, hlifecycle, hrow⟩ := Outcome.bind_eq_ok.mp h
  obtain rfl := Except.ok.inj hrow
  refine ⟨rfl, rfl, rfl, ⟨activeFrom, expires, hlifecycle, rfl, rfl⟩, ?_, ?_⟩
  · intro key hkey
    simp only [List.mem_cons, List.not_mem_nil, or_false] at hkey
    dsimp only
    cases Ncdr.reviewedTownshipGeocode area <;> cases area.bind ParsedCapArea.polygon <;>
      cases area.bind ParsedCapArea.circle <;> rcases hkey with rfl | rfl <;> rfl
  · intro hreviewed key hkey
    simp only [List.mem_cons, List.not_mem_nil, or_false] at hkey
    dsimp only
    rw [hreviewed]
    cases area.bind ParsedCapArea.polygon <;> cases area.bind ParsedCapArea.circle <;>
      rcases hkey with rfl | rfl | rfl <;> rfl

end Rows

/-! ### References -/

/-- The key of a parsed reference. -/
def referenceKey (reference : ParsedCapReference) : ReferenceKey :=
  (reference.sender, reference.identifier, isoformat (utcReading reference.sent))

/-- The texts of a reference are not too long for staging. -/
def IsShort (reference : ParsedCapReference) : Prop :=
  reference.sender.length ≤ 512 ∧ reference.identifier.length ≤ 512

instance (reference : ParsedCapReference) : Decidable (IsShort reference) :=
  inferInstanceAs (Decidable (_ ∧ _))

theorem isBoundedText_field {text : String} (h : Ncdr.Raising.IsField text) :
    isBoundedText 512 (.text text) = true ↔ text.length ≤ 512 := by
  simp [isBoundedText, RawValue.textOf, h.1, h.2]

theorem awareRfc3339_isoformat {instant : ℤ} (h : InCalendar instant) :
    awareRfc3339 (.text (isoformat (utcReading instant))) = some instant := by
  apply awareRfc3339_text
  rw [strip_isoformat, fromisoformat_isoformat (utcReading_isValid h), ofReading_utcReading]

theorem canonicalReference_parsed {reference : ParsedCapReference}
    (hsender : Ncdr.Raising.IsField reference.sender)
    (hidentifier : Ncdr.Raising.IsField reference.identifier) (hsent : InCalendar reference.sent) :
    canonicalReference (rawValue (Ncdr.referencePayload reference)) =
      .ok (if IsShort reference then some (referenceKey reference) else none) := by
  have hvalue : rawValue (Ncdr.referencePayload reference) =
      .mapping [("sender", .text reference.sender), ("identifier", .text reference.identifier),
        ("sent", .text (isoformat (utcReading reference.sent)))] := by
    simp only [Ncdr.referencePayload, rawValue, rawMembers]
  have hkeys : hasReferenceKeys [("sender", .text reference.sender),
      ("identifier", .text reference.identifier),
      ("sent", .text (isoformat (utcReading reference.sent)))] = true := by
    simp [hasReferenceKeys]
  have hshort : (isBoundedText 512 (.text reference.sender) &&
      isBoundedText 512 (.text reference.identifier)) = true ↔ IsShort reference := by
    rw [Bool.and_eq_true, isBoundedText_field hsender, isBoundedText_field hidentifier, IsShort]
  rw [hvalue, canonicalReference]
  simp only [hkeys, Bool.not_true, Bool.false_eq_true, if_false, getMember, List.lookup_cons,
    String.reduceBEq, Option.getD_some, RawValue.textOf, awareRfc3339_isoformat hsent]
  by_cases hreference : IsShort reference
  · simp only [hshort.mpr hreference, if_true, if_pos hreference, utcText, if_pos hsent, hsender.1,
      hidentifier.1]
    rfl
  · have hlong := mt hshort.mp hreference
    simp only [if_neg hreference, hlong]
    rfl

theorem canonicalReferenceKeys_parsed {references : List ParsedCapReference}
    (hfields : ∀ reference ∈ references, Ncdr.Raising.IsField reference.sender ∧
      Ncdr.Raising.IsField reference.identifier ∧ InCalendar reference.sent) :
    canonicalReferenceKeys (rawValues (references.map Ncdr.referencePayload)) =
      .ok (if ∀ reference ∈ references, IsShort reference then some (references.map referenceKey)
        else none) := by
  induction references with
  | nil => rfl
  | cons reference rest ih =>
    obtain ⟨hsender, hidentifier, hsent⟩ := hfields reference List.mem_cons_self
    have hrest := ih fun other hother => hfields other (List.mem_cons_of_mem _ hother)
    rw [List.map_cons, rawValues, canonicalReferenceKeys,
      canonicalReference_parsed hsender hidentifier hsent, hrest]
    by_cases hshort : IsShort reference
    · by_cases hothers : ∀ other ∈ rest, IsShort other
      · have hall : ∀ other ∈ reference :: rest, IsShort other :=
          List.forall_mem_cons.mpr ⟨hshort, hothers⟩
        rw [if_pos hshort, if_pos hothers, if_pos hall]
        rfl
      · have hall : ¬ ∀ other ∈ reference :: rest, IsShort other :=
          fun h => hothers (List.forall_mem_cons.mp h).2
        rw [if_pos hshort, if_neg hothers, if_neg hall]
        rfl
    · have hall : ¬ ∀ other ∈ reference :: rest, IsShort other :=
        fun h => hshort (List.forall_mem_cons.mp h).1
      rw [if_neg hshort, if_neg hall]
      rfl

/-- The canonical references of short ones, each once. -/
theorem stagedReferences_parsed {references : List ParsedCapReference} {payload : RawPayload}
    (hpayload : getMember payload "cap_references" =
      .list (rawValues (references.map Ncdr.referencePayload)))
    (hfields : ∀ reference ∈ references, Ncdr.Raising.IsField reference.sender ∧
      Ncdr.Raising.IsField reference.identifier ∧ InCalendar reference.sent) :
    ((∀ reference ∈ references, IsShort reference) ∧
      ∃ keys, stagedReferences payload = .ok (some keys) ∧ keys.length ≤ references.length ∧
        ∀ key, key ∈ keys ↔ key ∈ references.map referenceKey) ∨
    ((¬ ∀ reference ∈ references, IsShort reference) ∧ stagedReferences payload = .ok none) := by
  have hkeys := canonicalReferenceKeys_parsed hfields
  unfold stagedReferences canonicalCapReferences
  rw [hpayload]
  dsimp only
  rw [hkeys]
  by_cases hshort : ∀ reference ∈ references, IsShort reference
  · have hperm := List.perm_insertionSort
      (fun first second : ReferenceKey => keyOrder first ≤ keyOrder second)
      (references.map referenceKey).dedup
    refine Or.inl ⟨hshort, (references.map referenceKey).dedup.insertionSort
      fun first second => keyOrder first ≤ keyOrder second, ?_, ?_, ?_⟩
    · rw [if_pos hshort]
      rfl
    · rw [hperm.length_eq]
      exact (List.dedup_sublist _).length_le.trans_eq (List.length_map _)
    · intro key
      rw [hperm.mem_iff, List.mem_dedup]
  · refine Or.inr ⟨hshort, ?_⟩
    rw [if_neg hshort]
    rfl

theorem hasEarlierReference_parsed {references : List ParsedCapReference} {keys : List ReferenceKey}
    {sent : ℤ} (hkeys : ∀ key, key ∈ keys ↔ key ∈ references.map referenceKey)
    (hcalendar : ∀ reference ∈ references, InCalendar reference.sent) :
    hasEarlierReference (some sent) (some keys) = true ↔
      ∃ reference ∈ references, reference.sent < sent := by
  rw [hasEarlierReference, List.any_eq_true]
  constructor
  · rintro ⟨key, hkey, hearlier⟩
    obtain ⟨reference, hreference, rfl⟩ := List.mem_map.mp ((hkeys key).mp hkey)
    rw [referenceKey, awareRfc3339_isoformat (hcalendar reference hreference), Option.any_some,
      decide_eq_true_eq] at hearlier
    exact ⟨reference, hreference, hearlier⟩
  · rintro ⟨reference, hreference, hearlier⟩
    refine ⟨referenceKey reference, (hkeys _).mpr (List.mem_map_of_mem hreference), ?_⟩
    rw [referenceKey, awareRfc3339_isoformat (hcalendar reference hreference), Option.any_some,
      decide_eq_true_eq]
    exact hearlier

/-! ### Normalized rows -/

section Rows

variable {runtime : Ncdr.Runtime} {alert : Ncdr.Element} {message : ParsedCapMessage}
  {area : Option ParsedCapArea} {transportCapid sourceUrl : String} {fetchedAt : ℤ}
  {rawSnapshotKey : Option String} {raw : Ncdr.RawSourceItem}

/-- Scope, precision and geocodes of every row are in order. -/
theorem reviewedMembers_prepared {row : Ncdr.RawSourceItem × Option String}
    (h : Ncdr.PreparedFrom runtime message area fetchedAt row)
    (hmembers : PreparedMembers message area row.1.payload) :
    ReviewedMembers (rawMembers row.1.payload) := by
  have habsent : ∀ key ∈ ["limitations", "dataset_revision"],
      getMember (rawMembers row.1.payload) key = .null := by
    intro key hkey
    rw [getMember_rawMembers, hmembers.absent key hkey, rawValue]
  have hcodes : (adminCodeErrors (rawMembers row.1.payload) = []) ∧
      geocodeErrors (rawMembers row.1.payload) = [] := by
    unfold adminCodeErrors geocodeErrors
    cases hreviewed : Ncdr.reviewedTownshipGeocode area with
    | none =>
      have hnull := hmembers.unreviewed hreviewed
      simp only [getMember_rawMembers, hnull "admin_code" (by simp),
        hnull "ncdr_geocode" (by simp), hnull "ncdr_geocode_profile" (by simp), rawValue]
      exact ⟨rfl, rfl⟩
    | some geocode =>
      obtain ⟨name, value⟩ := geocode
      obtain ⟨hadmin, hgeocode, hprofile⟩ := h.geocode name value hreviewed
      have hdigits := Ncdr.reviewed_digits hreviewed
      have hcode := Ncdr.fullmatchDigits_append_zero hdigits
      simp only [getMember_rawMembers, hadmin, hgeocode, hprofile, rawValue, RawValue.textOf,
        Option.any_some, hdigits, hcode]
      simp [RawValue.isNull]
  constructor
  · rw [choiceErrors, getMember_rawMembers, hmembers.scope, rawValue]
    rfl
  · rw [choiceErrors, getMember_rawMembers, hmembers.precision, rawValue]
    rfl
  · exact hcodes.1
  · exact hcodes.2
  · rw [limitationErrors, habsent "limitations" (by simp)]
  · rw [revisionErrors, habsent "dataset_revision" (by simp)]
    rfl

/-- The window of a message is one that staging accepts. -/
theorem windowErrors_prepared {payload : Ncdr.RawPayload} (hmessage : Ncdr.Raising.ReadMessage message)
    (hmembers : PreparedMembers message area payload) : windowErrors (rawMembers payload) = [] := by
  obtain ⟨activeFrom, expires, hlifecycle, hfrom, huntil⟩ := hmembers.window
  have htimes : message.onset.or message.effective = some activeFrom ∧
      message.expires = some expires ∧ activeFrom < expires := by
    unfold Ncdr.messageLifecycle at hlifecycle
    split_ifs at hlifecycle
    split at hlifecycle
    · rename_i first last hfirst hlast
      split_ifs at hlifecycle with hlate
      obtain ⟨rfl, rfl⟩ := Prod.mk.inj (Except.ok.inj hlifecycle)
      exact ⟨hfirst, hlast, not_le.mp hlate⟩
    · cases hlifecycle
  obtain ⟨hfirst, hlast, hbefore⟩ := htimes
  have hfromCalendar : InCalendar activeFrom := by
    cases Option.or_eq_some_iff.mp hfirst with
    | inl honset => exact hmessage.onset activeFrom honset
    | inr heffective => exact hmessage.effective activeFrom heffective.2
  have huntilCalendar := hmessage.expires expires hlast
  unfold windowErrors
  rw [getMember_rawMembers, getMember_rawMembers, hfrom, huntil, rawValue, rawValue,
    awareRfc3339_isoformat hfromCalendar, awareRfc3339_isoformat huntilCalendar]
  exact if_pos hbefore

/-- A row that the adapter accepts of a message it read passes the checks of staging
unless a text is too long for them or a mutation has no earlier reference. -/
theorem normalized_row_staged_iff (started : IsoFormat.Reading)
    (hread : Ncdr.Raising.parseMessage runtime alert = .ok message)
    (hrow : Ncdr.prepareAuditRow runtime message area transportCapid fetchedAt sourceUrl
      rawSnapshotKey = .ok (raw, none)) :
    stagingMetadataErrors (some (rawValue (.object raw.payload))) .floodWarning (some started) =
        .ok [] ↔
      message.sender.length ≤ 512 ∧ message.identifier.length ≤ 512 ∧
        (∀ reference ∈ message.references, IsShort reference) ∧
        (message.messageType ∈ ["Update", "Cancel"] →
          ∃ reference ∈ message.references, reference.sent < message.sent) := by
  have hmessage := Ncdr.Raising.parseMessage_readMessage hread
  have hprepared := Ncdr.prepareAuditRow_eq_ok hrow
  have hmembers := preparedMembers hrow
  obtain ⟨activeFrom, expires, hlifecycle, hreason⟩ := hprepared.reason
  have hsender : getMember (rawMembers raw.payload) "cap_sender" = .text message.sender := by
    rw [getMember_rawMembers, hprepared.sender, rawValue]
  have hidentifier : getMember (rawMembers raw.payload) "cap_identifier" =
      .text message.identifier := by
    rw [getMember_rawMembers, hprepared.identifier, rawValue]
  have hsent : awareRfc3339 (getMember (rawMembers raw.payload) "cap_sent") = some message.sent := by
    rw [getMember_rawMembers, hprepared.sent, rawValue, awareRfc3339_isoformat hmessage.sent]
  have hstatus : getMember (rawMembers raw.payload) "cap_status" = .text "Actual" := by
    rw [getMember_rawMembers, hprepared.status, Ncdr.actual_of_accepted hreason.symm, rawValue]
  have htype : getMember (rawMembers raw.payload) "cap_message_type" = .text message.messageType := by
    rw [getMember_rawMembers, hprepared.messageType, rawValue]
  have hreferences : getMember (rawMembers raw.payload) "cap_references" =
      .list (rawValues (message.references.map Ncdr.referencePayload)) := by
    rw [getMember_rawMembers, hmembers.references, rawValue]
  have hmutation : (getMember (rawMembers raw.payload) "cap_message_type").textOf.any
      (· ∈ ["Update", "Cancel"]) = true ↔ message.messageType ∈ ["Update", "Cancel"] := by
    rw [htype, RawValue.textOf, Option.any_some, decide_eq_true_eq]
  have hcalendar := fun reference hreference => (hmessage.referenceFields reference hreference).2.2
  rw [rawValue, stagingMetadataErrors_eq_nil]
  rcases stagedReferences_parsed hreferences hmessage.referenceFields with
    ⟨hshort, keys, hcanonical, hcount, hkeys⟩ | ⟨hlong, hcanonical⟩
  · constructor
    · rintro ⟨-, -, sent, references, h⟩
      have hsame : sent = message.sent := Option.some.inj (h.sentText.symm.trans hsent)
      have hfound : references = keys :=
        Option.some.inj (Except.ok.inj (h.canonical.symm.trans hcanonical))
      have hsenderShort := h.sender
      have hidentifierShort := h.identifier
      rw [hsender, isBoundedText_field hmessage.sender] at hsenderShort
      rw [hidentifier, isBoundedText_field hmessage.identifier] at hidentifierShort
      refine ⟨hsenderShort, hidentifierShort, hshort, ?_⟩
      intro hupdate
      have hearlier := h.earlier (hmutation.mpr hupdate)
      rw [hsame, hfound] at hearlier
      exact (hasEarlierReference_parsed hkeys hcalendar).mp hearlier
    · rintro ⟨hsenderShort, hidentifierShort, -, hearlier⟩
      refine ⟨reviewedMembers_prepared hprepared hmembers, rfl, message.sent, keys, ?_⟩
      constructor
      · rw [hsender]
        exact (isBoundedText_field hmessage.sender).mpr hsenderShort
      · rw [hidentifier]
        exact (isBoundedText_field hmessage.identifier).mpr hidentifierShort
      · exact hsent
      · rw [hstatus]
        rfl
      · rw [htype]
        rcases Ncdr.messageType_of_lifecycle hlifecycle with htype | htype | htype <;>
          rw [htype] <;> rfl
      · exact hcanonical
      · exact hcount.trans hmessage.references
      · intro hupdate
        exact (hasEarlierReference_parsed hkeys hcalendar).mpr (hearlier (hmutation.mp hupdate))
      · intro _
        exact windowErrors_prepared hmessage hmembers
  · refine iff_of_false ?_ fun h => hlong h.2.2.1
    rintro ⟨-, -, sent, references, h⟩
    exact absurd (h.canonical.symm.trans hcanonical) (by simp)

end Rows

open Ncdr (documentRuntime morningCancel cancelMessage)

/-- The libraries, with the whole grammar of timestamps. -/
def calendarRuntime : Ncdr.Runtime := { documentRuntime [] with fromisoformat := fromisoformat }

theorem morningCancel_read :
    Ncdr.Raising.parseMessage calendarRuntime morningCancel.element = .ok cancelMessage := by
  decide +kernel

/-- The row of the first area of the cancellation. -/
def cancelRow : Except Ncdr.CapDocumentError (Ncdr.RawSourceItem × Option String) :=
  Ncdr.prepareAuditRow calendarRuntime cancelMessage cancelMessage.areas.head? "CAP-001"
    1781496000000000 "" none

theorem exists_cancelRow : ∃ raw, cancelRow = .ok (raw, none) := by
  have hreason : cancelRow.toOption.map Prod.snd = some none := by decide +kernel
  cases hrow : cancelRow with
  | error error =>
    rw [hrow] at hreason
    cases hreason
  | ok row =>
    obtain ⟨raw, reason⟩ := row
    rw [hrow] at hreason
    cases hreason
    exact ⟨raw, rfl⟩

theorem cancelRow_staged_iff :
    ∃ raw, cancelRow = .ok (raw, none) ∧
      (stagingMetadataErrors (some (rawValue (.object raw.payload))) .floodWarning
          (some (utcReading 1781496000000000)) = .ok [] ↔
        cancelMessage.sender.length ≤ 512 ∧ cancelMessage.identifier.length ≤ 512 ∧
          (∀ reference ∈ cancelMessage.references, IsShort reference) ∧
          (cancelMessage.messageType ∈ ["Update", "Cancel"] →
            ∃ reference ∈ cancelMessage.references, reference.sent < cancelMessage.sent)) := by
  obtain ⟨raw, hraw⟩ := exists_cancelRow
  exact ⟨raw, hraw,
    normalized_row_staged_iff (utcReading 1781496000000000) morningCancel_read hraw⟩

/-- The cancellation references a message of its own instant: the adapter normalizes
the row and staging rejects it. -/
theorem same_instant_reference_is_rejected :
    Ncdr.Raising.parseMessage calendarRuntime morningCancel.element = .ok cancelMessage ∧
      cancelRow.toOption.map (fun row =>
        (row.2, (Ncdr.normalizeReviewedRaw calendarRuntime row.1).isSome,
          stagingMetadataErrors (some (rawValue (.object row.1.payload))) .floodWarning
            (some (utcReading 1781496000000000)))) =
        some (none, true, .ok ["Update and Cancel require an earlier reference"]) :=
  ⟨morningCancel_read, by decide +kernel⟩

end FloodRisk.Staging
