import FloodRisk.Promotion.Staging
import FloodRisk.Staging.Accepted
import Mathlib.Data.List.Dedup

/-!
# Staged warnings as promotion reads them (pipelines/staging.py, pipelines/promotion.py)

The lifecycle checks of promotion on the payload that staging stores of an
accepted flood warning.
-/

namespace FloodRisk.Staging
open Promotion

/-! ### Canonical references -/

/-- A key of `_canonical_cap_references`: stripped texts of 1 to 512 characters and
the UTC text of an instant. -/
structure CanonicalKey (key : ReferenceKey) (instant : ℤ) : Prop where
  sender : strip key.1 = key.1 ∧ key.1 ≠ "" ∧ key.1.length ≤ 512
  identifier : strip key.2.1 = key.2.1 ∧ key.2.1 ≠ "" ∧ key.2.1.length ≤ 512
  inCalendar : InCalendar instant
  sent : key.2.2 = isoformat (utcReading instant)

theorem stripped_of_bounded {value : RawValue} {text : String} (htext : value.textOf = some text)
    (h : isBoundedText 512 value = true) :
    strip (strip text) = strip text ∧ strip text ≠ "" ∧ (strip text).length ≤ 512 := by
  simp only [isBoundedText, htext, Option.any_some, Bool.and_eq_true, decide_eq_true_eq] at h
  exact ⟨strip_strip text, h.1, h.2⟩

theorem canonicalReference_spec {item : RawValue} {key : ReferenceKey}
    (h : canonicalReference item = .ok (some key)) : ∃ instant, CanonicalKey key instant := by
  unfold canonicalReference at h
  split at h
  · rename_i members
    split_ifs at h
    · cases h
    dsimp only at h
    split at h
    · rename_i sender identifier instant hsender hidentifier hsent
      split_ifs at h with hbounded
      · rw [Bool.and_eq_true] at hbounded
        unfold utcText at h
        split_ifs at h with hcalendar
        · cases h
          exact ⟨instant, stripped_of_bounded hsender hbounded.1,
            stripped_of_bounded hidentifier hbounded.2, hcalendar, rfl⟩
        · cases h
      · cases h
    · cases h
  · cases h

theorem canonicalReferenceKeys_spec {items : List RawValue} {keys : List ReferenceKey}
    (h : canonicalReferenceKeys items = .ok (some keys)) :
    ∀ key ∈ keys, ∃ item ∈ items, canonicalReference item = .ok (some key) := by
  induction items generalizing keys with
  | nil =>
    cases h
    intro key hkey
    exact absurd hkey List.not_mem_nil
  | cons item rest ih =>
    obtain ⟨found, hfound, h⟩ := Outcome.bind_eq_ok.mp h
    cases found with
    | none => cases h
    | some first =>
      obtain ⟨others, hothers, h⟩ := Outcome.bind_eq_ok.mp h
      cases others with
      | none => cases h
      | some others =>
        cases h
        intro key hkey
        cases List.mem_cons.mp hkey with
        | inl heq => exact ⟨item, List.mem_cons_self, heq ▸ hfound⟩
        | inr hmem =>
          obtain ⟨source, hsource, hcanonical⟩ := ih hothers key hmem
          exact ⟨source, List.mem_cons_of_mem _ hsource, hcanonical⟩

theorem canonicalCapReferences_spec {items : List RawValue} {references : List ReferenceKey}
    (h : canonicalCapReferences items = .ok (some references)) :
    references.Nodup ∧ ∀ key ∈ references, ∃ instant, CanonicalKey key instant := by
  unfold canonicalCapReferences at h
  cases hfound : canonicalReferenceKeys items with
  | error failure =>
    rw [hfound] at h
    cases h
  | ok found =>
    rw [hfound] at h
    cases found with
    | none => cases h
    | some keys =>
      cases h
      have hperm := List.perm_insertionSort
        (fun first second : ReferenceKey => keyOrder first ≤ keyOrder second) keys.dedup
      refine ⟨hperm.nodup_iff.mpr (List.nodup_dedup keys), ?_⟩
      intro key hkey
      have hmem := List.mem_dedup.mp (hperm.mem_iff.mp hkey)
      obtain ⟨item, -, hitem⟩ := canonicalReferenceKeys_spec hfound key hmem
      exact canonicalReference_spec hitem

/-! ### Reading a staged payload -/

/-- `parse_datetime` of a member. -/
def readDatetime (value : RawValue) : Option Datetime := value.textOf.bind parseDatetimeText

def readReference : RawValue → CapReference
  | .mapping members =>
      { exactKeys := hasReferenceKeys members
        sender := (getMember members "sender").textOf
        identifier := (getMember members "identifier").textOf
        sent := readDatetime (getMember members "sent") }
  | _ => { exactKeys := false, sender := none, identifier := none, sent := none }

def readReferences : RawValue → Option (List CapReference)
  | .list values => some (values.map readReference)
  | _ => none

def readMessageType (value : RawValue) : Option CapMessageType :=
  match value.textOf with
  | some "Alert" => some .alert
  | some "Update" => some .update
  | some "Cancel" => some .cancel
  | _ => none

def RawValue.isTrue : RawValue → Bool
  | .boolean value => value
  | _ => false

/-- The members of a staged payload that `_cap_rejection_reason` reads, where the others
are those of `properties`.  A member that should be a text reads as missing where it is
something else. -/
def readProperties (properties : Properties) (staged : RawPayload) : Properties :=
  { properties with
    ingestionGenerationStartedAt := readDatetime (getMember staged "ingestion_generation_started_at")
    adminCode := (getMember staged "admin_code").textOf
    capSender := (getMember staged "cap_sender").textOf
    capIdentifier := (getMember staged "cap_identifier").textOf
    capSent := readDatetime (getMember staged "cap_sent")
    capStatus := (getMember staged "cap_status").textOf
    capMessageType := readMessageType (getMember staged "cap_message_type")
    capReferences := readReferences (getMember staged "cap_references")
    activeFrom := readDatetime (getMember staged "active_from")
    activeUntil := readDatetime (getMember staged "active_until")
    expired := (getMember staged "expired").isTrue }

/-- The candidate that promotion makes of a staged payload. -/
def promoted (candidate : EvidencePromotionPayload) (staged : RawPayload) :
    EvidencePromotionPayload :=
  { candidate with properties := readProperties candidate.properties staged }

/-! ### References survive -/

/-- The key that staging gave a triple. -/
def tripleKey (triple : CapTriple) : ReferenceKey :=
  (triple.sender, triple.identifier, isoformat (utcReading triple.sent))

theorem readReference_referenceValue (key : ReferenceKey) :
    readReference (referenceValue key) =
      { exactKeys := true
        sender := some key.1
        identifier := some key.2.1
        sent := readDatetime (.text key.2.2) } := by
  simp only [referenceValue, readReference, hasReferenceKeys, getMember, List.lookup_cons,
    List.all_cons, List.all_nil, List.map_cons, List.map_nil, List.mem_cons, List.not_mem_nil,
    String.reduceEq, String.reduceBEq, or_false, or_true, decide_true,
    Bool.and_self, Option.getD_some, RawValue.textOf]

theorem capReferenceTriple_referenceValue {key : ReferenceKey} {instant : ℤ}
    (h : CanonicalKey key instant) :
    capReferenceTriple (readReference (referenceValue key)) = some ⟨key.1, key.2.1, instant⟩ := by
  have hsent : readDatetime (.text key.2.2) = some (.aware instant) := by
    rw [readDatetime, RawValue.textOf, Option.bind_some, h.sent,
      parseDatetimeText_isoformat (utcReading_isValid h.inCalendar), ofReading_utcReading]
  rw [readReference_referenceValue, capReferenceTriple, if_pos rfl, hsent]
  simp only [capTriple, awareInstant_aware, h.sender.1, h.identifier.1]
  rw [if_neg]
  rintro (hempty | hlong | hempty | hlong)
  · exact h.sender.2.1 hempty
  · exact absurd h.sender.2.2 (not_le.mpr hlong)
  · exact h.identifier.2.1 hempty
  · exact absurd h.identifier.2.2 (not_le.mpr hlong)

/-- Every list of canonical keys is that of a list of triples. -/
theorem exists_triples {references : List ReferenceKey}
    (h : ∀ key ∈ references, ∃ instant, CanonicalKey key instant) :
    ∃ triples : List CapTriple, triples.map tripleKey = references ∧
      ∀ triple ∈ triples, CanonicalKey (tripleKey triple) triple.sent := by
  induction references with
  | nil => exact ⟨[], rfl, fun triple htriple => absurd htriple List.not_mem_nil⟩
  | cons key rest ih =>
    obtain ⟨instant, hkey⟩ := h key List.mem_cons_self
    obtain ⟨triples, hkeys, hcanonical⟩ :=
      ih fun other hother => h other (List.mem_cons_of_mem _ hother)
    have hsame : tripleKey ⟨key.1, key.2.1, instant⟩ = key := by
      rw [tripleKey, ← hkey.sent]
    refine ⟨⟨key.1, key.2.1, instant⟩ :: triples, by rw [List.map_cons, hkeys, hsame], ?_⟩
    intro triple htriple
    cases List.mem_cons.mp htriple with
    | inl heq =>
      rw [heq, hsame]
      exact hkey
    | inr hmem => exact hcanonical triple hmem

/-- Promotion reads the canonical triples of staging, in their order. -/
theorem capReferenceTriples_staged {triples : List CapTriple} (hnodup : triples.Nodup)
    (hcanonical : ∀ triple ∈ triples, CanonicalKey (tripleKey triple) triple.sent)
    (hlimit : triples.length ≤ 64) :
    capReferenceTriples (readReferences (.list ((triples.map tripleKey).map referenceValue))) =
      some triples := by
  have hread : ∀ triple ∈ triples,
      capReferenceTriple (readReference (referenceValue (tripleKey triple))) = some triple :=
    fun triple htriple => capReferenceTriple_referenceValue (hcanonical triple htriple)
  have hreferences : ((triples.map tripleKey).map referenceValue).map readReference =
      triples.map fun triple => readReference (referenceValue (tripleKey triple)) := by
    rw [List.map_map, List.map_map]
    rfl
  have hfound : (triples.map fun triple => readReference (referenceValue (tripleKey triple))).filterMap
      capReferenceTriple = triples := by
    have hid : ∀ triple ∈ triples, (capReferenceTriple ∘ fun triple =>
        readReference (referenceValue (tripleKey triple))) triple = some triple := by
      intro triple htriple
      rw [Function.comp_apply, hread triple htriple]
    rw [List.filterMap_map, List.filterMap_congr hid, List.filterMap_some]
  have hall : (triples.map fun triple => readReference (referenceValue (tripleKey triple))).all
      (fun reference => (capReferenceTriple reference).isSome) = true := by
    rw [List.all_eq_true]
    intro reference hreference
    obtain ⟨triple, htriple, rfl⟩ := List.mem_map.mp hreference
    rw [hread triple htriple]
    rfl
  simp only [readReferences, capReferenceTriples, hreferences, hall, hfound, hnodup.dedup, if_true,
    if_neg (not_lt.mpr hlimit)]

/-! ### Members of the staged payload -/

section Staged

variable {str : RawValue → String} {evidence : Ncdr.NormalizedEvidence} {payload : RawPayload}
  {started : IsoFormat.Reading} {mode : Option String} {references : List ReferenceKey}

/-- What the staged payload of an accepted warning holds. -/
structure StagedWarning (payload : RawPayload) (references : List ReferenceKey)
    (started : IsoFormat.Reading) (staged : RawPayload) : Prop where
  texts : ∀ key ∈ capTextKeys, getMember staged key = (getMember payload key).stripped
  passed : ∀ key ∈ ["admin_code", "expired"], getMember staged key = getMember payload key
  references : getMember staged "cap_references" = .list (references.map referenceValue)
  generation : getMember staged "ingestion_generation_started_at" = .text (isoformat started)

/-- The keys that stand around the passed members. -/
abbrev addedKeys : List String :=
  ["location_text", "location_payload", "ingestion_generation_started_at",
    "snapshot_generation_mode", "attribution", "tags"] ++ realtimeMetricKeys

theorem capTextKeys_apart : ∀ key ∈ capTextKeys, key ∉ addedKeys ∧ key ≠ "limitations" ∧
    key ≠ "dataset_revision" ∧ key ∉ stagingPayloadPassthroughKeys ∧ key ≠ "cap_references" := by
  decide

theorem passedKeys_apart : ∀ key ∈ ["admin_code", "expired"], key ∉ addedKeys ∧
    key ≠ "limitations" ∧ key ≠ "dataset_revision" ∧ key ∈ stagingPayloadPassthroughKeys ∧
    key ∉ capTextKeys ∧ key ≠ "cap_references" := by
  decide

/-- The lifecycle members, by key. -/
def capMembers (payload : RawPayload) (references : List ReferenceKey) : RawPayload :=
  (presentMembers payload capTextKeys).map (fun member => (member.1, member.2.stripped)) ++
    [("cap_references", .list (references.map referenceValue))]

theorem lookup_capMembers_text {key : String} (hkey : key ∈ capTextKeys) :
    ((capMembers payload references).lookup key).getD .null = (getMember payload key).stripped := by
  rw [capMembers, List.lookup_append, lookup_mapValues, lookup_presentMembers,
    lookup_singleton_of_ne _ (capTextKeys_apart key hkey).2.2.2.2, Option.or_none]
  cases hvalue : getMember payload key <;> simp [hkey, RawValue.isNull, RawValue.stripped]

theorem lookup_capMembers_of_notMem {key : String} (hkey : key ∉ capTextKeys)
    (hne : key ≠ "cap_references") : (capMembers payload references).lookup key = none := by
  rw [capMembers, List.lookup_append, lookup_mapValues, lookup_presentMembers,
    lookup_singleton_of_ne _ hne, Option.or_none, if_neg fun h => hkey h.1]
  rfl

theorem lookup_capMembers_references :
    (capMembers payload references).lookup "cap_references" =
      some (.list (references.map referenceValue)) := by
  have hnone : ((presentMembers payload capTextKeys).map fun member =>
      (member.1, member.2.stripped)).lookup "cap_references" = none := by
    rw [lookup_mapValues, lookup_presentMembers,
      if_neg fun h => (capTextKeys_apart _ h.1).2.2.2.2 rfl]
    rfl
  rw [capMembers, List.lookup_append, hnone, Option.none_or, List.lookup_cons_self]

theorem exists_staged (hwarning : evidence.eventType = .floodWarning)
    (hreferences : stagedReferences payload = .ok (some references)) :
    ∃ staged, toStagingPayload str evidence (some (.mapping payload)) (some started) mode =
        .ok staged ∧ StagedWarning payload references started staged := by
  have hcap : capPayload payload = .ok (capMembers payload references) := capPayload_eq hreferences
  obtain ⟨passed, hpassed⟩ : ∃ passed, passthroughPayload str payload .floodWarning = .ok passed := by
    rw [passthroughPayload, if_pos rfl, hcap]
    exact ⟨_, rfl⟩
  have hevent : passthroughPayload str payload evidence.eventType = .ok passed := hwarning ▸ hpassed
  obtain ⟨staged, hstaged⟩ : ∃ staged, toStagingPayload str evidence (some (.mapping payload))
      (some started) mode = .ok staged := by
    simp only [toStagingPayload, hevent]
    exact ⟨_, rfl⟩
  have hlookup : ∀ key, key ∉ addedKeys → key ≠ "limitations" → key ≠ "dataset_revision" →
      staged.lookup key = ((presentMembers payload stagingPayloadPassthroughKeys).lookup key).or
        ((capMembers payload references).lookup key) := by
    intro key hadded hlimitations hrevision
    rw [lookup_toStagingPayload hevent hstaged hadded,
      lookup_passthroughPayload hcap hpassed hlimitations hrevision]
  refine ⟨staged, hstaged, ?_, ?_, ?_, ?_⟩
  · intro key hkey
    obtain ⟨hadded, hlimitations, hrevision, hpass, -⟩ := capTextKeys_apart key hkey
    rw [getMember, hlookup key hadded hlimitations hrevision, lookup_presentMembers,
      if_neg fun h => hpass h.1, Option.none_or, lookup_capMembers_text hkey]
  · intro key hkey
    obtain ⟨hadded, hlimitations, hrevision, hpass, htext, hne⟩ := passedKeys_apart key hkey
    rw [getMember, hlookup key hadded hlimitations hrevision,
      lookup_capMembers_of_notMem htext hne, Option.or_none]
    exact getMember_presentMembers hpass
  · rw [getMember, hlookup _ (by decide) (by decide) (by decide), lookup_presentMembers,
      if_neg fun h => absurd h.1 (by decide), Option.none_or, lookup_capMembers_references]
    rfl
  · have hnone : passed.lookup "ingestion_generation_started_at" = none := by
      rw [lookup_passthroughPayload hcap hpassed (by decide) (by decide), lookup_presentMembers,
        if_neg fun h => absurd h.1 (by decide), Option.none_or,
        lookup_capMembers_of_notMem (by decide) (by decide)]
    rw [getMember, lookup_generation hevent hstaged hnone]
    rfl

end Staged

/-! ### The checks of promotion -/

/-- In the stripped `cap_sent` the letter Z stands nowhere but at the end. -/
def zuluEndsSent (payload : RawPayload) : Bool :=
  (getMember payload "cap_sent").textOf.all fun text => 'Z' ∉ (strip text).toList.dropLast

/-- The reasons that a candidate accepted by staging should never get. -/
def disagreements : List (Option RejectionReason) :=
  [some .invalidCapLifecycle, some .invalidCapIdentity, some .invalidIngestionGeneration]

section Checks

variable {payload staged : RawPayload} {sent : ℤ} {references : List ReferenceKey}
  {started : IsoFormat.Reading}

/-- The reading of a stripped timestamp differs only in its letters Z. -/
theorem readDatetime_stripped {text : String} {stamp : Datetime}
    (h : fromisoformat (strip text) = some stamp) :
    readDatetime (RawValue.text text).stripped =
      if 'Z' ∈ (strip text).toList.dropLast then none else some stamp := by
  rw [RawValue.stripped, readDatetime, RawValue.textOf, Option.bind_some,
    parseDatetimeText_of_fromisoformat (by rw [strip_strip]; exact h), strip_strip]

theorem ownCapTriple_staged (h : AcceptedLifecycle payload sent references)
    (hstaged : StagedWarning payload references started staged) (properties : Properties) :
    ∃ own : CapTriple, own.sent = sent ∧
      ownCapTriple (readProperties properties staged) =
        if zuluEndsSent payload = true then some own else none := by
  obtain ⟨sender, hsender, hsenderNe, hsenderLength⟩ := exists_text_of_bounded h.sender
  obtain ⟨identifier, hidentifier, hidentifierNe, hidentifierLength⟩ :=
    exists_text_of_bounded h.identifier
  obtain ⟨text, htext, hread⟩ := exists_text_of_aware h.sentText
  refine ⟨⟨strip sender, strip identifier, sent⟩, rfl, ?_⟩
  have hsent := readDatetime_stripped hread
  rw [← htext, ← hstaged.texts "cap_sent" (by decide)] at hsent
  have hzulu : zuluEndsSent payload = true ↔ 'Z' ∉ (strip text).toList.dropLast := by
    simp [zuluEndsSent, htext, RawValue.textOf]
  have hbounded : ¬ (strip sender = "" ∨ (strip sender).length > 512 ∨ strip identifier = "" ∨
      (strip identifier).length > 512) := by
    rintro (hempty | hlong | hempty | hlong)
    · exact hsenderNe hempty
    · exact absurd hsenderLength (not_le.mpr hlong)
    · exact hidentifierNe hempty
    · exact absurd hidentifierLength (not_le.mpr hlong)
  have hown : ownCapTriple (readProperties properties staged) =
      capTriple (some (strip sender)) (some (strip identifier))
        (readDatetime (getMember staged "cap_sent")) := by
    rw [ownCapTriple, readProperties]
    simp only [hstaged.texts "cap_sender" (by decide), hsender,
      hstaged.texts "cap_identifier" (by decide), hidentifier, RawValue.stripped, RawValue.textOf]
  rw [hown, hsent]
  by_cases hz : 'Z' ∈ (strip text).toList.dropLast
  · rw [if_pos hz, if_neg fun hends => hzulu.mp hends hz]
    rfl
  · rw [if_neg hz, if_pos (hzulu.mpr hz)]
    simp only [capTriple, awareInstant_aware, strip_strip, if_neg hbounded]

/-- The earlier reference of an Update or Cancel is earlier for promotion too. -/
theorem any_earlier {triples : List CapTriple}
    (hcanonical : ∀ triple ∈ triples, CanonicalKey (tripleKey triple) triple.sent)
    (h : hasEarlierReference (some sent) (some (triples.map tripleKey)) = true) :
    triples.any (fun reference => reference.sent < sent) = true := by
  obtain ⟨key, hkey, hearlier⟩ := List.any_eq_true.mp h
  obtain ⟨triple, htriple, rfl⟩ := List.mem_map.mp hkey
  have hread : fromisoformat (strip (tripleKey triple).2.2) = some (.aware triple.sent) := by
    rw [tripleKey, strip_isoformat,
      fromisoformat_isoformat (utcReading_isValid (hcanonical triple htriple).inCalendar),
      ofReading_utcReading]
  rw [awareRfc3339_text hread, Option.any_some] at hearlier
  exact List.any_eq_true.mpr ⟨triple, htriple, hearlier⟩

/-- The area code of an accepted warning is one for promotion, where there is one. -/
theorem optionalText_adminCode (h : adminCodeErrors payload = []) :
    (optionalText (getMember payload "admin_code").textOf).all (fullmatchDigits 8) = true ∧
      ((getMember payload "admin_code").isNull = false →
        (optionalText (getMember payload "admin_code").textOf).any (fullmatchDigits 8) = true) := by
  simp only [adminCodeErrors, ite_nil_eq_nil, Bool.or_eq_true] at h
  cases hvalue : getMember payload "admin_code" with
  | null => exact ⟨rfl, fun hnull => absurd hnull (by decide)⟩
  | text code =>
    rw [hvalue] at h
    have hdigits : fullmatchDigits 8 code = true := by
      simpa [RawValue.isNull, RawValue.textOf] using h
    have hne : strip code ≠ "" := by
      rw [strip_of_fullmatchDigits hdigits]
      rintro rfl
      exact absurd hdigits (by decide)
    have htext : optionalText (RawValue.text code).textOf = some code := by
      rw [RawValue.textOf, optionalText, if_neg hne, strip_of_fullmatchDigits hdigits]
    rw [htext]
    exact ⟨hdigits, fun _ => hdigits⟩
  | boolean _ | number _ | list _ | tuple _ | mapping _ | other _ =>
    rw [hvalue] at h
    simp [RawValue.isNull, RawValue.textOf] at h

theorem candidateGeneration_promoted (hvalid : started.IsValid) (haware : started.offset.isSome = true)
    (hstaged : StagedWarning payload references started staged)
    (candidate : EvidencePromotionPayload) :
    (candidateGeneration (promoted candidate staged)).isSome = true := by
  obtain ⟨offset, hoffset⟩ := Option.isSome_iff_exists.mp haware
  have hread : readDatetime (getMember staged "ingestion_generation_started_at") =
      some (ofReading started) := by
    rw [hstaged.generation, readDatetime, RawValue.textOf, Option.bind_some,
      parseDatetimeText_isoformat hvalid]
  rw [candidateGeneration, promoted, readProperties]
  simp only [hread, ofReading, hoffset, awareInstant_aware, Option.isSome_some]

/-- The window of an accepted warning gives no other reason than that it is not open. -/
theorem window_reason (now : ℤ) (activeFrom activeUntil : Option ℤ) :
    (match activeFrom, activeUntil with
      | some first, some last =>
          if first ≤ now ∧ now < last then none else some RejectionReason.inactiveCapWindow
      | _, _ => some .inactiveCapWindow) ∈ [none, some .inactiveCapWindow] := by
  cases activeFrom with
  | none => simp
  | some first =>
    cases activeUntil with
    | none => simp
    | some last => dsimp only; split_ifs <;> simp

theorem readMessageType_stripped : ∀ text ∈ ["Alert", "Update", "Cancel"],
    readMessageType (RawValue.text text).stripped ≠ none := by
  decide

theorem alertOrUpdate_stripped : ∀ text ∈ ["Alert", "Update", "Cancel"],
    readMessageType (RawValue.text text).stripped = some .alert ∨
      readMessageType (RawValue.text text).stripped = some .update →
    (RawValue.text text).textOf.any (· ∈ ["Alert", "Update"]) = true := by
  decide

theorem updateOrCancel_stripped : ∀ text ∈ ["Alert", "Update", "Cancel"],
    readMessageType (RawValue.text text).stripped = some .update ∨
      readMessageType (RawValue.text text).stripped = some .cancel →
    (RawValue.text text).textOf.any (· ∈ ["Update", "Cancel"]) = true := by
  decide

/-- The reasons that are left when status, type, area code, references and generation
are in order. -/
theorem capShapeRejectionReason_mem {now : ℤ} {candidate : EvidencePromotionPayload}
    {triples : List CapTriple} (hstatus : candidate.properties.capStatus = some "Actual")
    (htype : candidate.properties.capMessageType ≠ none)
    (hall : (optionalText candidate.properties.adminCode).all (fullmatchDigits 8) = true)
    (hany : isAlertOrUpdate candidate.properties = true →
      (optionalText candidate.properties.adminCode).any (fullmatchDigits 8) = true)
    (hreferences : capReferenceTriples candidate.properties.capReferences = some triples)
    (hearlier : ∀ own, ownCapTriple candidate.properties = some own →
      isUpdateOrCancel candidate.properties = true →
        triples.any (fun reference => reference.sent < own.sent) = true)
    (hgeneration : (candidateGeneration candidate).isSome = true) :
    capShapeRejectionReason now candidate ∈
      if candidate.properties.expired || (ownCapTriple candidate.properties).isSome then
        [none, some .inactiveCapWindow]
      else [some .invalidCapIdentity] := by
  have hactual : optionalText (some "Actual") = some "Actual" := by decide
  have hexpired : isExpiredCap candidate.properties = candidate.properties.expired := by
    rw [isExpiredCap, hstatus, hactual]
    simp
  have hlifecycle : ¬ (candidate.properties.capStatus ≠ some "Actual" ∨
      candidate.properties.capMessageType = none) := by
    rintro (hne | hnone)
    · exact hne hstatus
    · exact htype hnone
  simp only [capShapeRejectionReason, hexpired, if_neg hlifecycle]
  cases candidate.properties.expired with
  | true => simp
  | false =>
    cases hown : ownCapTriple candidate.properties with
    | none => simp
    | some own =>
      have hcode : ¬ (isAlertOrUpdate candidate.properties &&
          !(optionalText candidate.properties.adminCode).any (fullmatchDigits 8)) = true := by
        intro hboth
        rw [Bool.and_eq_true] at hboth
        rw [hany hboth.1] at hboth
        exact absurd hboth.2 (by decide)
      have hcancel : ¬ (decide (candidate.properties.capMessageType = some .cancel) &&
          !(optionalText candidate.properties.adminCode).all (fullmatchDigits 8)) = true := by
        rw [hall]
        simp
      have hlate : ¬ (isUpdateOrCancel candidate.properties &&
          !triples.any (fun reference => reference.sent < own.sent)) = true := by
        intro hboth
        rw [Bool.and_eq_true] at hboth
        rw [hearlier own hown hboth.1] at hboth
        exact absurd hboth.2 (by decide)
      have hsome : candidateGeneration candidate ≠ none := by
        intro hnone
        rw [hnone] at hgeneration
        cases hgeneration
      simp only [Bool.false_eq_true, if_false, if_neg hcode, if_neg hcancel, hreferences,
        if_neg hlate, if_neg hsome, Option.isSome_some, Bool.or_true, if_true]
      split_ifs
      · exact window_reason now _ _
      · exact List.mem_cons_self

theorem capShapeRejectionReason_staged (h : AcceptedLifecycle payload sent references)
    (hadminCode : adminCodeErrors payload = [])
    (hadmin : (getMember payload "cap_message_type").textOf.any (· ∈ ["Alert", "Update"]) = true →
      (getMember payload "admin_code").isNull = false)
    (hvalid : started.IsValid) (haware : started.offset.isSome = true)
    (hstaged : StagedWarning payload references started staged) {triples : List CapTriple}
    (hcanonical : ∀ triple ∈ triples, CanonicalKey (tripleKey triple) triple.sent)
    (hkeys : triples.map tripleKey = references)
    (hread : capReferenceTriples (readReferences (getMember staged "cap_references")) = some triples)
    (now : ℤ) (candidate : EvidencePromotionPayload) :
    capShapeRejectionReason now (promoted candidate staged) ∈
      if (getMember payload "expired").isTrue || zuluEndsSent payload then
        [none, some .inactiveCapWindow]
      else [some .invalidCapIdentity] := by
  obtain ⟨own, hsent, hown⟩ := ownCapTriple_staged h hstaged candidate.properties
  obtain ⟨messageType, hmember, hvalue⟩ := exists_text_of_member h.messageType
  obtain ⟨hall, hany⟩ := optionalText_adminCode hadminCode
  have hcode : (promoted candidate staged).properties.adminCode =
      (getMember payload "admin_code").textOf :=
    congrArg RawValue.textOf (hstaged.passed "admin_code" (by decide))
  have hexpired : (promoted candidate staged).properties.expired =
      (getMember payload "expired").isTrue :=
    congrArg RawValue.isTrue (hstaged.passed "expired" (by decide))
  have hstatus : (promoted candidate staged).properties.capStatus = some "Actual" := by
    have hstripped := congrArg RawValue.textOf (hstaged.texts "cap_status" (by decide))
    rw [textOf_eq_some.mp h.status] at hstripped
    exact hstripped.trans (by decide)
  have htype : (promoted candidate staged).properties.capMessageType =
      readMessageType (RawValue.text messageType).stripped := by
    rw [← hvalue, ← hstaged.texts "cap_message_type" (by decide)]
    rfl
  have hsome : (ownCapTriple (promoted candidate staged).properties).isSome =
      zuluEndsSent payload := by
    rw [promoted, hown]
    cases zuluEndsSent payload <;> rfl
  rw [← hexpired, ← hsome]
  apply capShapeRejectionReason_mem hstatus
  · rw [htype]
    exact readMessageType_stripped messageType hmember
  · rw [hcode]
    exact hall
  · intro halert
    rw [hcode]
    apply hany (hadmin ?_)
    rw [isAlertOrUpdate, htype, Bool.or_eq_true, decide_eq_true_eq, decide_eq_true_eq] at halert
    rw [hvalue]
    exact alertOrUpdate_stripped messageType hmember halert
  · exact hread
  · intro found hfound hupdate
    rw [isUpdateOrCancel, htype, Bool.or_eq_true, decide_eq_true_eq, decide_eq_true_eq] at hupdate
    have hearlier := h.earlier (by
      rw [hvalue]
      exact updateOrCancel_stripped messageType hmember hupdate)
    have hsame : found = own := by
      rw [promoted, hown] at hfound
      split_ifs at hfound
      exact (Option.some.inj hfound).symm
    rw [hsame, hsent]
    exact any_earlier hcanonical (hkeys ▸ hearlier)
  · exact candidateGeneration_promoted hvalid haware hstaged candidate

end Checks

/-! ### Agreement -/

theorem capRejectionReason_of_shape {now : ℤ} {candidate : EvidencePromotionPayload}
    {reason : RejectionReason} (db : Database)
    (h : capShapeRejectionReason now candidate = some reason) :
    capRejectionReason now db candidate = some reason := by
  rw [capRejectionReason, h]

/-- A retired warning is no disagreement. -/
theorem capRejectionReason_notMem {now : ℤ} {db : Database} {candidate : EvidencePromotionPayload}
    (h : capShapeRejectionReason now candidate ∉ disagreements) :
    capRejectionReason now db candidate ∉ disagreements := by
  cases hshape : capShapeRejectionReason now candidate with
  | some reason =>
    rw [capRejectionReason_of_shape db hshape, ← hshape]
    exact h
  | none =>
    rw [capRejectionReason, hshape]
    dsimp only
    split
    · decide
    · split_ifs <;> decide

/-- The payload that staging stores of an accepted warning, for every adapter and every
other member of the candidate: promotion reads the canonical references of staging, and
finds nothing that staging should have found, unless the letter Z stands between the
date and the time of `cap_sent` and the warning is not marked as expired. -/
theorem staged_warning_agrees_iff {str : RawValue → String} {evidence : Ncdr.NormalizedEvidence}
    {payload : RawPayload} {started : IsoFormat.Reading} {mode : Option String}
    (hwarning : evidence.eventType = .floodWarning) (hvalid : started.IsValid)
    (haware : started.offset.isSome = true)
    (haccepted : stagingMetadataErrors (some (.mapping payload)) evidence.eventType (some started) =
      .ok [])
    (hadmin : (getMember payload "cap_message_type").textOf.any (· ∈ ["Alert", "Update"]) = true →
      (getMember payload "admin_code").isNull = false) :
    ∃ staged references triples,
      toStagingPayload str evidence (some (.mapping payload)) (some started) mode = .ok staged ∧
      stagedReferences payload = .ok (some references) ∧ triples.map tripleKey = references ∧
      ∀ candidate : EvidencePromotionPayload,
        capReferenceTriples (promoted candidate staged).properties.capReferences = some triples ∧
        ∀ now db, capRejectionReason now db (promoted candidate staged) ∉ disagreements ↔
          (getMember payload "expired").isTrue = true ∨ zuluEndsSent payload = true := by
  rw [hwarning] at haccepted
  obtain ⟨hreviewed, -, sent, references, hlifecycle⟩ := stagingMetadataErrors_eq_nil.mp haccepted
  obtain ⟨staged, hstaged, hmembers⟩ := exists_staged hwarning hlifecycle.canonical
  have hlist : ∃ values, canonicalCapReferences values = .ok (some references) := by
    have hcanonical := hlifecycle.canonical
    unfold stagedReferences at hcanonical
    split at hcanonical
    · exact ⟨_, hcanonical⟩
    · cases hcanonical
  obtain ⟨values, hvalues⟩ := hlist
  obtain ⟨hnodup, hkeys⟩ := canonicalCapReferences_spec hvalues
  obtain ⟨triples, rfl, hcanonical⟩ := exists_triples hkeys
  have hread : capReferenceTriples (readReferences (getMember staged "cap_references")) =
      some triples := by
    rw [hmembers.references]
    exact capReferenceTriples_staged hnodup.of_map hcanonical
      (by simpa using hlifecycle.atMost64)
  refine ⟨staged, triples.map tripleKey, triples, hstaged, hlifecycle.canonical, rfl, ?_⟩
  intro candidate
  refine ⟨hread, ?_⟩
  intro now db
  have hshape := capShapeRejectionReason_staged hlifecycle hreviewed.adminCode hadmin hvalid haware
    hmembers hcanonical rfl hread now candidate
  rw [← Bool.or_eq_true]
  cases hagrees : (getMember payload "expired").isTrue || zuluEndsSent payload with
  | true =>
    rw [hagrees, if_pos rfl] at hshape
    refine iff_of_true (capRejectionReason_notMem ?_) rfl
    intro hmem
    rcases List.mem_pair.mp hshape with hnone | hinactive
    · rw [hnone] at hmem
      exact absurd hmem (by decide)
    · rw [hinactive] at hmem
      exact absurd hmem (by decide)
  | false =>
    rw [hagrees] at hshape
    refine iff_of_false ?_ (by decide)
    have hreason := capRejectionReason_of_shape db (List.mem_singleton.mp hshape)
    rw [hreason]
    decide

/-- An Alert for one township that was sent at the time that the text names. -/
def townshipAlert (sent : String) : RawPayload :=
  [("evidence_scope", .text "current"), ("location_precision", .text "admin_area"),
    ("admin_code", .text "67000000"), ("cap_sender", .text "cwa"),
    ("cap_identifier", .text " A-1 "), ("cap_sent", .text sent), ("cap_status", .text "Actual"),
    ("cap_message_type", .text "Alert"),
    ("cap_references", .list [.mapping [("identifier", .text "A-0"), ("sender", .text "cwa"),
      ("sent", .text "2026-08-23T08:00:00+08:00")]]),
    ("active_from", .text "2026-08-24T01:00:00Z"), ("active_until", .text "2026-08-25T01:00:00Z")]

def townshipEvidence : Ncdr.NormalizedEvidence where
  evidenceId := "official.ncdr.cap:A-1"
  adapterKey := ncdrCap
  sourceFamily := .official
  eventType := .floodWarning
  sourceId := "A-1"
  sourceUrl := ""
  sourceTitle := ""
  sourceTimestamp := 0
  fetchedAt := 0
  summary := ""
  locationText := none
  confidence := 1
  status := .normalized
  attribution := ""
  tags := []

def generationStarted : IsoFormat.Reading := utcReading 1787533200000000

def townshipCandidate : EvidencePromotionPayload where
  dataSourceId := none
  adapterKey := some ncdrCap
  sourceId := "A-1"
  sourceType := .official
  eventType := .floodWarning
  observedAt := none
  rawRef := none
  properties := {}

theorem alert_sent_in_utc_agrees :
    ∃ staged references triples,
      toStagingPayload (fun _ => "") townshipEvidence
        (some (.mapping (townshipAlert "2026-08-24T01:00:00Z"))) (some generationStarted) none =
          .ok staged ∧
      stagedReferences (townshipAlert "2026-08-24T01:00:00Z") = .ok (some references) ∧
      triples.map tripleKey = references ∧
      ∀ candidate : EvidencePromotionPayload,
        capReferenceTriples (promoted candidate staged).properties.capReferences = some triples ∧
        ∀ now db, capRejectionReason now db (promoted candidate staged) ∉ disagreements ↔
          (getMember (townshipAlert "2026-08-24T01:00:00Z") "expired").isTrue = true ∨
            zuluEndsSent (townshipAlert "2026-08-24T01:00:00Z") = true :=
  staged_warning_agrees_iff rfl (utcReading_isValid (by decide +kernel)) rfl (by decide +kernel)
    (fun _ => by decide +kernel)

/-- With the letter Z between date and time staging accepts and promotion rejects. -/
theorem zulu_separator_parts_the_parsers :
    stagingMetadataErrors
        (some (.mapping (townshipAlert "2026-08-24Z01:00:00+00:00"))) .floodWarning
        (some generationStarted) = .ok [] ∧
      ((toStagingPayload (fun _ => "") townshipEvidence
          (some (.mapping (townshipAlert "2026-08-24Z01:00:00+00:00"))) (some generationStarted)
          none).toOption.bind fun staged =>
        capRejectionReason 1787536800000000 (catalogued []) (promoted townshipCandidate staged)) =
      some .invalidCapIdentity := by
  decide +kernel

end FloodRisk.Staging
