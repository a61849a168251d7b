import FloodRisk.Lib.Outcome
import FloodRisk.Staging.Metadata

/-!
# Accepted flood warnings (pipelines/staging.py)

When the checks of a flood warning find nothing, and what the staged payload
holds then.
-/

namespace FloodRisk.Staging
open Promotion

/-! ### Members of staged payloads -/

/-- Members built from a list of keys have no other keys. -/
theorem lookup_filterMap_eq_none {keys : List String} {f : String → Option (String × RawValue)}
    (hkeys : ∀ key, ∀ member ∈ f key, member.1 = key) {key : String} (hkey : key ∉ keys) :
    (keys.filterMap f).lookup key = none := by
  rw [List.lookup_eq_none_iff]
  intro member hmember
  obtain ⟨source, hsource, hf⟩ := List.mem_filterMap.mp hmember
  have hsame := hkeys source member hf
  simp only [bne_iff_ne, ne_eq]
  rintro rfl
  exact hkey (hsame ▸ hsource)

theorem lookup_presentMembers (payload : RawPayload) (keys : List String) (key : String) :
    (presentMembers payload keys).lookup key =
      if key ∈ keys ∧ (getMember payload key).isNull = false then some (getMember payload key)
      else none := by
  induction keys with
  | nil => simp [presentMembers]
  | cons first rest ih =>
    unfold presentMembers at *
    rw [List.filterMap_cons]
    cases hnull : (getMember payload first).isNull with
    | true =>
      simp only [hnull, if_true, ih, List.mem_cons]
      by_cases heq : key = first
      · simp [heq, hnull]
      · simp [heq]
    | false =>
      simp only [hnull, Bool.false_eq_true, if_false, List.lookup_cons, ih, List.mem_cons]
      by_cases heq : key = first
      · simp [heq, hnull]
      · have hdiffer : (key == first) = false := by simpa using heq
        simp [heq, hdiffer]

theorem getMember_presentMembers {payload : RawPayload} {keys : List String} {key : String}
    (hkey : key ∈ keys) : getMember (presentMembers payload keys) key = getMember payload key := by
  rw [getMember, lookup_presentMembers]
  cases hvalue : getMember payload key <;> simp [hkey, RawValue.isNull]

theorem lookup_setMember_of_ne {payload : RawPayload} {key other : String} (value : RawValue)
    (hne : other ≠ key) : (setMember payload key value).lookup other = payload.lookup other := by
  have hother : (other == key) = false := by simpa using hne
  rw [setMember, List.lookup_cons, hother]
  show (payload.filter fun member => member.1 ≠ key).lookup other = payload.lookup other
  induction payload with
  | nil => rfl
  | cons member rest ih =>
    obtain ⟨name, stored⟩ := member
    by_cases hname : name = key
    · have hdiffer : (other == name) = false := by simpa [hname] using hne
      rw [List.filter_cons_of_neg (by simpa using hname), List.lookup_cons, hdiffer]
      exact ih
    · rw [List.filter_cons_of_pos (by simpa using hname), List.lookup_cons, List.lookup_cons, ih]

theorem lookup_mapValues (f : RawValue → RawValue) (payload : RawPayload) (key : String) :
    (payload.map fun member => (member.1, f member.2)).lookup key = (payload.lookup key).map f := by
  induction payload with
  | nil => rfl
  | cons member rest ih =>
    rw [List.map_cons, List.lookup_cons, List.lookup_cons, ih]
    cases key == member.1 <;> rfl

theorem lookup_singleton_of_ne {key other : String} (value : RawValue) (hne : other ≠ key) :
    ([(key, value)] : RawPayload).lookup other = none := by
  have hdiffer : (other == key) = false := by simpa using hne
  rw [List.lookup_cons, hdiffer]
  rfl

theorem lookup_locationPayload {payload : RawPayload} {key : String} (hkey : key ≠ "location_payload") :
    (locationPayload payload).lookup key = none := by
  simp only [locationPayload]
  split_ifs
  · rfl
  · exact lookup_singleton_of_ne _ hkey

theorem lookup_realtimeMetricsPayload {payload : RawPayload} {key : String}
    (hkey : key ∉ realtimeMetricKeys) : (realtimeMetricsPayload payload).lookup key = none := by
  apply lookup_filterMap_eq_none _ hkey
  intro name member hmember
  split at hmember
  · rw [← Option.some.inj hmember]
  · exact absurd hmember (by simp)

theorem lookup_withLimitations (str : RawValue → String) (payload members : RawPayload) {key : String}
    (hkey : key ≠ "limitations") :
    (withLimitations str payload members).lookup key = members.lookup key := by
  unfold withLimitations
  split
  · exact lookup_setMember_of_ne _ hkey
  · rfl

theorem lookup_withRevision (payload members : RawPayload) {key : String}
    (hkey : key ≠ "dataset_revision") :
    (withRevision payload members).lookup key = members.lookup key := by
  unfold withRevision
  split
  · split_ifs
    · rfl
    · exact lookup_setMember_of_ne _ hkey
  · rfl

/-- The lifecycle members of a warning with canonical references. -/
theorem capPayload_eq {payload : RawPayload} {references : List ReferenceKey}
    (h : stagedReferences payload = .ok (some references)) :
    capPayload payload = .ok
      ((presentMembers payload capTextKeys).map (fun member => (member.1, member.2.stripped)) ++
        [("cap_references", .list (references.map referenceValue))]) := by
  simp only [capPayload, h, bind, Except.bind, pure, Except.pure]

section Staged

variable {str : RawValue → String} {evidence : Ncdr.NormalizedEvidence}
  {payload passed staged : RawPayload} {generation : Option IsoFormat.Reading}
  {mode : Option String} {key : String}

/-- A member that is not added around the passed members is read from them. -/
theorem lookup_toStagingPayload
    (hpassed : passthroughPayload str payload evidence.eventType = .ok passed)
    (hstaged : toStagingPayload str evidence (some (.mapping payload)) generation mode = .ok staged)
    (hkey : key ∉ ["location_text", "location_payload", "ingestion_generation_started_at",
      "snapshot_generation_mode", "attribution", "tags"] ++ realtimeMetricKeys) :
    staged.lookup key = passed.lookup key := by
  simp only [List.mem_append, List.mem_cons, List.not_mem_nil, or_false, not_or] at hkey
  obtain ⟨⟨htext, hlocation, hgeneration, hmode, hattribution, htags⟩, hmetrics⟩ := hkey
  have hstarted : (generation.elim [] fun started =>
      [("ingestion_generation_started_at", RawValue.text (isoformat started))]).lookup key =
        none := by
    cases generation with
    | none => rfl
    | some started => exact lookup_singleton_of_ne _ hgeneration
  have hsnapshot : (mode.elim [] fun text =>
      [("snapshot_generation_mode", RawValue.text text)]).lookup key = none := by
    cases mode with
    | none => rfl
    | some text => exact lookup_singleton_of_ne _ hmode
  have htail : (("attribution", RawValue.text evidence.attribution) ::
      [("tags", RawValue.list (evidence.tags.map .text))]).lookup key = none := by
    have hdiffer : (key == "attribution") = false := by simpa using hattribution
    rw [List.lookup_cons, hdiffer]
    exact lookup_singleton_of_ne _ htags
  simp only [toStagingPayload, hpassed, bind, Except.bind, pure, Except.pure,
    Except.ok.injEq] at hstaged
  rw [← hstaged]
  simp only [List.lookup_append, lookup_singleton_of_ne _ htext, lookup_locationPayload hlocation,
    lookup_realtimeMetricsPayload hmetrics, hstarted, hsnapshot, htail, Option.none_or,
    Option.or_none]

theorem lookup_generation {started : IsoFormat.Reading}
    (hpassed : passthroughPayload str payload evidence.eventType = .ok passed)
    (hstaged : toStagingPayload str evidence (some (.mapping payload)) (some started) mode =
      .ok staged) (hnone : passed.lookup "ingestion_generation_started_at" = none) :
    staged.lookup "ingestion_generation_started_at" = some (.text (isoformat started)) := by
  simp only [toStagingPayload, hpassed, bind, Except.bind, pure, Except.pure,
    Except.ok.injEq] at hstaged
  rw [← hstaged]
  simp only [List.lookup_append, hnone, Option.elim_some,
    lookup_singleton_of_ne _ (show "ingestion_generation_started_at" ≠ "location_text" by decide),
    lookup_locationPayload (show "ingestion_generation_started_at" ≠ "location_payload" by decide),
    lookup_realtimeMetricsPayload
      (show "ingestion_generation_started_at" ∉ realtimeMetricKeys by decide),
    Option.none_or, List.lookup_cons_self, Option.some_or]

/-- The passed members of a flood warning: those of the list, and those of its lifecycle. -/
theorem lookup_passthroughPayload {cap : RawPayload} (hcap : capPayload payload = .ok cap)
    (hpassed : passthroughPayload str payload .floodWarning = .ok passed)
    (hlimitations : key ≠ "limitations") (hrevision : key ≠ "dataset_revision") :
    passed.lookup key =
      ((presentMembers payload stagingPayloadPassthroughKeys).lookup key).or (cap.lookup key) := by
  simp only [passthroughPayload, hcap, if_true, bind, Except.bind, pure, Except.pure,
    Except.ok.injEq] at hpassed
  rw [← hpassed, List.lookup_append]
  rw [lookup_withRevision _ _ hrevision, lookup_withLimitations _ _ _ hlimitations]

end Staged

/-! ### Texts -/

theorem textOf_eq_some {value : RawValue} {text : String} :
    value.textOf = some text ↔ value = .text text := by
  cases value <;> simp [RawValue.textOf]

theorem exists_text_of_bounded {limit : ℕ} {value : RawValue} (h : isBoundedText limit value = true) :
    ∃ text, value = .text text ∧ strip text ≠ "" ∧ (strip text).length ≤ limit := by
  unfold isBoundedText at h
  cases hvalue : value.textOf with
  | none =>
    rw [hvalue] at h
    cases h
  | some text =>
    rw [hvalue, Option.any_some, Bool.and_eq_true, decide_eq_true_eq, decide_eq_true_eq] at h
    exact ⟨text, textOf_eq_some.mp hvalue, h.1, h.2⟩

theorem exists_text_of_member {value : RawValue} {texts : List String}
    (h : isMember value texts = .ok true) : ∃ text ∈ texts, value = .text text := by
  unfold isMember at h
  split_ifs at h with hhashable
  cases hvalue : value.textOf with
  | none =>
    rw [hvalue] at h
    cases h
  | some text =>
    rw [hvalue, Option.any_some, Except.ok.injEq, decide_eq_true_eq] at h
    exact ⟨text, h, textOf_eq_some.mp hvalue⟩

theorem exists_text_of_aware {value : RawValue} {instant : ℤ} (h : awareRfc3339 value = some instant) :
    ∃ text, value = .text text ∧ fromisoformat (strip text) = some (.aware instant) := by
  unfold awareRfc3339 at h
  split at h
  · split_ifs at h
    exact ⟨_, rfl, awareInstant_eq_some.mp h⟩
  · cases h

theorem awareRfc3339_text {text : String} {instant : ℤ}
    (h : fromisoformat (strip text) = some (.aware instant)) :
    awareRfc3339 (.text text) = some instant := by
  rw [awareRfc3339, if_neg (ne_empty_of_fromisoformat h), h, awareInstant_aware]

/-! ### Accepted payloads -/

/-- The lifecycle members of a flood warning that was sent at `sent` and has these
canonical references. -/
structure AcceptedLifecycle (payload : RawPayload) (sent : ℤ) (references : List ReferenceKey) :
    Prop where
  sender : isBoundedText 512 (getMember payload "cap_sender") = true
  identifier : isBoundedText 512 (getMember payload "cap_identifier") = true
  sentText : awareRfc3339 (getMember payload "cap_sent") = some sent
  status : (getMember payload "cap_status").textOf = some "Actual"
  messageType : isMember (getMember payload "cap_message_type") ["Alert", "Update", "Cancel"] =
    .ok true
  canonical : stagedReferences payload = .ok (some references)
  atMost64 : references.length ≤ 64
  earlier : (getMember payload "cap_message_type").textOf.any (· ∈ ["Update", "Cancel"]) = true →
    hasEarlierReference (some sent) (some references) = true
  window : (getMember payload "cap_message_type").textOf.any (· ∈ ["Alert", "Update"]) = true →
    windowErrors payload = []

/-- The members that every event type may have. -/
structure ReviewedMembers (payload : RawPayload) : Prop where
  scope : choiceErrors payload "evidence_scope" evidenceScopes "evidence_scope is not reviewed" =
    .ok []
  precision : choiceErrors payload "location_precision" locationPrecisions
    "location_precision is not public" = .ok []
  adminCode : adminCodeErrors payload = []
  geocode : geocodeErrors payload = []
  limitations : limitationErrors payload = []
  revision : revisionErrors payload = []

theorem ite_nil_eq_nil {c : Prop} [Decidable c] {error : String} :
    (if c then [] else [error]) = [] ↔ c := by
  split_ifs with hc <;> simp [hc]

theorem ite_error_eq_nil {c : Prop} [Decidable c] {error : String} :
    (if c then [error] else []) = [] ↔ ¬ c := by
  split_ifs with hc <;> simp [hc]

theorem identityErrors_eq_nil {payload : RawPayload} {key : String} :
    identityErrors payload key = [] ↔ isBoundedText 512 (getMember payload key) = true :=
  ite_nil_eq_nil

theorem referenceErrors_eq_nil {payload : RawPayload} {found : Option (List ReferenceKey)}
    (h : stagedReferences payload = .ok found) :
    referenceErrors payload found = [] ↔ ∃ references, found = some references ∧
      references.length ≤ 64 := by
  unfold stagedReferences at h
  unfold referenceErrors
  cases hvalue : getMember payload "cap_references" with
  | list values =>
    cases found with
    | none => simp
    | some references => simp
  | null | boolean _ | number _ | text _ | tuple _ | mapping _ | other _ =>
    rw [hvalue] at h
    cases h
    simp

theorem lifecycleErrors_eq_nil {payload : RawPayload} {generation : Option IsoFormat.Reading} :
    lifecycleErrors payload generation = .ok [] ↔ generation.isSome = true ∧
      ∃ sent references, AcceptedLifecycle payload sent references := by
  constructor
  · intro h
    obtain ⟨validType, htype, h⟩ := Outcome.bind_eq_ok.mp h
    obtain ⟨found, hfound, h⟩ := Outcome.bind_eq_ok.mp h
    have hnil := Except.ok.inj h
    simp only [List.append_eq_nil_iff, ite_nil_eq_nil, ite_error_eq_nil, identityErrors_eq_nil,
      referenceErrors_eq_nil hfound] at hnil
    obtain ⟨⟨⟨⟨⟨⟨⟨⟨hgeneration, hsender⟩, hidentifier⟩, hsent⟩, hstatus⟩, hvalid⟩, hreferences⟩,
      hearlier⟩, hwindow⟩ := hnil
    obtain ⟨sent, hsent⟩ := Option.isSome_iff_exists.mp hsent
    obtain ⟨references, rfl, hlimit⟩ := hreferences
    subst hvalid
    refine ⟨hgeneration, sent, references, hsender, hidentifier, hsent, hstatus, htype, hfound,
      hlimit, ?_, ?_⟩
    · intro hupdate
      rw [hsent] at hearlier
      by_contra hnone
      rw [hupdate, Bool.eq_false_iff.mpr hnone] at hearlier
      exact hearlier rfl
    · intro halert
      rw [if_pos halert] at hwindow
      exact hwindow
  · rintro ⟨hgeneration, sent, references, h⟩
    have hreferences := (referenceErrors_eq_nil h.canonical).mpr ⟨references, rfl, h.atMost64⟩
    simp only [lifecycleErrors, h.messageType, h.canonical, bind, Except.bind, pure, Except.pure,
      Except.ok.injEq, List.append_eq_nil_iff, ite_nil_eq_nil, ite_error_eq_nil,
      identityErrors_eq_nil, hreferences]
    refine ⟨⟨⟨⟨⟨⟨⟨⟨hgeneration, h.sender⟩, h.identifier⟩, ?_⟩, h.status⟩, trivial⟩, trivial⟩, ?_⟩, ?_⟩
    · rw [h.sentText]
      rfl
    · rw [h.sentText]
      intro hboth
      rw [Bool.and_eq_true] at hboth
      rw [h.earlier hboth.1] at hboth
      exact absurd hboth.2 (by decide)
    · split_ifs with halert
      · exact h.window halert
      · rfl

/-- A flood warning is accepted when nothing is found in its members. -/
theorem stagingMetadataErrors_eq_nil {payload : RawPayload} {generation : Option IsoFormat.Reading} :
    stagingMetadataErrors (some (.mapping payload)) .floodWarning generation = .ok [] ↔
      ReviewedMembers payload ∧ generation.isSome = true ∧
        ∃ sent references, AcceptedLifecycle payload sent references := by
  rw [← lifecycleErrors_eq_nil]
  constructor
  · intro h
    obtain ⟨scope, hscope, h⟩ := Outcome.bind_eq_ok.mp h
    obtain ⟨precision, hprecision, h⟩ := Outcome.bind_eq_ok.mp h
    obtain ⟨lifecycle, hlifecycle, h⟩ := Outcome.bind_eq_ok.mp h
    have hnil := Except.ok.inj h
    simp only [List.append_eq_nil_iff] at hnil
    obtain ⟨⟨⟨⟨⟨⟨rfl, rfl⟩, hadmin⟩, hgeocode⟩, hlimitations⟩, hrevision⟩, rfl⟩ := hnil
    exact ⟨⟨hscope, hprecision, hadmin, hgeocode, hlimitations, hrevision⟩, hlifecycle⟩
  · rintro ⟨h, hlifecycle⟩
    simp only [stagingMetadataErrors, h.scope, h.precision, h.adminCode, h.geocode, h.limitations,
      h.revision, hlifecycle, bind, Except.bind, pure, Except.pure, List.append_nil, if_true]

end FloodRisk.Staging
