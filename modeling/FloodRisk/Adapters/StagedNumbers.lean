import FloodRisk.Adapters.StagedReadings

/-!
# The numbers of a staged row

Which numbers `_to_staging_upsert` takes over of a station payload, and that it takes them over
without a raise.
-/

namespace FloodRisk.Adapters
open Python

variable {runtime : Runtime}

/-- A member of a station payload: texts and flags, floats of which the metrics are among some
numbers, and the objects of the place and of the quality. -/
def StationMember (numbers : List Double) (entry : String × Value) : Prop :=
  match entry.2 with
  | .text _ => True
  | .boolean _ => True
  | .float x => entry.1 ∉ Staging.stagingPayloadPassthroughKeys ∧
      (entry.1 ∈ Staging.realtimeMetricKeys → x ∈ numbers)
  | .object _ => entry.1 ∈ ["geometry", "quality_flags"]
  | _ => False

/-- The metrics and the place of a payload are finite. -/
structure NumbersFinite (payload : Members) : Prop where
  metrics : ∀ key ∈ Staging.realtimeMetricKeys, ∀ x, get payload key = .float x → x.isFinite = true
  place : ∀ members, get payload "geometry" = .object members → Value.membersFinite members = true

/-- A payload of such members. -/
def StationPayload (numbers : List Double) (payload : Members) : Prop :=
  ∀ entry ∈ payload, StationMember numbers entry

section Payloads

variable {payload : Members} {numbers : List Double}

theorem get_stationMember (hmembers : StationPayload numbers payload) (key : String) :
    get payload key = .null ∨ StationMember numbers (key, get payload key) := by
  unfold Python.get
  cases hlookup : payload.lookup key with
  | none => exact Or.inl rfl
  | some value =>
    obtain ⟨before, after, rfl, -⟩ := List.lookup_eq_some_iff.mp hlookup
    exact Or.inr (hmembers (key, value) (List.mem_append_right _ List.mem_cons_self))

theorem get_ne_integer (hmembers : StationPayload numbers payload) (key : String) (n : ℤ) :
    get payload key ≠ .integer n := by
  intro hvalue
  rcases get_stationMember hmembers key with h | h
  · rw [hvalue] at h
    cases h
  · rw [hvalue] at h
    exact h

theorem get_ne_list (hmembers : StationPayload numbers payload) (key : String)
    (values : List Value) : get payload key ≠ .list values := by
  intro hvalue
  rcases get_stationMember hmembers key with h | h
  · rw [hvalue] at h
    cases h
  · rw [hvalue] at h
    exact h

theorem key_of_get_object (hmembers : StationPayload numbers payload) {key : String}
    {members : Members} (hvalue : get payload key = .object members) :
    key ∈ ["geometry", "quality_flags"] := by
  rcases get_stationMember hmembers key with h | h
  · rw [hvalue] at h
    cases h
  · rw [hvalue] at h
    exact h

theorem get_isFinite_of_passthrough (hmembers : StationPayload numbers payload) {key : String}
    (hkey : key ∈ Staging.stagingPayloadPassthroughKeys) : (get payload key).isFinite = true := by
  rcases get_stationMember hmembers key with h | h
  · rw [h]
    rfl
  · cases hvalue : get payload key with
    | text t => rfl
    | boolean b => rfl
    | float x =>
      rw [hvalue] at h
      exact absurd hkey h.1
    | object members =>
      have hplace := key_of_get_object hmembers hvalue
      have hdisjoint : ∀ other ∈ ["geometry", "quality_flags"],
          other ∉ Staging.stagingPayloadPassthroughKeys := by decide
      exact absurd hkey (hdisjoint key hplace)
    | null => rfl
    | integer n => rfl
    | list values => exact absurd hvalue (get_ne_list hmembers key values)

theorem exists_metricsOf (hmembers : StationPayload numbers payload) (keys : List String) :
    ∃ metrics, metricsOf payload keys = .ok metrics ∧
    ((metrics.all fun entry => entry.2.isFinite) = true ↔
      ∀ key ∈ keys, ∀ x, get payload key = .float x → x.isFinite = true) := by
  induction keys with
  | nil => exact ⟨[], rfl, by simp⟩
  | cons key rest ih =>
    obtain ⟨metrics, hmetrics, hfinite⟩ := ih
    unfold metricsOf
    rw [List.forall_mem_cons, ← hfinite]
    split
    · rename_i n hvalue
      exact absurd hvalue (get_ne_integer hmembers key n)
    · rename_i x hvalue
      refine ⟨(key, .float x) :: metrics, by rw [hmetrics]; rfl, ?_⟩
      rw [List.all_cons, Bool.and_eq_true]
      refine and_congr_left fun _ => ⟨fun h y hy => ?_, fun h => h x hvalue⟩
      rw [hvalue] at hy
      cases hy
      exact h
    · rename_i hnot
      refine ⟨metrics, hmetrics, ?_⟩
      exact ⟨fun h => ⟨fun x hx => absurd hx (hnot x), h⟩, fun h => h.2⟩

theorem all_setMember {members : Members} {key : String} {value : Value}
    (hvalue : value.isFinite = true)
    (h : (members.all fun entry => entry.2.isFinite) = true) :
    ((setMember members key value).all fun entry => entry.2.isFinite) = true := by
  unfold setMember
  rw [List.all_cons, hvalue, Bool.true_and]
  rw [List.all_eq_true] at h ⊢
  exact fun entry hentry => h entry (List.mem_of_mem_filter hentry)

theorem exists_passthroughPayload (runtime : Runtime) (hmembers : StationPayload numbers payload) :
    ∃ passthrough, passthroughPayload runtime payload = .ok passthrough ∧
      (passthrough.all fun entry => entry.2.isFinite) = true := by
  have hpresent : ((presentMembers payload Staging.stagingPayloadPassthroughKeys).all
      fun entry => entry.2.isFinite) = true := by
    rw [List.all_eq_true]
    intro entry hentry
    obtain ⟨key, hkey, heq⟩ := List.mem_filterMap.mp hentry
    split_ifs at heq
    cases heq
    exact get_isFinite_of_passthrough hmembers hkey
  have hlimitations : withLimitations runtime payload
      (presentMembers payload Staging.stagingPayloadPassthroughKeys) =
        .ok (presentMembers payload Staging.stagingPayloadPassthroughKeys) := by
    unfold withLimitations
    split
    · rename_i values hvalue
      exact absurd hvalue (get_ne_list hmembers "limitations" values)
    · rfl
  refine ⟨_, by rw [passthroughPayload, hlimitations]; rfl, ?_⟩
  unfold withRevision
  split
  · split_ifs
    · exact hpresent
    · exact all_setMember rfl hpresent
  · exact hpresent

theorem all_locationPayload (hmembers : StationPayload numbers payload) :
    ((locationPayload payload).all fun entry => entry.2.isFinite) = true ↔
    ∀ members, get payload "geometry" = .object members → Value.membersFinite members = true := by
  have hquery : ∀ members, get payload "query_place" ≠ .object members := fun members hvalue =>
    absurd (key_of_get_object hmembers hvalue) (by decide)
  unfold locationPayload
  simp only [List.filterMap_cons, List.filterMap_nil]
  cases hgeometry : get payload "geometry" with
  | object members =>
    simp only [List.isEmpty_cons, Bool.false_eq_true, if_false, List.all_cons, List.all_nil,
      Bool.and_true]
    constructor
    · rintro h _ ⟨⟩
      simpa [Value.isFinite, Value.membersFinite] using h
    · intro h
      simpa [Value.isFinite, Value.membersFinite] using h members rfl
  | _ => exact ⟨fun _ _ h => (by cases h), fun _ => rfl⟩

theorem allFinite_texts {α : Type} (f : α → Text) (l : List α) :
    Value.allFinite (l.map fun a => .text (f a)) = true := by
  induction l with
  | nil => rfl
  | cons a rest ih => exact ih

theorem all_textMembers {α : Type} (key : String) (f : α → Text) (l : List α) :
    ((l.map fun a => (key, Value.text (f a))).all fun entry => entry.2.isFinite) = true := by
  rw [List.all_map]
  exact List.all_eq_true.mpr fun _ _ => rfl

variable {context : StagingContext} {evidence : NormalizedEvidence} {reason : Option String}
  {raw : RawSourceItem} {generation : Option IsoFormat.Reading}

theorem exists_toStagingUpsert (hraw : StationPayload numbers raw.payload) :
    ∃ row, toStagingUpsert runtime context evidence reason (some raw) generation = .ok row ∧
      row.sourceId = evidence.sourceId ∧
      ((stagedDocument row).isFinite = true ↔ NumbersFinite raw.payload) := by
  obtain ⟨metrics, hmetrics, hfinite⟩ := exists_metricsOf hraw Staging.realtimeMetricKeys
  obtain ⟨passthrough, hpassthrough, hpassed⟩ := exists_passthroughPayload runtime hraw
  have hlocation := all_locationPayload hraw
  have hpayload : payloadOf (some raw) = raw.payload := rfl
  refine ⟨_, by rw [toStagingUpsert, hpayload, realtimeMetricsPayload, hmetrics, hpassthrough]; rfl,
    rfl, ?_⟩
  unfold stagedDocument
  rw [Value.isFinite, Value.membersFinite_eq]
  simp only [List.all_append, List.all_cons, List.all_nil, Bool.and_eq_true, Bool.and_true, hpassed,
    Value.isFinite, allFinite_texts, all_textMembers, true_and, hfinite, hlocation]
  exact ⟨fun h => ⟨h.2, h.1⟩, fun h => ⟨h.place, h.metrics⟩⟩

theorem lookup_rawMembers (payload : Members) (key : String) :
    (rawMembers payload).lookup key = (payload.lookup key).map rawValue := by
  induction payload with
  | nil => rfl
  | cons entry rest ih =>
    obtain ⟨name, value⟩ := entry
    rw [rawMembers, List.lookup_cons, List.lookup_cons]
    cases key == name with
    | true => rfl
    | false => exact ih

theorem isHashable_getMember (hmembers : StationPayload numbers payload) {key : String}
    (hkey : key ∉ ["geometry", "quality_flags"]) :
    (Staging.getMember (rawMembers payload) key).isHashable = true := by
  have hvalue : Staging.getMember (rawMembers payload) key = rawValue (get payload key) := by
    unfold Staging.getMember Python.get
    rw [lookup_rawMembers]
    cases payload.lookup key <;> rfl
  rw [hvalue]
  cases hget : get payload key with
  | list values => exact absurd hget (get_ne_list hmembers key values)
  | object members => exact absurd (key_of_get_object hmembers hget) hkey
  | float x => cases x <;> rfl
  | null => rfl
  | boolean b => rfl
  | integer n => rfl
  | text t => rfl

theorem returns_choiceErrors {members : Staging.RawPayload} {key error : String}
    {texts : List String} (h : (Staging.getMember members key).isHashable = true) :
    Outcome.Returns (Staging.choiceErrors members key texts error) := by
  unfold Staging.choiceErrors Staging.isMember
  dsimp only
  rw [if_pos h]
  split_ifs <;> exact ⟨_, rfl⟩

theorem returns_metadataErrors {eventType : Promotion.EventType}
    (hmembers : StationPayload numbers raw.payload) (hevent : eventType ≠ .floodWarning) :
    Outcome.Returns (metadataErrors (some raw) eventType generation) := by
  obtain ⟨scope, hscope⟩ : Outcome.Returns (Staging.choiceErrors (rawMembers raw.payload)
      "evidence_scope" Staging.evidenceScopes "evidence_scope is not reviewed") :=
    returns_choiceErrors (isHashable_getMember hmembers (by decide))
  obtain ⟨precision, hprecision⟩ : Outcome.Returns (Staging.choiceErrors (rawMembers raw.payload)
      "location_precision" Staging.locationPrecisions "location_precision is not public") :=
    returns_choiceErrors (isHashable_getMember hmembers (by decide))
  unfold metadataErrors Staging.stagingMetadataErrors
  simp only [Option.map_some]
  rw [hscope]
  change Outcome.Returns (Except.mapError raisedBy (Staging.choiceErrors (rawMembers raw.payload)
    "location_precision" Staging.locationPrecisions "location_precision is not public" >>= _))
  rw [hprecision]
  change Outcome.Returns (Except.mapError raisedBy (if eventType = .floodWarning then _ else _))
  rw [if_neg hevent]
  exact ⟨_, rfl⟩

/-- The row of an evidence whose last item has such a payload. -/
theorem exists_stagedRow (context : StagingContext) {fetched : List RawSourceItem}
    (hlast : rawBySourceId fetched evidence.sourceId = some raw)
    (hraw : StationPayload numbers raw.payload) (hevent : evidence.eventType ≠ .floodWarning) :
    ∃ row, stagedRow runtime context fetched evidence = .ok row ∧
      row.sourceId = evidence.sourceId ∧
      ((stagedDocument row).isFinite = true ↔ NumbersFinite raw.payload) := by
  unfold stagedRow
  rw [hlast]
  dsimp only
  split_ifs with herrors
  · exact exists_toStagingUpsert hraw
  · obtain ⟨errors, hread⟩ := returns_metadataErrors hraw hevent
    rw [hread]
    change ∃ row, (if errors = [] then _ else _) = Except.ok row ∧ _
    split_ifs
    · exact exists_toStagingUpsert hraw
    · exact exists_toStagingUpsert hraw

end Payloads

end FloodRisk.Adapters
