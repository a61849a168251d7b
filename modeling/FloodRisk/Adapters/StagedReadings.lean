import FloodRisk.Adapters.StationRun

/-!
# The reading of a staged row

What `_to_staging_upsert` takes over from the raw item that it is given.
-/

namespace FloodRisk.Adapters
open Python

/-- A metric of a raw item. -/
def measurement (raw : RawSourceItem) (key : String) : Option Double :=
  match get raw.payload key with
  | .float x => some x
  | .integer n => (Double.ofInteger n).toOption
  | _ => none

def locationOf (raw : RawSourceItem) : Option Value :=
  (locationPayload raw.payload).lookup "location_payload"

/-- The measurements and the location of a raw item in a staged row. -/
structure CarriesReading (row : StagedRow) (raw : RawSourceItem) : Prop where
  measurements : ∀ key ∈ Staging.realtimeMetricKeys,
    row.payload.lookup key = (measurement raw key).map .float
  location : row.payload.lookup "location_payload" = locationOf raw

structure SameReading (raw other : RawSourceItem) : Prop where
  measurements : ∀ key ∈ Staging.realtimeMetricKeys, measurement raw key = measurement other key
  location : locationOf raw = locationOf other

/-! ### Members of the staged payload -/

/-- Members whose keys are among some keys have no other key. -/
theorem lookup_eq_none_of_keys {members : Members} {keys : List String}
    (h : ∀ entry ∈ members, entry.1 ∈ keys) {key : String} (hkey : key ∉ keys) :
    members.lookup key = none := by
  rw [List.lookup_eq_none_iff]
  intro entry hentry
  simp only [bne_iff_ne, ne_eq]
  rintro rfl
  exact hkey (h entry hentry)

theorem get_setMember_of_ne {members : Members} {key other : String} {value : Value}
    (h : key ≠ other) : get (setMember members other value) key = get members key := by
  unfold Python.get setMember
  have hdiffer : (key == other) = false := by simpa using h
  rw [List.lookup_cons, hdiffer]
  congr 1
  induction members with
  | nil => rfl
  | cons entry rest ih =>
    obtain ⟨name, first⟩ := entry
    rw [List.filter_cons]
    by_cases hname : key = name
    · subst hname
      rw [if_pos (decide_eq_true h), List.lookup_cons_self, List.lookup_cons_self]
    · have hother : (key == name) = false := by simpa using hname
      rw [List.lookup_cons, hother]
      split_ifs
      · rw [List.lookup_cons, hother]
        exact ih
      · exact ih

theorem metricsOf_keys {payload metrics : Members} {keys : List String}
    (h : metricsOf payload keys = .ok metrics) : ∀ entry ∈ metrics, entry.1 ∈ keys := by
  induction keys generalizing metrics with
  | nil =>
    cases h
    exact fun _ hentry => absurd hentry List.not_mem_nil
  | cons key rest ih =>
    unfold metricsOf at h
    split at h
    · obtain ⟨x, -, h⟩ := Outcome.bind_eq_ok.mp h
      obtain ⟨others, hothers, h⟩ := Outcome.bind_eq_ok.mp h
      cases h
      intro entry hentry
      cases hentry with
      | head => exact List.mem_cons_self
      | tail _ hrest => exact List.mem_cons_of_mem _ (ih hothers entry hrest)
    · obtain ⟨others, hothers, h⟩ := Outcome.bind_eq_ok.mp h
      cases h
      intro entry hentry
      cases hentry with
      | head => exact List.mem_cons_self
      | tail _ hrest => exact List.mem_cons_of_mem _ (ih hothers entry hrest)
    · exact fun entry hentry => List.mem_cons_of_mem _ (ih h entry hentry)

theorem metricsOf_lookup {raw : RawSourceItem} {metrics : Members} {keys : List String}
    (h : metricsOf raw.payload keys = .ok metrics) (hnodup : keys.Nodup) {key : String}
    (hkey : key ∈ keys) : metrics.lookup key = (measurement raw key).map .float := by
  induction keys generalizing metrics with
  | nil => exact absurd hkey List.not_mem_nil
  | cons first rest ih =>
    obtain ⟨hfirst, hrest⟩ := List.nodup_cons.mp hnodup
    have hother : ∀ others, metricsOf raw.payload rest = .ok others →
        key ≠ first → others.lookup key = (measurement raw key).map .float := fun others hothers hne =>
      ih hothers hrest ((List.mem_cons.mp hkey).resolve_left hne)
    have hnone : ∀ others, metricsOf raw.payload rest = .ok others → others.lookup first = none :=
      fun others hothers => lookup_eq_none_of_keys (metricsOf_keys hothers) hfirst
    unfold metricsOf at h
    by_cases hsame : key = first
    · subst hsame
      split at h
      · rename_i n hvalue
        obtain ⟨x, hx, h⟩ := Outcome.bind_eq_ok.mp h
        obtain ⟨others, -, h⟩ := Outcome.bind_eq_ok.mp h
        cases h
        rw [List.lookup_cons_self]
        simp [measurement, hvalue, hx, Except.toOption]
      · rename_i x hvalue
        obtain ⟨others, -, h⟩ := Outcome.bind_eq_ok.mp h
        cases h
        rw [List.lookup_cons_self]
        simp [measurement, hvalue]
      · rename_i hinteger hfloat
        rw [hnone metrics h, measurement]
        cases hvalue : get raw.payload key with
        | integer n => exact absurd hvalue (hinteger n)
        | float x => exact absurd hvalue (hfloat x)
        | _ => rfl
    · have hdiffer : (key == first) = false := by simpa using hsame
      split at h
      · obtain ⟨x, -, h⟩ := Outcome.bind_eq_ok.mp h
        obtain ⟨others, hothers, h⟩ := Outcome.bind_eq_ok.mp h
        cases h
        rw [List.lookup_cons, hdiffer]
        exact hother others hothers hsame
      · obtain ⟨others, hothers, h⟩ := Outcome.bind_eq_ok.mp h
        cases h
        rw [List.lookup_cons, hdiffer]
        exact hother others hothers hsame
      · exact hother metrics h hsame

theorem locationPayload_keys (payload : Members) :
    ∀ entry ∈ locationPayload payload, entry.1 ∈ ["location_payload"] := by
  intro entry hentry
  unfold locationPayload at hentry
  dsimp only at hentry
  split_ifs at hentry
  · exact absurd hentry List.not_mem_nil
  · rw [List.mem_singleton.mp hentry]
    exact List.mem_cons_self

theorem presentMembers_keys (payload : Members) (keys : List String) :
    ∀ entry ∈ presentMembers payload keys, entry.1 ∈ keys := by
  intro entry hentry
  obtain ⟨key, hkey, hentry⟩ := List.mem_filterMap.mp hentry
  split_ifs at hentry
  cases hentry
  exact hkey

theorem setMember_keys {members : Members} {keys : List String}
    (h : ∀ entry ∈ members, entry.1 ∈ keys) {key : String} (hkey : key ∈ keys) (value : Value) :
    ∀ entry ∈ setMember members key value, entry.1 ∈ keys := by
  intro entry hentry
  cases hentry with
  | head => exact hkey
  | tail _ hrest => exact h entry (List.mem_of_mem_filter hrest)

variable {runtime : Runtime}

theorem withLimitations_keys {payload members limited : Members} {keys : List String}
    (hkeys : ∀ entry ∈ members, entry.1 ∈ keys) (hkey : "limitations" ∈ keys)
    (h : withLimitations runtime payload members = .ok limited) :
    ∀ entry ∈ limited, entry.1 ∈ keys := by
  unfold withLimitations at h
  split at h
  · rename_i values hvalues
    cases htexts : values.mapM (str runtime.printing) with
    | error e =>
      rw [htexts] at h
      cases h
    | ok texts =>
      rw [htexts] at h
      cases h
      exact setMember_keys hkeys hkey _
  · cases h
    exact hkeys

theorem withRevision_keys {payload members : Members} {keys : List String}
    (hkeys : ∀ entry ∈ members, entry.1 ∈ keys) (hkey : "dataset_revision" ∈ keys) :
    ∀ entry ∈ withRevision payload members, entry.1 ∈ keys := by
  unfold withRevision
  split
  · split_ifs
    · exact hkeys
    · exact setMember_keys hkeys hkey _
  · exact hkeys

theorem passthroughPayload_keys {payload passthrough : Members}
    (h : passthroughPayload runtime payload = .ok passthrough) :
    ∀ entry ∈ passthrough, entry.1 ∈ Staging.stagingPayloadPassthroughKeys := by
  unfold passthroughPayload at h
  cases hlimited : withLimitations runtime payload
      (presentMembers payload Staging.stagingPayloadPassthroughKeys) with
  | error e =>
    rw [hlimited] at h
    cases h
  | ok limited =>
    rw [hlimited] at h
    cases h
    exact withRevision_keys
      (withLimitations_keys (presentMembers_keys payload _) (by decide) hlimited) (by decide)

/-- The payload of a row, in its parts. -/
theorem toStagingUpsert_payload {context : StagingContext} {evidence : NormalizedEvidence}
    {reason : Option String} {rawItem : Option RawSourceItem} {generation : Option IsoFormat.Reading}
    {row : StagedRow}
    (h : toStagingUpsert runtime context evidence reason rawItem generation = .ok row) :
    ∃ metrics passthrough, realtimeMetricsPayload (payloadOf rawItem) = .ok metrics ∧
      passthroughPayload runtime (payloadOf rawItem) = .ok passthrough ∧
      row.payload = ("location_text", .text evidence.locationText) ::
        (locationPayload (payloadOf rawItem) ++ (metrics ++ (passthrough ++
          ((generation.toList.map fun started =>
            ("ingestion_generation_started_at", Value.text (text (isoformat started)))) ++
          ((context.snapshotGenerationMode.toList.map fun mode =>
            ("snapshot_generation_mode", Value.text (text mode))) ++
          [("attribution", .text evidence.attribution),
            ("tags", .list (evidence.tags.map fun tag => .text (text tag)))]))))) := by
  unfold toStagingUpsert at h
  obtain ⟨metrics, hmetrics, h⟩ := Outcome.bind_eq_ok.mp h
  obtain ⟨passthrough, hpassthrough, h⟩ := Outcome.bind_eq_ok.mp h
  cases h
  refine ⟨metrics, passthrough, hmetrics, hpassthrough, ?_⟩
  simp only [List.append_assoc, List.cons_append, List.nil_append]

/-- The keys of a staged payload other than those of the reading. -/
def otherStagedKeys : List String :=
  Staging.stagingPayloadPassthroughKeys ++
    ["location_text", "ingestion_generation_started_at", "snapshot_generation_mode", "attribution",
      "tags"]

theorem toStagingUpsert_spec {context : StagingContext} {evidence : NormalizedEvidence}
    {reason : Option String} {raw : RawSourceItem} {generation : Option IsoFormat.Reading}
    {row : StagedRow}
    (h : toStagingUpsert runtime context evidence reason (some raw) generation = .ok row) :
    CarriesReading row raw := by
  obtain ⟨metrics, passthrough, hmetrics, hpassthrough, hpayload⟩ := toStagingUpsert_payload h
  change realtimeMetricsPayload raw.payload = .ok metrics at hmetrics
  change passthroughPayload runtime raw.payload = .ok passthrough at hpassthrough
  change row.payload = _ :: (locationPayload raw.payload ++ _) at hpayload
  obtain ⟨others, hothers⟩ : ∃ others, others = passthrough ++
      ((generation.toList.map fun started =>
        ("ingestion_generation_started_at", Value.text (text (isoformat started)))) ++
      ((context.snapshotGenerationMode.toList.map fun mode =>
        ("snapshot_generation_mode", Value.text (text mode))) ++
      [("attribution", .text evidence.attribution),
        ("tags", .list (evidence.tags.map fun tag => .text (text tag)))])) := ⟨_, rfl⟩
  rw [← hothers] at hpayload
  have hkeys : ∀ entry ∈ others, entry.1 ∈ otherStagedKeys := by
    intro entry hentry
    rw [hothers] at hentry
    unfold otherStagedKeys
    rw [List.mem_append]
    rcases List.mem_append.mp hentry with hentry | hentry
    · exact Or.inl (passthroughPayload_keys hpassthrough entry hentry)
    · refine Or.inr ?_
      rcases List.mem_append.mp hentry with hentry | hentry
      · obtain ⟨started, -, rfl⟩ := List.mem_map.mp hentry
        simp
      · rcases List.mem_append.mp hentry with hentry | hentry
        · obtain ⟨mode, -, rfl⟩ := List.mem_map.mp hentry
          simp
        · cases hentry with
          | head => simp
          | tail _ hlast =>
            rw [List.mem_singleton.mp hlast]
            simp
  have hlookup : ∀ key ∉ otherStagedKeys, row.payload.lookup key =
      ((locationPayload raw.payload).lookup key).or (metrics.lookup key) := by
    intro key hkey
    have hfirst : (key == "location_text") = false := by
      have hne : key ≠ "location_text" := by
        rintro rfl
        exact hkey (by decide)
      simpa using hne
    rw [hpayload, List.lookup_cons, hfirst, List.lookup_append, List.lookup_append,
      lookup_eq_none_of_keys hkeys hkey, Option.or_none]
  constructor
  · intro key hkey
    have hdisjoint : ∀ other ∈ Staging.realtimeMetricKeys,
        other ∉ otherStagedKeys ∧ other ∉ ["location_payload"] := by decide
    rw [hlookup key (hdisjoint key hkey).1,
      lookup_eq_none_of_keys (locationPayload_keys _) (hdisjoint key hkey).2, Option.none_or,
      metricsOf_lookup hmetrics (by decide) hkey]
  · have hnone : metrics.lookup "location_payload" = none :=
      lookup_eq_none_of_keys (metricsOf_keys hmetrics) (by decide)
    rw [hlookup "location_payload" (by decide), hnone, Option.or_none]
    rfl

end FloodRisk.Adapters
