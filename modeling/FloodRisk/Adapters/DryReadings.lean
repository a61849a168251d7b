import FloodRisk.Adapters.OwnReadings
import FloodRisk.Adapters.StationSources

/-!
# Dry readings of the station sources
-/

namespace FloodRisk.Adapters
open Python CivilIot

variable {runtime : Runtime}

/-! ### Flood sensors -/

theorem depthReading_dry {head dryNote : String} {depthCm : Double} {stationName : Text}
    (h : "dry" ∈ (depthReading runtime head dryNote depthCm stationName).2) :
    depthCm.isZero = true := by
  unfold depthReading at h
  split_ifs at h with hzero
  · exact hzero
  · exact absurd h (by simp)
  · exact absurd h List.not_mem_nil

theorem WraIow.normalize_spec {raw : RawSourceItem} {evidence : NormalizedEvidence}
    (h : WraIow.normalize runtime raw = .ok (some evidence)) : evidence.sourceId = raw.sourceId ∧
      ("dry" ∈ evidence.tags → "dry" ∈ qualityFlagTags raw.payload ∨
        ∃ depth, optionalFloat runtime (get raw.payload "flood_depth_cm") = .ok (some depth) ∧
          depth.isZero = true) := by
  unfold WraIow.normalize at h
  split_ifs at h
  · cases h
  obtain ⟨stationName, -, h⟩ := Outcome.bind_eq_ok.mp h
  obtain ⟨observedAt, -, h⟩ := Outcome.bind_eq_ok.mp h
  obtain ⟨depthCm, hdepth, h⟩ := Outcome.bind_eq_ok.mp h
  split at h
  · obtain ⟨evidenceId, -, h⟩ := Outcome.bind_eq_ok.mp h
    obtain ⟨locationText, -, h⟩ := Outcome.bind_eq_ok.mp h
    obtain ⟨credit, -, h⟩ := Outcome.bind_eq_ok.mp h
    cases h
    refine ⟨rfl, fun hdry => ?_⟩
    dsimp only at hdry
    rw [List.mem_eraseDups, List.mem_append, List.mem_append] at hdry
    rcases hdry with (hdry | hdry) | hdry
    · exact absurd hdry (by decide)
    · exact Or.inr ⟨_, hdepth, depthReading_dry hdry⟩
    · exact Or.inl hdry
  · cases h

theorem Tainan.normalize_spec {raw : RawSourceItem} {evidence : NormalizedEvidence}
    (h : Tainan.normalize runtime raw = .ok (some evidence)) : evidence.sourceId = raw.sourceId ∧
      ("dry" ∈ evidence.tags → "dry" ∈ qualityFlagTags raw.payload ∨
        ∃ depth, optionalFloat runtime (get raw.payload "flood_depth_cm") = .ok (some depth) ∧
          depth.isZero = true) := by
  unfold Tainan.normalize at h
  dsimp only at h
  split_ifs at h
  · cases h
  obtain ⟨stationName, -, h⟩ := Outcome.bind_eq_ok.mp h
  obtain ⟨observedAt, -, h⟩ := Outcome.bind_eq_ok.mp h
  obtain ⟨depthCm, hdepth, h⟩ := Outcome.bind_eq_ok.mp h
  split at h
  · obtain ⟨evidenceId, -, h⟩ := Outcome.bind_eq_ok.mp h
    obtain ⟨locationText, -, h⟩ := Outcome.bind_eq_ok.mp h
    obtain ⟨credit, -, h⟩ := Outcome.bind_eq_ok.mp h
    cases h
    refine ⟨rfl, fun hdry => ?_⟩
    dsimp only at hdry
    rw [List.mem_eraseDups, List.mem_append, List.mem_append] at hdry
    rcases hdry with (hdry | hdry) | hdry
    · exact absurd hdry (by decide)
    · exact Or.inr ⟨_, hdepth, depthReading_dry hdry⟩
    · exact Or.inl hdry
  · cases h

theorem FloodSensor.normalize_spec {raw : RawSourceItem} {evidence : NormalizedEvidence}
    (h : FloodSensor.normalize runtime raw = .ok (some evidence)) :
    evidence.sourceId = raw.sourceId ∧ ("dry" ∈ evidence.tags →
      ∃ depth, optionalFloat runtime (get raw.payload "value") = .ok (some depth) ∧
        depth.isZero = true) := by
  unfold FloodSensor.normalize at h
  obtain ⟨stationName, -, h⟩ := Outcome.bind_eq_ok.mp h
  obtain ⟨observedAt, -, h⟩ := Outcome.bind_eq_ok.mp h
  obtain ⟨depthCm, hdepth, h⟩ := Outcome.bind_eq_ok.mp h
  split at h
  · obtain ⟨locationText, -, h⟩ := Outcome.bind_eq_ok.mp h
    obtain ⟨evidenceId, -, h⟩ := Outcome.bind_eq_ok.mp h
    obtain ⟨credit, -, h⟩ := Outcome.bind_eq_ok.mp h
    cases h
    refine ⟨rfl, fun hdry => ?_⟩
    dsimp only at hdry
    cases List.mem_append.mp hdry with
    | inl hfixed => exact absurd hfixed (by decide)
    | inr hdepthTag => exact ⟨_, hdepth, depthReading_dry hdepthTag⟩
  · cases h

/-! ### Gauges -/

theorem CwaRainfall.normalize_spec {raw : RawSourceItem} {evidence : NormalizedEvidence}
    (h : CwaRainfall.normalize runtime raw = .ok (some evidence)) :
    evidence.sourceId = raw.sourceId ∧ "dry" ∉ evidence.tags := by
  unfold CwaRainfall.normalize at h
  dsimp only at h
  obtain ⟨observedAt, -, h⟩ := Outcome.bind_eq_ok.mp h
  obtain ⟨rainfall1h, -, h⟩ := Outcome.bind_eq_ok.mp h
  obtain ⟨rainfall24h, -, h⟩ := Outcome.bind_eq_ok.mp h
  obtain ⟨rainfall10m, -, h⟩ := Outcome.bind_eq_ok.mp h
  split at h
  · split_ifs at h
    · cases h
    · obtain ⟨county, -, h⟩ := Outcome.bind_eq_ok.mp h
      obtain ⟨town, -, h⟩ := Outcome.bind_eq_ok.mp h
      obtain ⟨evidenceId, -, h⟩ := Outcome.bind_eq_ok.mp h
      obtain ⟨credit, -, h⟩ := Outcome.bind_eq_ok.mp h
      cases h
      exact ⟨rfl, by simp⟩
  · cases h

theorem WraWaterLevel.levelReading_notDry {waterLevelM : Double} {warningLevelM : Option Double} :
    "dry" ∉ (WraWaterLevel.levelReading runtime waterLevelM warningLevelM).2 := by
  unfold WraWaterLevel.levelReading
  dsimp only
  split
  · dsimp only
    split_ifs
    · decide
    · exact List.not_mem_nil
  · exact List.not_mem_nil

theorem WraWaterLevel.normalize_spec {raw : RawSourceItem} {evidence : NormalizedEvidence}
    (h : WraWaterLevel.normalize runtime raw = .ok (some evidence)) :
    evidence.sourceId = raw.sourceId ∧ "dry" ∉ evidence.tags := by
  unfold WraWaterLevel.normalize at h
  dsimp only at h
  obtain ⟨observedAt, -, h⟩ := Outcome.bind_eq_ok.mp h
  obtain ⟨waterLevelM, -, h⟩ := Outcome.bind_eq_ok.mp h
  obtain ⟨warningLevelM, -, h⟩ := Outcome.bind_eq_ok.mp h
  split at h
  · split_ifs at h
    · cases h
    · obtain ⟨riverName, -, h⟩ := Outcome.bind_eq_ok.mp h
      obtain ⟨evidenceId, -, h⟩ := Outcome.bind_eq_ok.mp h
      obtain ⟨credit, -, h⟩ := Outcome.bind_eq_ok.mp h
      cases h
      refine ⟨rfl, fun hdry => ?_⟩
      cases List.mem_append.mp hdry with
      | inl hfixed => exact absurd hfixed (by decide)
      | inr hlevel => exact levelReading_notDry hlevel
  · cases h

theorem WaterLevel.normalize_spec {network : WaterLevelNetwork} {raw : RawSourceItem}
    {evidence : NormalizedEvidence}
    (h : WaterLevel.normalize runtime network raw = .ok (some evidence)) :
    evidence.sourceId = raw.sourceId ∧ "dry" ∉ evidence.tags := by
  unfold WaterLevel.normalize at h
  obtain ⟨stationName, -, h⟩ := Outcome.bind_eq_ok.mp h
  obtain ⟨observedAt, -, h⟩ := Outcome.bind_eq_ok.mp h
  obtain ⟨waterLevelM, -, h⟩ := Outcome.bind_eq_ok.mp h
  split at h
  · split_ifs at h
    · cases h
    · obtain ⟨locationText, -, h⟩ := Outcome.bind_eq_ok.mp h
      obtain ⟨evidenceId, -, h⟩ := Outcome.bind_eq_ok.mp h
      obtain ⟨credit, -, h⟩ := Outcome.bind_eq_ok.mp h
      cases h
      exact ⟨rfl, network.neverDry⟩
  · cases h

/-! ### The items of a fetch -/

/-- A depth that was measured is the metric of the item. -/
theorem measurement_of_depth {raw : RawSourceItem} {key : String} {depth x : Double}
    (hvalue : get raw.payload key = .float x)
    (hdepth : optionalFloat runtime (get raw.payload key) = .ok (some depth)) :
    measurement raw key = some depth := by
  rw [hvalue] at hdepth
  cases hdepth
  simp [measurement, hvalue]

theorem qualityFlagTags_notMem {payload flags : Members} {tag : String}
    (hflags : get payload "quality_flags" = .object flags) (htag : tag ∉ flags.map Prod.fst) :
    tag ∉ qualityFlagTags payload := by
  intro hmem
  unfold qualityFlagTags at hmem
  rw [hflags] at hmem
  obtain ⟨flag, hflag, heq⟩ := List.mem_filterMap.mp hmem
  split at heq
  · cases heq
    exact htag (List.mem_map.mpr ⟨flag, hflag, rfl⟩)
  · cases heq

theorem WraIow.depth_of_parse {resourceUrl metadataUrl : Text} {stations : List (Text × Members)}
    {item record : Members}
    (h : WraIow.parseLatestRecord runtime resourceUrl metadataUrl stations item = .ok (some record)) :
    (∃ x, get (rawItemOf record).payload "flood_depth_cm" = .float x) ∧
      "dry" ∉ qualityFlagTags (rawItemOf record).payload := by
  unfold WraIow.parseLatestRecord at h
  obtain ⟨stationId, -, h⟩ := Outcome.bind_eq_ok.mp h
  obtain ⟨observedAt, -, h⟩ := Outcome.bind_eq_ok.mp h
  obtain ⟨depthCm, -, h⟩ := Outcome.bind_eq_ok.mp h
  split at h
  · split_ifs at h
    · cases h
    · obtain ⟨countyCode, -, h⟩ := Outcome.bind_eq_ok.mp h
      obtain ⟨areaCode, -, h⟩ := Outcome.bind_eq_ok.mp h
      cases h
      exact ⟨⟨_, rfl⟩, qualityFlagTags_notMem rfl (by simp)⟩
  · cases h

theorem Tainan.depth_of_parse {resourceUrl metadataUrl : Text} {stations : List (Text × Members)}
    {item record : Members}
    (h : Tainan.parseRealtimeRecord runtime resourceUrl metadataUrl stations item =
      .ok (some record)) :
    (∃ x, get (rawItemOf record).payload "flood_depth_cm" = .float x) ∧
      "dry" ∉ qualityFlagTags (rawItemOf record).payload := by
  unfold Tainan.parseRealtimeRecord at h
  obtain ⟨stationId, -, h⟩ := Outcome.bind_eq_ok.mp h
  obtain ⟨observedAt, -, h⟩ := Outcome.bind_eq_ok.mp h
  obtain ⟨depthCm, -, h⟩ := Outcome.bind_eq_ok.mp h
  split at h
  · split_ifs at h
    · cases h
    · obtain ⟨innerDoubt, -, h⟩ := Outcome.bind_eq_ok.mp h
      obtain ⟨battery, -, h⟩ := Outcome.bind_eq_ok.mp h
      obtain ⟨rssi, -, h⟩ := Outcome.bind_eq_ok.mp h
      obtain ⟨snr, -, h⟩ := Outcome.bind_eq_ok.mp h
      obtain ⟨enabled, -, h⟩ := Outcome.bind_eq_ok.mp h
      cases h
      exact ⟨⟨_, rfl⟩, qualityFlagTags_notMem rfl (by simp)⟩
  · cases h

/-- The depth of a raw item is its value. -/
theorem FloodSensor.depth_of_rawItemOf {record : Members} {raw : RawSourceItem} {depth : Double}
    (h : FloodSensor.rawItemOf runtime record = .ok raw)
    (hdepth : optionalFloat runtime (get raw.payload "value") = .ok (some depth)) :
    measurement raw "flood_depth_cm" = some depth := by
  unfold FloodSensor.rawItemOf at h
  obtain ⟨payload, hpayload, h⟩ := Outcome.bind_eq_ok.mp h
  cases h
  unfold FloodSensor.rawPayload at hpayload
  dsimp only at hpayload hdepth
  obtain ⟨value, hvalue, hpayload⟩ := Outcome.bind_eq_ok.mp hpayload
  cases value with
  | none =>
    cases hpayload
    rw [hdepth] at hvalue
    cases hvalue
  | some x =>
    cases hpayload
    have hkept : get (setMember (setMember (setMember record "source_url"
        (.text (textOf record "source_url"))) "evidence_scope" (.text (text "current")))
          "flood_depth_cm" (.float x)) "value" =
        get (setMember (setMember record "source_url" (.text (textOf record "source_url")))
          "evidence_scope" (.text (text "current"))) "value" :=
      get_setMember_of_ne (by decide)
    rw [hkept, hvalue] at hdepth
    cases hdepth
    rfl

/-! ### The sources -/

/-- The raw items of a source that wraps its records. -/
theorem mem_map_rawItemOf {parse : Members → Except Raised (Option Members)} {items : List Value}
    {records : List Members} (h : parseItems parse items = .ok records) {raw : RawSourceItem}
    (hraw : raw ∈ records.map rawItemOf) :
    ∃ members record, parse members = .ok (some record) ∧ raw = rawItemOf record := by
  obtain ⟨record, hrecord, rfl⟩ := List.mem_map.mp hraw
  obtain ⟨members, -, hparse⟩ := parseItems_mem h hrecord
  exact ⟨members, record, hparse, rfl⟩

theorem StationSource.normalizesReadings {source : StationSource} {fetched : List RawSourceItem}
    (h : source.fetch runtime = .ok fetched) :
    NormalizesReadings (source.normalize runtime) fetched := by
  cases source with
  | wraIow resourceUrl metadataUrl stations latest =>
    refine ⟨fun raw evidence hnormalized => (WraIow.normalize_spec hnormalized).1, ?_⟩
    intro raw hraw evidence hnormalized hdry
    obtain ⟨metadata, -, h⟩ := Outcome.bind_eq_ok.mp h
    obtain ⟨records, hrecords, h⟩ := Outcome.bind_eq_ok.mp h
    cases h
    obtain ⟨members, record, hparse, rfl⟩ := mem_map_rawItemOf hrecords hraw
    obtain ⟨⟨x, hx⟩, hflags⟩ := WraIow.depth_of_parse hparse
    obtain ⟨depth, hdepth, hzero⟩ :=
      ((WraIow.normalize_spec hnormalized).2 hdry).resolve_left hflags
    exact ⟨depth, measurement_of_depth hx hdepth, hzero⟩
  | tainan resourceUrl metadataUrl stations latest =>
    refine ⟨fun raw evidence hnormalized => (Tainan.normalize_spec hnormalized).1, ?_⟩
    intro raw hraw evidence hnormalized hdry
    obtain ⟨metadata, -, h⟩ := Outcome.bind_eq_ok.mp h
    obtain ⟨records, hrecords, h⟩ := Outcome.bind_eq_ok.mp h
    cases h
    obtain ⟨members, record, hparse, rfl⟩ := mem_map_rawItemOf hrecords hraw
    obtain ⟨⟨x, hx⟩, hflags⟩ := Tainan.depth_of_parse hparse
    obtain ⟨depth, hdepth, hzero⟩ :=
      ((Tainan.normalize_spec hnormalized).2 hdry).resolve_left hflags
    exact ⟨depth, measurement_of_depth hx hdepth, hzero⟩
  | cwaRainfall resourceUrl latest =>
    refine ⟨fun raw evidence hnormalized => (CwaRainfall.normalize_spec hnormalized).1, ?_⟩
    intro raw _ evidence hnormalized hdry
    exact absurd hdry (CwaRainfall.normalize_spec hnormalized).2
  | wraWaterLevel resourceUrl metadataUrl stations latest =>
    refine ⟨fun raw evidence hnormalized => (WraWaterLevel.normalize_spec hnormalized).1, ?_⟩
    intro raw _ evidence hnormalized hdry
    exact absurd hdry (WraWaterLevel.normalize_spec hnormalized).2
  | civilIotFloodSensor pages =>
    refine ⟨fun raw evidence hnormalized => (FloodSensor.normalize_spec hnormalized).1, ?_⟩
    intro raw hraw evidence hnormalized hdry
    obtain ⟨records, -, h⟩ := Outcome.bind_eq_ok.mp h
    obtain ⟨record, -, hitem⟩ := Outcome.exists_of_mem_mapM h hraw
    obtain ⟨depth, hdepth, hzero⟩ := (FloodSensor.normalize_spec hnormalized).2 hdry
    exact ⟨depth, FloodSensor.depth_of_rawItemOf hitem hdepth, hzero⟩
  | civilIotWaterLevel network pages =>
    refine ⟨fun raw evidence hnormalized => (WaterLevel.normalize_spec hnormalized).1, ?_⟩
    intro raw _ evidence hnormalized hdry
    exact absurd hdry (WaterLevel.normalize_spec hnormalized).2

/-- The rows of a station source have the readings of their own items exactly where each reading
that is normalized agrees with the last one of its station and time. -/
theorem station_rows_own_readings_iff {source : StationSource} {context : StagingContext}
    {result : AdapterRunResult} {batch : AdapterStagingBatch}
    (hrun : source.run runtime = .ok result)
    (hbuild : buildStagingBatch runtime context result = .ok batch) :
    StagesOwnReadings runtime context (source.normalize runtime) result.fetched batch ↔
      LastReadingsAgree (source.normalize runtime) result.fetched := by
  obtain ⟨fetched, hfetched, hrows⟩ := Outcome.bind_eq_ok.mp hrun
  obtain ⟨heq, hnormalized⟩ := runFetched_spec hrows
  subst heq
  exact stagesOwnReadings_iff (source.normalizesReadings hfetched) hnormalized hbuild

/-! ### Two readings of one station and one time -/

/-- Python on texts that need no printing. -/
def plainRuntime : Runtime where
  printing := ⟨fun _ => [], fun _ => .error .typeError⟩
  parseFloat := fun _ => none
  casefold := id
  formatFixed := fun _ _ => []
  shortest := fun q => ⟨q.num.natAbs, 0⟩
  sha256 := id
  subtract := fun _ _ => .nan
  twd97ToWgs84 := fun _ _ => .error .valueError

def sensorItem (latestValue : ℤ) : Value :=
  .object [("sensorid", .text (text "s")), ("timestamp", .text (text "2026-07-01T08:00:00+08:00")),
    ("latestvalue", .integer latestValue)]

def sensorStation : Value :=
  .object [("sensorid", .text (text "s")), ("longitude", .integer 121), ("latitude", .integer 25)]

def repeatedReading (first second : ℤ) : StationSource :=
  .wraIow (text "https://opendata.wra.gov.tw") (text "https://opendata.wra.gov.tw") [sensorStation]
    [sensorItem first, sensorItem second]

def plainContext : StagingContext := ⟨text "raw", none, none⟩

def isDryTagged (row : StagedRow) : Bool :=
  match row.payload.lookup "tags" with
  | some (.list tags) => tags.any fun tag =>
      match tag with
      | .text t => t = text "dry"
      | _ => false
  | _ => false

def stagedDepth (row : StagedRow) : Option Double :=
  match row.payload.lookup "flood_depth_cm" with
  | some (.float x) => some x
  | _ => none

/-- The rows of a source, by the dry tag and the depth that are staged. -/
def stagedDepths (source : StationSource) : Option (List (Bool × Option Double)) :=
  match source.run plainRuntime with
  | .error _ => none
  | .ok result =>
      match buildStagingBatch plainRuntime plainContext result with
      | .error _ => none
      | .ok batch => some (batch.rows.map fun row => (isDryTagged row, stagedDepth row))

theorem stagedDepths_spec {source : StationSource} {rows : List (Bool × Option Double)}
    (h : stagedDepths source = some rows) : ∃ result batch, source.run plainRuntime = .ok result ∧
      buildStagingBatch plainRuntime plainContext result = .ok batch ∧
      batch.rows.map (fun row => (isDryTagged row, stagedDepth row)) = rows := by
  unfold stagedDepths at h
  split at h
  · cases h
  · rename_i result hrun
    split at h
    · cases h
    · rename_i batch hbuild
      exact ⟨result, batch, hrun, hbuild, Option.some.inj h⟩

theorem dryTagged_of_isDryTagged {row : StagedRow} (h : isDryTagged row = true) : DryTagged row := by
  unfold isDryTagged at h
  split at h
  · rename_i tags htags
    obtain ⟨tag, htag, hdry⟩ := List.any_eq_true.mp h
    split at hdry
    · exact ⟨tags, htags, of_decide_eq_true hdry ▸ htag⟩
    · cases hdry
  · cases h

/-- A dry reading is staged with the depth of the reading after it. -/
theorem dry_row_with_other_depth :
    ∃ result batch, (repeatedReading 0 30).run plainRuntime = .ok result ∧
      buildStagingBatch plainRuntime plainContext result = .ok batch ∧
      ¬ StagesOwnReadings plainRuntime plainContext ((repeatedReading 0 30).normalize plainRuntime)
        result.fetched batch := by
  have hrows : stagedDepths (repeatedReading 0 30) =
      some [(true, some (.finite 30)), (false, some (.finite 30))] := by decide +kernel
  obtain ⟨result, batch, hrun, hbuild, hdepths⟩ := stagedDepths_spec hrows
  refine ⟨result, batch, hrun, hbuild, fun hown => ?_⟩
  have hfirst : (true, some (.finite 30)) ∈
      batch.rows.map fun row => (isDryTagged row, stagedDepth row) := by
    rw [hdepths]
    exact List.mem_cons_self
  obtain ⟨row, hrow, heq⟩ := List.mem_map.mp hfirst
  obtain ⟨htagged, hdepth⟩ := Prod.mk.inj heq
  obtain ⟨depth, hlookup, hzero⟩ := hown.dry row hrow (dryTagged_of_isDryTagged htagged)
  unfold stagedDepth at hdepth
  rw [hlookup] at hdepth
  cases hdepth
  exact absurd hzero (by decide)

theorem station_rows_own_readings_iff_repeated :
    ∃ result batch, (repeatedReading 30 30).run plainRuntime = .ok result ∧
      buildStagingBatch plainRuntime plainContext result = .ok batch ∧
      (StagesOwnReadings plainRuntime plainContext ((repeatedReading 30 30).normalize plainRuntime)
        result.fetched batch ↔
          LastReadingsAgree ((repeatedReading 30 30).normalize plainRuntime) result.fetched) := by
  have hrows : stagedDepths (repeatedReading 30 30) =
      some [(false, some (.finite 30)), (false, some (.finite 30))] := by decide +kernel
  obtain ⟨result, batch, hrun, hbuild, -⟩ := stagedDepths_spec hrows
  exact ⟨result, batch, hrun, hbuild, station_rows_own_readings_iff hrun hbuild⟩

end FloodRisk.Adapters
