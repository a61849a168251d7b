import FloodRisk.Realtime.Jurisdiction

/-!
# Station and source reads (api domain/evidence/repository.py)

`queryNearbyRealtimeCoverageRows` merges the stations of the latest table with
those of the evidence table; `buildNearbySourceHealth` turns the health rows of
the requested sources into what a coverage shows.
-/

namespace FloodRisk.Realtime
open Promotion

/-! ### Tables -/

/-- A row of `official_realtime_latest`. -/
structure StationReading (Geometry : Type) where
  adapterKey : String
  sourceId : String
  eventType : String
  stationId : String
  observedAt : ℤ
  ingestedAt : ℤ
  geom : Geometry
  rainfallMm1h : Option ℚ := none
  waterLevelM : Option ℚ := none
  warningLevelM : Option ℚ := none
  floodDepthCm : Option ℚ := none

/-- The columns of an `evidence` row that the supplement reads. -/
structure EvidenceReading (Geometry : Type) where
  dataSourceKey : Option String
  sourceId : String
  eventType : String
  stationIdProperty : String := ""
  observedAt : Option ℤ
  ingestedAt : ℤ
  geom : Option Geometry
  isOfficial : Bool
  isAccepted : Bool
  isPublicOrAggregated : Bool

/-- What the tables of sources, jobs and inventories say of a source. -/
structure SourceHealthRow extends RealtimeSourceHealthRow where
  adapterKey : String
  name : String
  inventoryComplete : Bool := false

structure RealtimeTables (Geometry : Type) extends JurisdictionTables Geometry where
  latest : List (StationReading Geometry)
  evidence : List (EvidenceReading Geometry)
  sources : List SourceHealthRow

/-! ### Sources -/

/-- The health row of a key without a data source. -/
def unregisteredSource (adapterKey : String) : SourceHealthRow where
  isEnabled := false
  configuredHealthStatus := .unknown
  lastSuccessAt := none
  lastFailureAt := none
  latestRunStatus := none
  latestRunAt := none
  latestObservedAt := none
  latestIngestedAt := none
  stationCount := some 0
  isRegistered := false
  adapterKey := adapterKey
  name := adapterKey

variable {Geometry Point : Type} (geography : Geography Geometry Point)
  (tables : RealtimeTables Geometry) (point : Point)

def sourceRow (adapterKey : String) : SourceHealthRow :=
  (tables.sources.find? fun source => source.adapterKey = adapterKey).getD
    (unregisteredSource adapterKey)

/-- `JOIN data_sources .. AND data_sources.is_enabled = true`. -/
def isEnabledSource (adapterKey : String) : Bool :=
  (sourceRow tables adapterKey).isRegistered && (sourceRow tables adapterKey).isEnabled

/-- `query_realtime_source_health_rows`: a row for each requested key. -/
def queryRealtimeSourceHealthRows (adapterKeys : List String) : List SourceHealthRow :=
  adapterKeys.map (sourceRow tables)

/-! ### Stations -/

/-- A coverage row with the column that only its merge reads. -/
structure CoverageRead extends NearbyCoverageRow where
  ingestedAt : ℤ
  deriving DecidableEq

def freshnessState (freshSeconds : ℤ) (now : ℤ) : Option ℤ → FreshnessState
  | none => .stale
  | some observedAt =>
      if observedAt ≥ now - seconds freshSeconds then .fresh
      else if observedAt ≥ now - seconds (freshSeconds * 3) then .degraded
      else .stale

/-- `split_part(text, ':', field)`. -/
def splitPart (text : String) (field : ℕ) : String := (text.splitOn ":").getD (field - 1) ""

/-- `_normalized_station_id`. -/
def normalizedStationId (stationId sourceId : String) : Option String :=
  let candidate := if stationId = "" then sourceId else stationId
  match candidate.splitOn ":" with
  | _ :: station :: _ :: _ =>
      if station = "" then some candidate else some station
  | _ => if candidate = "" then none else some candidate

def sourceFreshSeconds (adapterKey : String) : ℤ :=
  freshnessSeconds (sourceRow tables adapterKey).toRealtimeSourceHealthRow

def latestCoverageRead (now : ℤ) (reading : StationReading Geometry) : CoverageRead where
  adapterKey := reading.adapterKey
  sourceId := reading.sourceId
  eventType := reading.eventType
  stationId := normalizedStationId reading.stationId reading.sourceId
  observedAt := some reading.observedAt
  distanceToQueryM := geography.distance reading.geom point
  freshnessState :=
    freshnessState (sourceFreshSeconds tables reading.adapterKey) now (some reading.observedAt)
  rainfallMm1h := reading.rainfallMm1h
  waterLevelM := reading.waterLevelM
  warningLevelM := reading.warningLevelM
  floodDepthCm := reading.floodDepthCm
  ingestedAt := reading.ingestedAt

/-- `_query_nearby_latest_coverage_rows`; the bounding box that precedes the
distance is wider than it at these latitudes. The rows stand as in the table,
whose order is any, so also the one that the statement sorts them in. -/
def queryNearbyLatestCoverageRows (now : ℤ) : List CoverageRead :=
  (tables.latest.filter fun reading => isEnabledSource tables reading.adapterKey &&
    geography.isWithin reading.geom point coverageRadiusM).map
      (latestCoverageRead geography tables point now)

def evidenceStationId (reading : EvidenceReading Geometry) : String :=
  if reading.stationIdProperty ≠ "" then reading.stationIdProperty
  else if splitPart reading.sourceId 3 ≠ "" then splitPart reading.sourceId 2
  else reading.sourceId

/-- A candidate row of the supplement, when its source and its place qualify. -/
def evidenceCandidate (now : ℤ) (reading : EvidenceReading Geometry) : Option CoverageRead :=
  match reading.dataSourceKey, reading.geom with
  | some adapterKey, some geom =>
      if isEnabledSource tables adapterKey && reading.isOfficial && reading.isAccepted &&
          reading.isPublicOrAggregated &&
          (reading.eventType = "rainfall" || reading.eventType = "water_level") &&
          geography.isWithin geom point coverageRadiusM then
        some
          { adapterKey := adapterKey
            sourceId := reading.sourceId
            eventType := reading.eventType
            stationId := some (evidenceStationId reading)
            observedAt := reading.observedAt
            distanceToQueryM := geography.distance geom point
            freshnessState :=
              freshnessState (sourceFreshSeconds tables adapterKey) now reading.observedAt
            ingestedAt := reading.ingestedAt }
      else none
  | _, _ => none

/-- `observed_at DESC NULLS LAST`. -/
def observedBefore (first second : Option ℤ) : Bool :=
  match first, second with
  | some firstAt, some secondAt => secondAt < firstAt
  | some _, none => true
  | none, _ => false

def newestFirst (first second : CoverageRead) : Bool :=
  observedBefore first.observedAt second.observedAt ||
    first.observedAt = second.observedAt && second.ingestedAt ≤ first.ingestedAt

def nearestFirst (first second : CoverageRead) : Bool :=
  first.distanceToQueryM < second.distanceToQueryM ||
    first.distanceToQueryM = second.distanceToQueryM &&
      !observedBefore second.observedAt first.observedAt

def maxSupplementRows : ℕ := 200

/-- `_query_nearby_evidence_coverage_rows`: the newest row of each station. -/
def queryNearbyEvidenceCoverageRows (now : ℤ) : List CoverageRead :=
  let candidates := tables.evidence.filterMap (evidenceCandidate geography tables point now)
  let newest := distinctBy (fun row => (row.adapterKey, row.eventType, row.stationId))
    (candidates.insertionSort fun first second => newestFirst first second)
  (limitBy nearestFirst maxSupplementRows newest).map fun row =>
    { row with stationId := normalizedStationId (row.stationId.getD "") row.sourceId }

/-- `_coverage_row_recency` of the first row is not above that of the second. -/
def recencyLe (first second : CoverageRead) : Bool :=
  match first.observedAt, second.observedAt with
  | none, some _ => true
  | some _, none => false
  | firstAt, secondAt =>
      let firstAt := firstAt.getD first.ingestedAt
      let secondAt := secondAt.getD second.ingestedAt
      firstAt < secondAt || firstAt = secondAt && first.ingestedAt ≤ second.ingestedAt

def rowIdentity (row : CoverageRead) : String × String × String :=
  (row.adapterKey, row.eventType, row.stationId.getD row.sourceId)

def mergeRow (merged : List CoverageRead) (row : CoverageRead) : List CoverageRead :=
  if merged.any fun current => rowIdentity current = rowIdentity row then
    merged.map fun current =>
      if rowIdentity current = rowIdentity row && !recencyLe row current then row else current
  else merged ++ [row]

def mergeNearbyCoverageRows (latestRows evidenceRows : List CoverageRead) : List CoverageRead :=
  ((latestRows ++ evidenceRows).foldl mergeRow []).insertionSort fun first second =>
    first.distanceToQueryM ≤ second.distanceToQueryM

/-- `query_nearby_realtime_coverage_rows`; the supplement may time out, which
only a read without latest rows reports. -/
def queryNearbyRealtimeCoverageRows (supplementAvailable : Bool) (now : ℤ) :
    Option (List CoverageRead) :=
  let latestRows := queryNearbyLatestCoverageRows geography tables point now
  if supplementAvailable then
    some (mergeNearbyCoverageRows latestRows
      (queryNearbyEvidenceCoverageRows geography tables point now))
  else if latestRows ≠ [] then some latestRows
  else none

/-! ### `build_nearby_source_health` -/

def publicSourceNames : List (String × String) :=
  [("official.cwa.rainfall", "中央氣象署雨量觀測"),
    ("official.cwa.tide_level", "中央氣象署潮位觀測"),
    ("official.wra.water_level", "經濟部水利署河川水位觀測"),
    ("official.wra_iow.flood_depth", "經濟部水利署淹水感測"),
    ("official.civil_iot.flood_sensor", "水利署 Civil IoT 淹水感測"),
    ("official.civil_iot.river_water_level", "水利署 Civil IoT 河川水位"),
    ("official.civil_iot.pond_water_level", "水利署 Civil IoT 埤塘水位"),
    ("official.civil_iot.sewer_water_level", "水利署 Civil IoT 下水道水位"),
    ("official.civil_iot.pump_water_level", "水利署 Civil IoT 抽水站水位"),
    ("official.civil_iot.gate_water_level", "水利署 Civil IoT 水門水位"),
    ("official.cwa.heavy_rain_warning", "中央氣象署豪雨警戒"),
    ("official.ncdr.cap", "國家災害防救科技中心淹水警戒")]

def localityLabels : List (String × String) :=
  [("taipei", "臺北市"), ("new_taipei", "新北市"), ("keelung", "基隆市"), ("taoyuan", "桃園市"),
    ("hsinchu_city", "新竹市"), ("hsinchu_county", "新竹縣"), ("miaoli", "苗栗縣"),
    ("taichung", "臺中市"), ("changhua", "彰化縣"), ("nantou", "南投縣"), ("yunlin", "雲林縣"),
    ("chiayi_city", "嘉義市"), ("chiayi_county", "嘉義縣"), ("tainan", "臺南市"),
    ("kaohsiung", "高雄市"), ("pingtung", "屏東縣"), ("yilan", "宜蘭縣"), ("hualien", "花蓮縣"),
    ("taitung", "臺東縣"), ("penghu", "澎湖縣"), ("kinmen", "金門縣")]

def startsWith (text start : String) : Bool := start.toList.isPrefixOf text.toList

def publicSourceName (adapterKey : String) (signalType : SignalType) : String :=
  match publicSourceNames.lookup adapterKey with
  | some name => name
  | none =>
      let label := signalLabel signalType
      if startsWith adapterKey "official.cwa." then "中央氣象署" ++ label ++ "觀測"
      else if startsWith adapterKey "official.wra." || startsWith adapterKey "official.wra_iow." then
        "經濟部水利署" ++ label ++ "觀測"
      else if startsWith adapterKey "official.civil_iot." then
        "水利署 Civil IoT " ++ label ++ "觀測"
      else if startsWith adapterKey "local." then
        (localityLabels.lookup ((adapterKey.splitOn ".").getD 1 "")).getD "地方政府" ++ label ++ "觀測"
      else "官方" ++ label ++ "資料來源"

/-- `public_realtime_source_id`. -/
def publicRealtimeSourceId (adapterKey : String) : String :=
  let normalized := adapterKey.toLower.map fun c => if c.isAlphanum then c else '-'
  String.ofList
    ((String.intercalate "-" ((normalized.splitOn "-").filter (· ≠ ""))).toList.take 120)

def latestTimestamp (values : List (Option ℤ)) : Option ℤ := (values.filterMap id).max?

def nearbySourceHealth (evaluatedAt : ℤ) (jurisdictionsByAdapter : String → List String)
    (requiredAdapterKeys : List String) (row : SourceHealthRow) : Option NearbySourceHealth :=
  (adapterSignalTypes.lookup row.adapterKey).map fun signalType =>
    let decision := sourceHealthDecision row.toRealtimeSourceHealthRow signalType evaluatedAt
    { sourceId := publicRealtimeSourceId row.adapterKey
      name := publicSourceName row.adapterKey signalType
      signalTypes := [signalType]
      healthStatus := decision.healthStatus
      reasonCode := decision.reasonCode
      observedAt := row.latestObservedAt
      checkedAt := latestTimestamp
        [row.runtimePipelineCheckedAt, row.runtimeEnabledCheckedAt, row.latestRunAt,
          row.latestIngestedAt, row.lastSuccessAt, row.lastFailureAt]
      stationCount := row.stationCount
      inventoryComplete := row.inventoryComplete
      jurisdictions := jurisdictionsByAdapter row.adapterKey
      requiredForAbsence := row.adapterKey ∈ requiredAdapterKeys
      message := decision.message }

def buildNearbySourceHealth (rows : List SourceHealthRow) (evaluatedAt : ℤ)
    (jurisdictionsByAdapter : String → List String) (requiredAdapterKeys : List String) :
    List NearbySourceHealth :=
  orderBy (fun item => [item.name, item.sourceId])
    (rows.filterMap (nearbySourceHealth evaluatedAt jurisdictionsByAdapter requiredAdapterKeys))

/-! ### What the station read holds -/

section Reads

variable {geography : Geography Geometry Point} {tables : RealtimeTables Geometry} {point : Point}
  {now : ℤ} {row : CoverageRead}

theorem sourceRow_adapterKey (tables : RealtimeTables Geometry) (adapterKey : String) :
    (sourceRow tables adapterKey).adapterKey = adapterKey := by
  unfold sourceRow
  cases hfound : tables.sources.find? fun source => source.adapterKey = adapterKey with
  | none => rfl
  | some source =>
      have hkey := List.find?_some hfound
      exact of_decide_eq_true hkey

theorem latest_within (h : row ∈ queryNearbyLatestCoverageRows geography tables point now) :
    row.distanceToQueryM ≤ coverageRadiusM := by
  obtain ⟨reading, hreading, heq⟩ := List.mem_map.mp h
  have hnear := (List.mem_filter.mp hreading).2
  rw [Bool.and_eq_true] at hnear
  rw [← heq]
  exact of_decide_eq_true hnear.2

theorem candidate_within {reading : EvidenceReading Geometry}
    (h : evidenceCandidate geography tables point now reading = some row) :
    row.distanceToQueryM ≤ coverageRadiusM := by
  unfold evidenceCandidate at h
  split at h
  · split at h
    · rename_i hqualified
      have heq := Option.some.inj h
      rw [← heq]
      simp only [Bool.and_eq_true] at hqualified
      exact of_decide_eq_true hqualified.2
    · exact absurd h (by simp)
  · exact absurd h (by simp)

theorem supplement_within (h : row ∈ queryNearbyEvidenceCoverageRows geography tables point now) :
    row.distanceToQueryM ≤ coverageRadiusM := by
  obtain ⟨newest, hnewest, heq⟩ := List.mem_map.mp h
  have hsorted := mem_of_distinctBy (mem_of_limitBy hnewest)
  have hcandidate := (List.mem_insertionSort _).mp hsorted
  obtain ⟨reading, -, hreading⟩ := List.mem_filterMap.mp hcandidate
  have hnear := candidate_within hreading
  rw [← heq]
  exact hnear

theorem mem_mergeRow {merged : List CoverageRead} {added : CoverageRead}
    (h : row ∈ mergeRow merged added) : row ∈ merged ∨ row = added := by
  unfold mergeRow at h
  split at h
  · obtain ⟨current, hcurrent, heq⟩ := List.mem_map.mp h
    split at heq
    · exact Or.inr heq.symm
    · exact Or.inl (heq ▸ hcurrent)
  · rcases List.mem_append.mp h with hold | hnew
    · exact Or.inl hold
    · exact Or.inr (List.mem_singleton.mp hnew)

theorem mem_foldl_mergeRow {rows merged : List CoverageRead}
    (h : row ∈ rows.foldl mergeRow merged) : row ∈ merged ∨ row ∈ rows := by
  induction rows generalizing merged with
  | nil => exact Or.inl h
  | cons first rest ih =>
      rcases ih h with hmerged | hrest
      · rcases mem_mergeRow hmerged with hold | hnew
        · exact Or.inl hold
        · exact Or.inr (hnew ▸ List.mem_cons_self)
      · exact Or.inr (List.mem_cons_of_mem first hrest)

theorem exists_mergeRow {merged : List CoverageRead} {added : CoverageRead}
    (h : (∃ kept ∈ merged, rowIdentity kept = rowIdentity row) ∨
      rowIdentity added = rowIdentity row) :
    ∃ kept ∈ mergeRow merged added, rowIdentity kept = rowIdentity row := by
  unfold mergeRow
  split
  · rename_i hknown
    have hstored : ∃ kept ∈ merged, rowIdentity kept = rowIdentity row := by
      rcases h with hstored | hadded
      · exact hstored
      · obtain ⟨kept, hkept, hsame⟩ := List.any_eq_true.mp hknown
        exact ⟨kept, hkept, (of_decide_eq_true hsame).trans hadded⟩
    obtain ⟨kept, hkept, hsame⟩ := hstored
    refine ⟨_, List.mem_map_of_mem hkept, ?_⟩
    split
    · rename_i hreplaced
      rw [Bool.and_eq_true] at hreplaced
      exact (of_decide_eq_true hreplaced.1).symm.trans hsame
    · exact hsame
  · rcases h with ⟨kept, hkept, hsame⟩ | hadded
    · exact ⟨kept, List.mem_append_left _ hkept, hsame⟩
    · exact ⟨added, List.mem_append_right _ List.mem_cons_self, hadded⟩

theorem exists_foldl_mergeRow {rows merged : List CoverageRead}
    (h : (∃ kept ∈ merged, rowIdentity kept = rowIdentity row) ∨ row ∈ rows) :
    ∃ kept ∈ rows.foldl mergeRow merged, rowIdentity kept = rowIdentity row := by
  induction rows generalizing merged with
  | nil =>
      rcases h with hmerged | hmem
      · exact hmerged
      · exact absurd hmem List.not_mem_nil
  | cons first rest ih =>
      apply ih
      rcases h with hmerged | hmem
      · exact Or.inl (exists_mergeRow (Or.inl hmerged))
      · rcases List.mem_cons.mp hmem with heq | hrest
        · exact Or.inl (exists_mergeRow (Or.inr (heq ▸ rfl)))
        · exact Or.inr hrest

theorem mem_mergeNearbyCoverageRows {latestRows evidenceRows : List CoverageRead}
    (h : row ∈ mergeNearbyCoverageRows latestRows evidenceRows) :
    row ∈ latestRows ∨ row ∈ evidenceRows := by
  rcases mem_foldl_mergeRow ((List.mem_insertionSort _).mp h) with hnone | hmem
  · exact absurd hnone List.not_mem_nil
  · exact List.mem_append.mp hmem

theorem exists_mergeNearbyCoverageRows {latestRows evidenceRows : List CoverageRead}
    (h : row ∈ latestRows ∨ row ∈ evidenceRows) :
    ∃ kept ∈ mergeNearbyCoverageRows latestRows evidenceRows,
      kept.adapterKey = row.adapterKey ∧ kept.eventType = row.eventType := by
  have hread : (∃ kept ∈ ([] : List CoverageRead), rowIdentity kept = rowIdentity row) ∨
      row ∈ latestRows ++ evidenceRows := Or.inr (List.mem_append.mpr h)
  obtain ⟨kept, hkept, hsame⟩ := exists_foldl_mergeRow hread
  exact ⟨kept, (List.mem_insertionSort _).mpr hkept, congrArg Prod.fst hsame,
    congrArg (fun identity => identity.2.1) hsame⟩

end Reads

end FloodRisk.Realtime
