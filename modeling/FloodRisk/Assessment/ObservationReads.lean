import FloodRisk.Assessment.Repository
import FloodRisk.Assessment.Service
import FloodRisk.Lib.Table
import Mathlib.Data.List.Infix
import Mathlib.Data.Prod.Lex
import Mathlib.Data.String.Basic

/-!
# Current and retained observations (api domain/evidence/repository.py)

`queryNearbyLatestOfficial` reads the rows that the realtime score is made of
and `queryNearbyObservedFloodHistory` the retained flood depths of the
historical score.  A property that is a timestamp or a number is the value its
text denotes; rows that an `ORDER BY` leaves tied come in the order of their
primary key.
-/

namespace FloodRisk.Assessment
open Promotion Realtime Risk

/-! ### Tables -/

/-- The columns of an `evidence` row that the two reads use. -/
structure EvidenceRow (Geometry : Type) extends EvidenceReading Geometry where
  id : ℕ
  title : String := ""
  occurredAt : Option ℤ := none
  confidence : ℚ
  freshnessScore : Option ℚ := none
  sourceWeight : Option ℚ := none
  evidenceScope : Option String := none
  floodDepthCm : Option String := none
  realtimeStationEnabled : Option String := none
  metadataStationEnabled : Option String := none
  /-- The value of a present key, which may be null. -/
  locationPrecision : Option (Option String) := none
  capStatus : Option String := none
  capMessageType : Option String := none
  capSender : Option String := none
  capIdentifier : Option String := none
  capSent : Option ℤ := none
  adminCode : Option String := none
  activeFrom : Option ℤ := none
  activeUntil : Option ℤ := none
  ingestionGenerationStartedAt : Option ℤ := none

/-- A row of `official_realtime_latest` with its score columns. -/
structure LatestRow (Geometry : Type) extends StationReading Geometry where
  evidenceId : Option ℕ
  confidence : Option ℚ := none
  freshnessScore : Option ℚ := none
  sourceWeight : Option ℚ := none
  riskFactor : Option ℚ := none
  activeSnapshotRawRef : Option String := none
  locationPrecision : Option (Option String) := none
  updatedAt : ℤ

def LatestRow.key {Geometry : Type} (row : LatestRow Geometry) : String × String × String :=
  (row.adapterKey, row.eventType, row.stationId)

/-- The columns of `ingestion_jobs` that retire a warning. -/
structure IngestionJobRow where
  adapterKey : String
  isSucceeded : Bool
  errorCode : Option String
  startedAt : Option ℤ

structure ObservationTables (Geometry : Type) extends JurisdictionTables Geometry where
  sources : List SourceHealthRow
  /-- `metadata->>'active_snapshot_raw_ref'` of a source. -/
  activeSnapshotRawRef : String → Option String
  ingestionJobs : List IngestionJobRow
  evidence : Table (fun row : EvidenceRow Geometry => row.id)
  latest : Table (fun row : LatestRow Geometry => row.key)

def ObservationTables.toRealtimeTables {Geometry : Type} (tables : ObservationTables Geometry) :
    RealtimeTables Geometry where
  toJurisdictionTables := tables.toJurisdictionTables
  latest := tables.latest.rows.map LatestRow.toStationReading
  evidence := tables.evidence.rows.map EvidenceRow.toEvidenceReading
  sources := tables.sources

/-! ### Values of properties -/

def isAsciiDigit (c : Char) : Bool := '0' ≤ c && c ≤ '9'

def digitsValue (digits : List Char) : ℕ :=
  digits.foldl (fun value c => 10 * value + (c.toNat - '0'.toNat)) 0

/-- A text that `^[0-9]+([.][0-9]+)?$` matches, as a number. -/
def plainDecimal (text : String) : Option ℚ :=
  let whole := text.toList.takeWhile isAsciiDigit
  match text.toList.dropWhile isAsciiDigit with
  | [] => if whole = [] then none else some (digitsValue whole)
  | '.' :: fraction =>
      if whole ≠ [] && fraction ≠ [] && fraction.all isAsciiDigit then
        some (digitsValue whole + digitsValue fraction / 10 ^ fraction.length)
      else none
  | _ => none

def locationPrecisionNames : List (String × LocationPrecision) :=
  [("point", .point), ("road_or_lane", .roadOrLane), ("poi", .poi), ("admin_area", .adminArea),
    ("polygon", .polygon), ("inferred", .inferred), ("map_click", .mapClick)]

def namedPrecision (property : Option (Option String)) : Option LocationPrecision :=
  property.join.bind fun name => locationPrecisionNames.lookup name

/-- `title LIKE '%(停用)%'`. -/
def isTitledInactive (title : String) : Bool := "(停用)".toList <:+: title.toList

def eventTypeNames : List (String × EventType) :=
  [("rainfall", .rainfall), ("water_level", .waterLevel), ("flood_warning", .floodWarning),
    ("flood_potential", .floodPotential), ("flood_report", .floodReport),
    ("status_only", .statusOnly), ("road_closure", .roadClosure), ("discussion", .discussion)]

namespace EvidenceRow

variable {Geometry : Type} (row : EvidenceRow Geometry)

def isStationEnabled (adapterKey : String) : Bool :=
  row.realtimeStationEnabled ≠ some "false" && row.metadataStationEnabled ≠ some "false" &&
    !(adapterKey = tainanFloodSensor && isTitledInactive row.title)

/-- `COALESCE(NULLIF(properties->>'station_id', ''), source_id)`. -/
def stationKey : String :=
  if row.stationIdProperty = "" then row.sourceId else row.stationIdProperty

end EvidenceRow

/-! ### `query_nearby_latest_official` -/

/-- A latest row joined with its evidence. -/
structure LatestCandidate (Geometry : Type) where
  latest : LatestRow Geometry
  evidence : EvidenceRow Geometry

def latestEventTypes : List String :=
  ["rainfall", "water_level", "flood_report", "flood_depth", "flood_warning"]

section Latest

variable {Geometry Point : Type} (geography : Geography Geometry Point)
  (tables : ObservationTables Geometry) (point : Point)

def joinEvidence (latest : LatestRow Geometry) : Option (LatestCandidate Geometry) :=
  (latest.evidenceId.bind tables.evidence.find).map fun evidence => ⟨latest, evidence⟩

def joinedLatest : List (LatestCandidate Geometry) :=
  tables.latest.rows.filterMap (joinEvidence tables)

namespace LatestCandidate

variable (candidate : LatestCandidate Geometry)

def evidenceGeom : Geometry := candidate.evidence.geom.getD candidate.latest.geom

def distanceToQueryM : ℚ := geography.distance candidate.evidenceGeom point

def confidence : ℚ := candidate.latest.confidence.getD candidate.evidence.confidence

def freshnessScore : ℚ :=
  (candidate.latest.freshnessScore.or candidate.evidence.freshnessScore).getD (8 / 10)

def sourceWeight : ℚ :=
  (candidate.latest.sourceWeight.or candidate.evidence.sourceWeight).getD 1

def locationPrecision : LocationPrecision :=
  if candidate.evidence.locationPrecision = none && candidate.latest.locationPrecision = none then
    .point
  else
    ((namedPrecision candidate.evidence.locationPrecision).or
      (namedPrecision candidate.latest.locationPrecision)).getD .unknown

end LatestCandidate

/-- `parsed_latest`. -/
def isParsedLatest (radiusM : ℕ) (candidate : LatestCandidate Geometry) : Bool :=
  let latest := candidate.latest
  let evidence := candidate.evidence
  latest.eventType ∈ latestEventTypes &&
    isEnabledSource tables.toRealtimeTables latest.adapterKey &&
    evidence.evidenceScope = some "current" && evidence.isAccepted &&
    (latest.adapterKey ≠ ncdrCap ||
      latest.activeSnapshotRawRef.isSome &&
        latest.activeSnapshotRawRef =
          (tables.activeSnapshotRawRef latest.adapterKey).filter (· ≠ "")) &&
    evidence.isStationEnabled latest.adapterKey &&
    !geography.isEmpty candidate.evidenceGeom && geography.isValid candidate.evidenceGeom &&
    geography.isWithin candidate.evidenceGeom point radiusM

/-- A succeeded poll without an active event started after the generation. -/
def isRetired (adapterKey : String) (generationStartedAt : ℤ) : Bool :=
  tables.ingestionJobs.any fun retired =>
    retired.adapterKey = adapterKey && retired.isSucceeded &&
      retired.errorCode = some "no_active_event" &&
      retired.startedAt.any (generationStartedAt ≤ ·)

def isBoundedText (text : Option String) : Bool :=
  text.any fun value => 1 ≤ value.length && value.length ≤ 512

def isEligibleWarning (asOf : ℤ) (candidate : LatestCandidate Geometry) : Bool :=
  let evidence := candidate.evidence
  candidate.latest.eventType = "flood_warning" && evidence.capStatus = some "Actual" &&
    (evidence.capMessageType = some "Alert" || evidence.capMessageType = some "Update") &&
    evidence.activeFrom.any (· ≤ asOf) && evidence.activeUntil.any (asOf < ·) &&
    isBoundedText evidence.capSender && isBoundedText evidence.capIdentifier &&
    evidence.capSent.isSome && evidence.adminCode.any (fullmatchDigits 8) &&
    evidence.ingestionGenerationStartedAt.any fun startedAt =>
      !isRetired tables candidate.latest.adapterKey startedAt

/-- `eligible_latest`. -/
def isEligibleLatest (asOf : ℤ) (candidate : LatestCandidate Geometry) : Bool :=
  candidate.latest.eventType ≠ "flood_warning" || isEligibleWarning tables asOf candidate

def eligibleLatest (radiusM : ℕ) (asOf : ℤ) : List (LatestCandidate Geometry) :=
  (joinedLatest tables).filter fun candidate =>
    isParsedLatest geography tables point radiusM candidate &&
      isEligibleLatest tables asOf candidate

def authorityRank (adapterKey : String) : ℕ :=
  if adapterKey = cwaHeavyRainWarning then 0 else if adapterKey = ncdrCap then 1 else 2

def primaryKeyOrder (candidate : LatestCandidate Geometry) : String ×ₗ String ×ₗ String :=
  toLex (candidate.latest.adapterKey,
    toLex (candidate.latest.eventType, candidate.latest.stationId))

/-- `observed_at DESC, updated_at DESC, id`. -/
def newestOrder (candidate : LatestCandidate Geometry) :
    ℤ ×ₗ ℤ ×ₗ ℕ ×ₗ String ×ₗ String ×ₗ String :=
  toLex (-candidate.latest.observedAt, toLex (-candidate.latest.updatedAt,
    toLex (candidate.evidence.id, primaryKeyOrder candidate)))

def warningOrder (candidate : LatestCandidate Geometry) :
    ℕ ×ₗ ℤ ×ₗ ℤ ×ₗ ℕ ×ₗ String ×ₗ String ×ₗ String :=
  toLex (authorityRank candidate.latest.adapterKey, newestOrder candidate)

def warningOrigin (candidate : LatestCandidate Geometry) :
    Option String × Option String × Option ℤ × Option String :=
  (candidate.evidence.capSender, candidate.evidence.capIdentifier, candidate.evidence.capSent,
    candidate.evidence.adminCode)

/-- `deduplicated_latest`: of the warnings of one origin the first stays. -/
def deduplicatedLatest (radiusM : ℕ) (asOf : ℤ) : List (LatestCandidate Geometry) :=
  let eligible := eligibleLatest geography tables point radiusM asOf
  eligible.filter fun candidate =>
    candidate.latest.eventType ≠ "flood_warning" ||
      !eligible.any fun other => other.latest.eventType = "flood_warning" &&
        warningOrigin other = warningOrigin candidate &&
        decide (warningOrder other < warningOrder candidate)

def nearestOrder (candidate : LatestCandidate Geometry) :
    ℚ ×ₗ ℤ ×ₗ ℤ ×ₗ ℕ ×ₗ String ×ₗ String ×ₗ String :=
  toLex (candidate.distanceToQueryM geography point, newestOrder candidate)

/-- `signal_family_rank` is 1. -/
def leadsFamily (rows : List (LatestCandidate Geometry)) (candidate : LatestCandidate Geometry) :
    Bool :=
  !rows.any fun other => other.latest.eventType = candidate.latest.eventType &&
    decide (nearestOrder geography point other < nearestOrder geography point candidate)

def selectedOrder (rows : List (LatestCandidate Geometry)) (candidate : LatestCandidate Geometry) :
    ℕ ×ₗ ℚ ×ₗ ℤ ×ₗ ℤ ×ₗ ℕ ×ₗ String ×ₗ String ×ₗ String :=
  toLex (if leadsFamily geography point rows candidate then 0 else 1,
    nearestOrder geography point candidate)

def boundedLimit (limit : ℤ) : ℕ := (max 1 (min limit 100)).toNat

/-- `selected_latest`. -/
def selectedLatest (radiusM : ℕ) (asOf limit : ℤ) : List (LatestCandidate Geometry) :=
  let rows := deduplicatedLatest geography tables point radiusM asOf
  limitBy (fun a b => decide (selectedOrder geography point rows a ≤
    selectedOrder geography point rows b)) (boundedLimit limit) rows

/-- The returned rows; `currentRecord` is the record of one. -/
def queryNearbyLatestOfficial (radiusM : ℕ) (asOf : ℤ) (limit : ℤ := 50) :
    Except String (List (LatestCandidate Geometry)) :=
  if 50 ≤ radiusM ∧ radiusM ≤ 5000 then
    .ok ((selectedLatest geography tables point radiusM asOf limit).insertionSort fun a b =>
      nearestOrder geography point a ≤ nearestOrder geography point b)
  else .error "radius_m must be between 50 and 5000"

def currentRecord (candidate : LatestCandidate Geometry) (eventType : EventType) :
    EvidenceRecord where
  sourceType := .official
  eventType := eventType
  occurredAt := candidate.evidence.occurredAt
  observedAt := some candidate.latest.observedAt
  distanceToQueryM := some (candidate.distanceToQueryM geography point)
  confidence := candidate.confidence
  freshnessScore := candidate.freshnessScore
  sourceWeight := candidate.sourceWeight
  rainfallMm1h := candidate.latest.rainfallMm1h
  waterLevelM := candidate.latest.waterLevelM
  warningLevelM := candidate.latest.warningLevelM
  floodDepthCm := candidate.latest.floodDepthCm
  realtimeRiskFactor := candidate.latest.riskFactor
  evidenceScope := .current
  adapterKey := some candidate.latest.adapterKey
  locationPrecision := candidate.locationPrecision

end Latest

/-! ### `_official_current` -/

section OfficialCurrent

variable {Geometry : Type}

/-- `_SCORING_CURRENT_ADAPTER_EVENTS`. -/
def scoringCurrentAdapterEvents : List (String × String × EventType) :=
  [("official.cwa.rainfall", "rainfall", .rainfall),
    ("official.wra.water_level", "water_level", .waterLevel),
    (wraIowFloodDepth, "flood_report", .floodReport),
    (tainanFloodSensor, "flood_report", .floodReport),
    (cwaHeavyRainWarning, "flood_warning", .floodWarning),
    (ncdrCap, "flood_warning", .floodWarning)]

def LatestCandidate.scoringEvent (candidate : LatestCandidate Geometry) : Option EventType :=
  (scoringCurrentAdapterEvents.find? fun event =>
    event.1 = candidate.latest.adapterKey && event.2.1 = candidate.latest.eventType).map (·.2.2)

/-- `official_event_origin_key` of a warning. -/
def LatestCandidate.originKey (candidate : LatestCandidate Geometry) :
    Option (Option String × Option String × Option ℤ × Option String) :=
  if candidate.latest.eventType = "flood_warning" then some (warningOrigin candidate) else none

/-- `_warning_origin_rank`. -/
def warningOriginRank (candidate : LatestCandidate Geometry) : ℕ ×ₗ ℤ :=
  toLex (authorityRank candidate.latest.adapterKey, -candidate.latest.observedAt)

def addCurrent (output : List (LatestCandidate Geometry)) (item : LatestCandidate Geometry) :
    List (LatestCandidate Geometry) :=
  match item.originKey with
  | none => output ++ [item]
  | some key =>
      if output.any fun other => other.originKey = some key then
        output.map fun other =>
          if other.originKey = some key ∧ warningOriginRank item < warningOriginRank other then item
          else other
      else output ++ [item]

def officialCurrent (records : List (LatestCandidate Geometry)) : List (LatestCandidate Geometry) :=
  (records.filter fun item => item.scoringEvent.isSome).foldl addCurrent []

theorem addCurrent_of_new {output : List (LatestCandidate Geometry)}
    {item : LatestCandidate Geometry}
    (hnew : ∀ other ∈ output, item.originKey ≠ none → other.originKey ≠ item.originKey) :
    addCurrent output item = output ++ [item] := by
  unfold addCurrent
  cases hitem : item.originKey with
  | none => rfl
  | some key =>
      rw [hitem] at hnew
      have hany : (output.any fun other => other.originKey = some key) = false := by
        refine List.any_eq_false.mpr ?_
        intro other hother
        simpa using hnew other hother (by simp)
      simp only [hany, Bool.false_eq_true, if_false]

/-- Rows of distinct origins all stay. -/
theorem officialCurrent_of_distinct {records : List (LatestCandidate Geometry)}
    (distinct : records.Pairwise fun a b => b.originKey ≠ none → a.originKey ≠ b.originKey) :
    officialCurrent records = records.filter fun item => item.scoringEvent.isSome := by
  have hfold : ∀ items output : List (LatestCandidate Geometry),
      (output ++ items).Pairwise (fun a b => b.originKey ≠ none → a.originKey ≠ b.originKey) →
        items.foldl addCurrent output = output ++ items := by
    intro items
    induction items with
    | nil => simp
    | cons item rest ih =>
        intro output hpairs
        have hnew := (List.pairwise_append.mp hpairs).2.2
        rw [List.foldl_cons, addCurrent_of_new
          (fun other hother => hnew other hother item List.mem_cons_self)]
        rw [ih, List.append_assoc, List.singleton_append]
        simpa using hpairs
  exact hfold _ [] (distinct.filter _)

end OfficialCurrent

/-! ### `query_nearby_observed_flood_history` -/

def observedFloodHistoryWindow : ℤ := 365 * 5 * 24 * hour

def observedFloodHistoryCurrentGrace : ℤ := 6 * hour

section History

variable {Geometry Point : Type} (geography : Geography Geometry Point)
  (tables : ObservationTables Geometry) (point : Point)

def EvidenceRow.depthCm (row : EvidenceRow Geometry) : Option ℚ :=
  row.floodDepthCm.bind plainDecimal

/-- `nearby_positive`, but for its time bounds. -/
def isPositiveSensor (radiusM : ℕ) (row : EvidenceRow Geometry) : Bool :=
  (row.dataSourceKey.any fun adapterKey =>
    isEnabledSource tables.toRealtimeTables adapterKey && row.isStationEnabled adapterKey) &&
    row.isAccepted && row.isPublicOrAggregated && row.isOfficial &&
    row.eventType = "flood_report" && row.evidenceScope = some "current" &&
    row.depthCm.any (3 ≤ ·) && row.geom.any fun geom => geography.isWithin geom point radiusM

/-- `observed_at` between the start of the window and the cutoff, both included. -/
def isInHistoryWindow (asOf : ℤ) (row : EvidenceRow Geometry) : Bool :=
  row.observedAt.any fun observedAt =>
    asOf - observedFloodHistoryWindow ≤ observedAt &&
      observedAt ≤ asOf - observedFloodHistoryCurrentGrace

def nearbyPositive (radiusM : ℕ) (asOf : ℤ) : List (EvidenceRow Geometry) :=
  tables.evidence.rows.filter fun row =>
    isPositiveSensor geography tables point radiusM row && isInHistoryWindow asOf row

def stationOrder (row : EvidenceRow Geometry) : ℤ ×ₗ ℤ ×ₗ ℤ :=
  toLex (-row.observedAt.getD 0, toLex (-row.ingestedAt, -(row.id : ℤ)))

def sensorKey (row : EvidenceRow Geometry) : Option String × String :=
  (row.dataSourceKey, row.stationKey)

/-- The rows of `station_ranked` with rank 1. -/
def latestOfStations (rows : List (EvidenceRow Geometry)) : List (EvidenceRow Geometry) :=
  distinctBy sensorKey (rows.insertionSort fun a b => stationOrder a ≤ stationOrder b)

def historyOrder (row : EvidenceRow Geometry) : ℤ ×ₗ ℚ ×ₗ ℤ :=
  toLex (-row.observedAt.getD 0,
    toLex ((row.geom.map fun geom => geography.distance geom point).getD 0, -(row.id : ℤ)))

/-- The returned rows; `historyRecord` is the record of one. -/
def queryNearbyObservedFloodHistory (radiusM : ℕ) (asOf : ℤ) (limit : ℤ := 20) :
    List (EvidenceRow Geometry) :=
  limitBy (fun a b => decide (historyOrder geography point a ≤ historyOrder geography point b))
    (boundedLimit limit) (latestOfStations (nearbyPositive geography tables point radiusM asOf))

def historyRecord (row : EvidenceRow Geometry) : EvidenceRecord where
  sourceType := .official
  eventType := .floodReport
  occurredAt := row.occurredAt.or row.observedAt
  observedAt := row.observedAt
  distanceToQueryM := row.geom.map fun geom => geography.distance geom point
  confidence := row.confidence
  freshnessScore := row.freshnessScore.getD (8 / 10)
  sourceWeight := row.sourceWeight.getD 1
  floodDepthCm := row.depthCm
  evidenceScope := .historical
  adapterKey := row.dataSourceKey
  locationPrecision := (namedPrecision row.locationPrecision).getD .point

/-- `_without_excluded`. -/
def withoutExcluded (excludedAdapterKeys : List String) (rows : List (EvidenceRow Geometry)) :
    List (EvidenceRow Geometry) :=
  rows.filter fun row => row.dataSourceKey.getD "" ∉ excludedAdapterKeys

end History

/-! ### The evidence reads of `load` -/

section Load

variable {Geometry Point : Type} (geography : Geography Geometry Point)
  (tables : ObservationTables Geometry) (available : ReadAvailability) (point : Point)
  (radiusM : ℕ) (asOf : ℤ)

def realtimeSupportRadiusM : ℕ := 5000

def observedFloodHistorySupportRadiusM : ℕ := 1000

/-- `current_official`, when the latest read answers. -/
def loadCurrentOfficial : Except String (List (LatestCandidate Geometry)) :=
  (queryNearbyLatestOfficial geography tables point (max radiusM realtimeSupportRadiusM) asOf).map
    fun latest => officialCurrent (latest.filter fun item =>
      item.latest.adapterKey ∈
        applicableKeys geography tables.toRealtimeTables available point radiusM)

/-- The retained observations of `historical`, when the history read answers. -/
def loadObservedFloodHistory (excludedAdapterKeys : List String) : List (EvidenceRow Geometry) :=
  withoutExcluded excludedAdapterKeys (queryNearbyObservedFloodHistory geography tables point
    (max radiusM observedFloodHistorySupportRadiusM) asOf)

end Load

end FloodRisk.Assessment
