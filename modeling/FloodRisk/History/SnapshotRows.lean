import FloodRisk.Lib.FirstSeen
import FloodRisk.Lib.LeastFirst
import FloodRisk.Promotion.Store
import FloodRisk.Realtime.Jurisdiction
import Mathlib.Data.Prod.Lex
import Mathlib.Data.Set.Card
import Mathlib.Data.String.Basic

/-!
# The rows of a historical snapshot (workers/app/jobs/historical_coverage.py)

The common table expressions of `_SOURCE_ROWS_CTE`: the accepted reports of one
raw snapshot, the newest of each evidence key, and the counties that the reviewed
boundaries attribute them to.  The functions of PostGIS are parameters.
-/

namespace FloodRisk.History
open Promotion
open Realtime (BoundarySnapshot JurisdictionBoundary)

def historicalCoverageStartYear : ℤ := 2018

def historicalCoverageEndYear : ℤ := 2026

def historicalCoveragePointFallbackMeters : ℕ := 100

/-! ### Tables -/

/-- A `timestamptz` as the time zone of the session shows it. -/
structure OccurredAt where
  year : ℤ
  text : String
  deriving DecidableEq

/-- A row of `staging_evidence`; an object without value is one that
`ST_GeomFromGeoJSON` refuses. -/
structure StagedReport (Geometry : Type) where
  id : ℕ
  rawSnapshotId : Option ℕ
  sourceId : Option String
  eventType : EventType
  occurredAt : Option OccurredAt
  validationStatus : ValidationStatus
  /-- `payload ->> 'evidence_id'`. -/
  evidenceId : Option String
  /-- `payload -> 'location_payload' -> 'geometry'`. -/
  geometryPayload : JsonObject (Option Geometry)
  createdAt : ℤ

structure BoundaryTables (Geometry : Type) where
  snapshots : Table BoundarySnapshot.id
  boundaries : Table fun boundary : JurisdictionBoundary Geometry =>
    (boundary.snapshotId, boundary.jurisdictionCode)
  -- `uq_realtime_boundary_snapshot_active`
  oneActive : ∀ s ∈ snapshots, ∀ t ∈ snapshots, s.isActive = true → t.isActive = true → s = t

structure SnapshotSources (Geometry : Type) where
  rawSnapshots : Table RawSnapshot.id
  staging : Table fun row : StagedReport Geometry => row.id
  boundaryTables : BoundaryTables Geometry

inductive GeometryType where
  | point | polygon | multiPolygon | other
  deriving DecidableEq

/-- `overlaps` is `ST_Intersects` together with an intersection of positive area;
`distance` is that of geographies, in metres. -/
structure PostGis (Geometry : Type) where
  geometryType : Geometry → GeometryType
  subdivide : Geometry → List Geometry
  covers : Geometry → Geometry → Bool
  overlaps : Geometry → Geometry → Bool
  distance : Geometry → Geometry → ℚ

variable {Geometry : Type}

/-! ### Accepted rows -/

structure CandidateRow (Geometry : Type) where
  id : ℕ
  evidenceKey : String
  coverageYear : ℤ
  geometryPayload : JsonObject (Option Geometry)
  createdAt : ℤ

def StagedReport.evidenceKey (row : StagedReport Geometry) (occurredAt : OccurredAt) : String :=
  ((row.evidenceId.filter (· ≠ "")).or
    (row.sourceId.map fun sourceId => sourceId ++ "|" ++ occurredAt.text)).getD (toString row.id)

section Accepted

variable (sources : SnapshotSources Geometry) (rawRef adapterKey : String)

def targetSnapshot : List RawSnapshot :=
  sources.rawSnapshots.rows.filter fun raw => raw.rawRef = rawRef ∧ raw.adapterKey = adapterKey

def candidateRow (row : StagedReport Geometry) : Option (CandidateRow Geometry) :=
  match row.occurredAt with
  | none => none
  | some occurredAt =>
      if (targetSnapshot sources rawRef adapterKey).any (fun raw => row.rawSnapshotId = some raw.id) ∧
          row.validationStatus = .accepted ∧ row.eventType = .floodReport ∧
          historicalCoverageStartYear ≤ occurredAt.year ∧
          occurredAt.year ≤ historicalCoverageEndYear then
        some
          { id := row.id
            evidenceKey := row.evidenceKey occurredAt
            coverageYear := occurredAt.year
            geometryPayload := row.geometryPayload
            createdAt := row.createdAt }
      else none

def acceptedRowCandidates : List (CandidateRow Geometry) :=
  sources.staging.rows.filterMap (candidateRow sources rawRef adapterKey)

/-- `ORDER BY evidence_key, created_at DESC, id DESC`. -/
def CandidateRow.order (row : CandidateRow Geometry) : String ×ₗ ℤᵒᵈ ×ₗ ℕᵒᵈ :=
  toLex (row.evidenceKey, toLex (OrderDual.toDual row.createdAt, OrderDual.toDual row.id))

def acceptedRows : List (CandidateRow Geometry) :=
  distinctBy CandidateRow.evidenceKey
    ((acceptedRowCandidates sources rawRef adapterKey).insertionSort fun a b => a.order ≤ b.order)

end Accepted

structure SourceRow (Geometry : Type) where
  id : ℕ
  coverageYear : ℤ
  geom : Geometry

/-- `WHERE jsonb_typeof(geometry_payload) = 'object'`. -/
def sourceRow (accepted : CandidateRow Geometry) : Option (SourceRow Geometry) :=
  match accepted.geometryPayload with
  | .object (some geom) => some ⟨accepted.id, accepted.coverageYear, geom⟩
  | _ => none

def CandidateRow.isRefused (accepted : CandidateRow Geometry) : Bool :=
  match accepted.geometryPayload with
  | .object none => true
  | _ => false

/-! ### Boundaries -/

def isReviewed (snapshot : BoundarySnapshot) : Bool :=
  snapshot.isActive && snapshot.isComplete && snapshot.reviewedAt.isSome &&
    snapshot.reviewRef.isSome && snapshot.importedCount = 22 && snapshot.manifestSha256.isSome &&
    snapshot.manifestSha256 = snapshot.approvedManifestSha256

def BoundaryTables.activeBoundaries (tables : BoundaryTables Geometry) :
    List (JurisdictionBoundary Geometry) :=
  (tables.snapshots.rows.filter isReviewed).flatMap fun snapshot =>
    tables.boundaries.rows.filter fun boundary => boundary.snapshotId = snapshot.id

/-! ### Attribution -/

structure AttributedRow where
  id : ℕ
  coverageYear : ℤ
  jurisdictionCode : String
  deriving DecidableEq

def SourceRow.attributedTo (source : SourceRow Geometry) (jurisdictionCode : String) : AttributedRow :=
  ⟨source.id, source.coverageYear, jurisdictionCode⟩

section Attribution

variable (gis : PostGis Geometry) (boundaries : List (JurisdictionBoundary Geometry))
  (rows : List (SourceRow Geometry))

def activeBoundaryParts : List (String × Geometry) :=
  boundaries.flatMap fun boundary =>
    (gis.subdivide boundary.geom).map fun part => (boundary.jurisdictionCode, part)

def isPoint (geom : Geometry) : Bool := gis.geometryType geom = .point

def isArea (geom : Geometry) : Bool :=
  gis.geometryType geom = .polygon ∨ gis.geometryType geom = .multiPolygon

/-- The join of the rows with the parts that meet them. -/
def joinParts (meets : Geometry → Geometry → Bool) (rows : List (SourceRow Geometry)) :
    List AttributedRow :=
  rows.flatMap fun source =>
    ((activeBoundaryParts gis boundaries).filter fun part => meets part.2 source.geom).map
      fun part => source.attributedTo part.1

def AttributedRow.order (row : AttributedRow) : ℕ ×ₗ String := toLex (row.id, row.jurisdictionCode)

def pointAttributedRows : List AttributedRow :=
  distinctBy AttributedRow.id
    ((joinParts gis boundaries gis.covers (rows.filter fun source => isPoint gis source.geom)).insertionSort
      fun a b => a.order ≤ b.order)

def polygonAttributedRows : List AttributedRow :=
  (joinParts gis boundaries gis.overlaps (rows.filter fun source => isArea gis source.geom)).dedup

def exactAttributedRows : List AttributedRow :=
  pointAttributedRows gis boundaries rows ++ polygonAttributedRows gis boundaries rows

def unattributedPointRows : List (SourceRow Geometry) :=
  rows.filter fun source => isPoint gis source.geom &&
    !(exactAttributedRows gis boundaries rows).any fun attributed => attributed.id = source.id

/-- `ORDER BY ST_Distance(..), jurisdiction_code`. -/
def distanceOrder (geom : Geometry) (boundary : JurisdictionBoundary Geometry) : ℚ ×ₗ String :=
  toLex (gis.distance boundary.geom geom, boundary.jurisdictionCode)

def withinFallback (geom : Geometry) : List (JurisdictionBoundary Geometry) :=
  boundaries.filter fun boundary =>
    gis.distance boundary.geom geom ≤ historicalCoveragePointFallbackMeters

def boundaryAdjustedRows : List AttributedRow :=
  (unattributedPointRows gis boundaries rows).flatMap fun source =>
    (limitBy (fun a b => distanceOrder gis source.geom a ≤ distanceOrder gis source.geom b) 1
      (withinFallback gis boundaries source.geom)).map
        fun nearest => source.attributedTo nearest.jurisdictionCode

def attributedRows : List AttributedRow :=
  exactAttributedRows gis boundaries rows ++ boundaryAdjustedRows gis boundaries rows

/-- `count(DISTINCT id)`. -/
def distinctIds (rows : List AttributedRow) : ℕ := (rows.map AttributedRow.id).dedup.length

def recordCount (jurisdictionCode : String) (coverageYear : ℤ) : ℕ :=
  distinctIds ((attributedRows gis boundaries rows).filter fun row =>
    row.jurisdictionCode = jurisdictionCode ∧ row.coverageYear = coverageYear)

end Attribution

/-! ### What the attribution means -/

section Meaning

variable (gis : PostGis Geometry) (boundaries : List (JurisdictionBoundary Geometry))

def Meets (meets : Geometry → Geometry → Bool) (geom : Geometry) (jurisdictionCode : String) : Prop :=
  ∃ part ∈ activeBoundaryParts gis boundaries,
    part.1 = jurisdictionCode ∧ meets part.2 geom = true

/-- The county whose boundary is nearest within the fallback; of two at the same
distance the one with the smaller code. -/
def IsNearest (geom : Geometry) (jurisdictionCode : String) : Prop :=
  ∃ boundary ∈ withinFallback gis boundaries geom, boundary.jurisdictionCode = jurisdictionCode ∧
    ∀ other ∈ withinFallback gis boundaries geom,
      distanceOrder gis geom boundary ≤ distanceOrder gis geom other

/-- A point counts for the first county that covers it, else for the nearest; an
area counts for every county it overlaps. -/
def IsAttributed (geom : Geometry) (jurisdictionCode : String) : Prop :=
  isPoint gis geom = true ∧
      (IsLeast {code | Meets gis boundaries gis.covers geom code} jurisdictionCode ∨
        (∀ code, ¬ Meets gis boundaries gis.covers geom code) ∧
          IsNearest gis boundaries geom jurisdictionCode) ∨
    isArea gis geom = true ∧ Meets gis boundaries gis.overlaps geom jurisdictionCode

variable {gis boundaries} {rows : List (SourceRow Geometry)}

theorem mem_joinParts {meets : Geometry → Geometry → Bool} {row : AttributedRow} :
    row ∈ joinParts gis boundaries meets rows ↔
      ∃ source ∈ rows, source.attributedTo row.jurisdictionCode = row ∧
        Meets gis boundaries meets source.geom row.jurisdictionCode := by
  simp only [joinParts, List.mem_flatMap, List.mem_map, List.mem_filter]
  constructor
  · rintro ⟨source, hsource, part, ⟨hpart, hmeets⟩, rfl⟩
    exact ⟨source, hsource, rfl, part, hpart, rfl, hmeets⟩
  · rintro ⟨source, hsource, hrow, part, hpart, hcode, hmeets⟩
    exact ⟨source, hsource, part, ⟨hpart, hmeets⟩, hcode ▸ hrow⟩

theorem isArea_of_isPoint {geom : Geometry} (h : isPoint gis geom = true) :
    isArea gis geom = false := by
  have hpoint : gis.geometryType geom = .point := of_decide_eq_true h
  simp [isArea, hpoint]

theorem mem_polygonAttributedRows {row : AttributedRow} :
    row ∈ polygonAttributedRows gis boundaries rows ↔
      ∃ source ∈ rows, source.attributedTo row.jurisdictionCode = row ∧
        isArea gis source.geom = true ∧
        Meets gis boundaries gis.overlaps source.geom row.jurisdictionCode := by
  rw [polygonAttributedRows, List.mem_dedup, mem_joinParts]
  constructor
  · rintro ⟨source, hsource, hrow, hmeets⟩
    obtain ⟨hmem, harea⟩ := List.mem_filter.mp hsource
    exact ⟨source, hmem, hrow, harea, hmeets⟩
  · rintro ⟨source, hmem, hrow, harea, hmeets⟩
    exact ⟨source, List.mem_filter.mpr ⟨hmem, harea⟩, hrow, hmeets⟩

theorem distinctIds_eq (l : List AttributedRow) :
    distinctIds l = (AttributedRow.id '' {row | row ∈ l}).ncard := by
  have hset : AttributedRow.id '' {row | row ∈ l} = ((l.map AttributedRow.id).toFinset : Set ℕ) := by
    ext id
    simp
  rw [hset, Set.ncard_coe_finset, List.card_toFinset, distinctIds]

section Distinct

variable (distinct : (rows.map SourceRow.id).Nodup)

include distinct

theorem source_unique {source other : SourceRow Geometry} (hsource : source ∈ rows)
    (hother : other ∈ rows) (h : source.id = other.id) : source = other :=
  List.inj_on_of_nodup_map distinct hsource hother h

/-- Rows of one place in the order are the same row, met through several parts. -/
theorem joinParts_ties {meets : Geometry → Geometry → Bool} :
    ∀ a ∈ joinParts gis boundaries meets rows, ∀ b ∈ joinParts gis boundaries meets rows,
      a.order = b.order → a = b := by
  intro a ha b hb horder
  obtain ⟨source, hsource, hsourceRow, -⟩ := mem_joinParts.mp ha
  obtain ⟨other, hother, hotherRow, -⟩ := mem_joinParts.mp hb
  have hpair := Prod.mk.inj (toLex.injective horder)
  have hid : source.id = other.id := by
    have hleft := congrArg AttributedRow.id hsourceRow
    have hright := congrArg AttributedRow.id hotherRow
    exact hleft.trans (hpair.1.trans hright.symm)
  rw [← hsourceRow, ← hotherRow, source_unique distinct hsource hother hid, hpair.2]

theorem mem_pointAttributedRows {row : AttributedRow} :
    row ∈ pointAttributedRows gis boundaries rows ↔
      ∃ source ∈ rows, source.attributedTo row.jurisdictionCode = row ∧
        isPoint gis source.geom = true ∧
        IsLeast {code | Meets gis boundaries gis.covers source.geom code} row.jurisdictionCode := by
  have hpoints := (List.filter_sublist (p := fun source => isPoint gis source.geom)
    (l := rows)).map SourceRow.id |>.nodup distinct
  rw [pointAttributedRows, mem_distinctBy_order_of_ties (joinParts_ties hpoints), mem_joinParts]
  constructor
  · rintro ⟨⟨source, hsource, hrow, hmeets⟩, hleast⟩
    obtain ⟨hmem, hpoint⟩ := List.mem_filter.mp hsource
    refine ⟨source, hmem, hrow, hpoint, hmeets, ?_⟩
    intro code hcode
    have hother : source.attributedTo code ∈ joinParts gis boundaries gis.covers
        (rows.filter fun source => isPoint gis source.geom) :=
      mem_joinParts.mpr ⟨source, hsource, rfl, hcode⟩
    have hid : source.id = row.id := congrArg AttributedRow.id hrow
    have hle : toLex (row.id, row.jurisdictionCode) ≤ toLex (source.id, code) :=
      hleast (source.attributedTo code) hother hid
    rw [hid] at hle
    rcases Prod.Lex.toLex_le_toLex.mp hle with hlt | ⟨-, hcodes⟩
    · exact absurd hlt (lt_irrefl row.id)
    · exact hcodes
  · rintro ⟨source, hmem, hrow, hpoint, hmeets, hleast⟩
    have hsource : source ∈ rows.filter fun source => isPoint gis source.geom :=
      List.mem_filter.mpr ⟨hmem, hpoint⟩
    refine ⟨⟨source, hsource, hrow, hmeets⟩, ?_⟩
    intro other hother hid
    obtain ⟨otherSource, hotherSource, hotherRow, hotherMeets⟩ := mem_joinParts.mp hother
    have hsame : otherSource = source := by
      have hleft := congrArg AttributedRow.id hotherRow
      have hright := congrArg AttributedRow.id hrow
      exact source_unique hpoints hotherSource hsource (hleft.trans (hid.trans hright.symm))
    have hcodes := hleast (hsame ▸ hotherMeets)
    exact Prod.Lex.toLex_le_toLex.mpr (Or.inr ⟨hid.symm, hcodes⟩)

theorem mem_unattributedPointRows {source : SourceRow Geometry} :
    source ∈ unattributedPointRows gis boundaries rows ↔
      source ∈ rows ∧ isPoint gis source.geom = true ∧
        ∀ code, ¬ Meets gis boundaries gis.covers source.geom code := by
  rw [unattributedPointRows, List.mem_filter, Bool.and_eq_true, Bool.not_eq_true', List.any_eq_false]
  refine and_congr_right fun hsource => and_congr_right fun hpoint => ?_
  constructor
  · intro hnone code hmeets
    have hjoined : source.attributedTo code ∈ joinParts gis boundaries gis.covers
        (rows.filter fun source => isPoint gis source.geom) :=
      mem_joinParts.mpr ⟨source, List.mem_filter.mpr ⟨hsource, hpoint⟩, rfl, hmeets⟩
    obtain ⟨first, hfirst, hid, -⟩ := OrderBy.exists_first AttributedRow.id
      ((List.mem_insertionSort fun a b => a.order ≤ b.order).mpr hjoined)
    exact hnone first (List.mem_append_left _ hfirst) (decide_eq_true hid)
  · intro hnone row hrow hid
    have hid : row.id = source.id := of_decide_eq_true hid
    rcases List.mem_append.mp hrow with hrow | hrow
    · obtain ⟨other, hother, hotherRow, -, hmeets⟩ := (mem_pointAttributedRows distinct).mp hrow
      have hsame := source_unique distinct hother hsource
        ((congrArg AttributedRow.id hotherRow).trans hid)
      exact hnone row.jurisdictionCode (hsame ▸ hmeets.1)
    · obtain ⟨other, hother, hotherRow, harea, -⟩ := mem_polygonAttributedRows.mp hrow
      have hsame := source_unique distinct hother hsource
        ((congrArg AttributedRow.id hotherRow).trans hid)
      rw [hsame, isArea_of_isPoint hpoint] at harea
      exact absurd harea (by simp)

theorem mem_boundaryAdjustedRows {row : AttributedRow} :
    row ∈ boundaryAdjustedRows gis boundaries rows ↔
      ∃ source ∈ rows, source.attributedTo row.jurisdictionCode = row ∧
        isPoint gis source.geom = true ∧
        (∀ code, ¬ Meets gis boundaries gis.covers source.geom code) ∧
        IsNearest gis boundaries source.geom row.jurisdictionCode := by
  simp only [boundaryAdjustedRows, List.mem_flatMap, List.mem_map,
    mem_unattributedPointRows distinct]
  constructor
  · rintro ⟨source, ⟨hsource, hpoint, hnone⟩, nearest, hnearest, rfl⟩
    refine ⟨source, hsource, rfl, hpoint, hnone, nearest, mem_of_limitBy hnearest, rfl, ?_⟩
    intro other hother
    exact (mem_limitBy_one hnearest).2 ⟨other, hother, rfl⟩
  · rintro ⟨source, hsource, hrow, hpoint, hnone, boundary, hboundary, hcode, hleast⟩
    have hplace : IsLeast {w | ∃ a ∈ withinFallback gis boundaries source.geom,
        distanceOrder gis source.geom a = w} (distanceOrder gis source.geom boundary) := by
      refine ⟨⟨boundary, hboundary, rfl⟩, ?_⟩
      rintro w ⟨other, hother, rfl⟩
      exact hleast other hother
    obtain ⟨nearest, hnearest, hsame⟩ := exists_limitBy_one.mpr hplace
    have hcodes : nearest.jurisdictionCode = boundary.jurisdictionCode :=
      (Prod.mk.inj (toLex.injective hsame)).2
    refine ⟨source, ⟨hsource, hpoint, hnone⟩, nearest, hnearest, ?_⟩
    rw [hcodes, hcode, hrow]

theorem mem_attributedRows {row : AttributedRow} :
    row ∈ attributedRows gis boundaries rows ↔
      ∃ source ∈ rows, source.attributedTo row.jurisdictionCode = row ∧
        IsAttributed gis boundaries source.geom row.jurisdictionCode := by
  rw [attributedRows, exactAttributedRows, List.mem_append, List.mem_append,
    mem_pointAttributedRows distinct, mem_polygonAttributedRows,
    mem_boundaryAdjustedRows distinct]
  constructor
  · rintro ((⟨source, hsource, hrow, hpoint, hleast⟩ | ⟨source, hsource, hrow, harea, hmeets⟩) |
      ⟨source, hsource, hrow, hpoint, hnone, hnearest⟩)
    · exact ⟨source, hsource, hrow, Or.inl ⟨hpoint, Or.inl hleast⟩⟩
    · exact ⟨source, hsource, hrow, Or.inr ⟨harea, hmeets⟩⟩
    · exact ⟨source, hsource, hrow, Or.inl ⟨hpoint, Or.inr ⟨hnone, hnearest⟩⟩⟩
  · rintro ⟨source, hsource, hrow, ⟨hpoint, hleast | ⟨hnone, hnearest⟩⟩ | ⟨harea, hmeets⟩⟩
    · exact Or.inl (Or.inl ⟨source, hsource, hrow, hpoint, hleast⟩)
    · exact Or.inr ⟨source, hsource, hrow, hpoint, hnone, hnearest⟩
    · exact Or.inl (Or.inr ⟨source, hsource, hrow, harea, hmeets⟩)

/-- The count is the number of rows that the year and the county have in common. -/
theorem recordCount_eq (jurisdictionCode : String) (coverageYear : ℤ) :
    recordCount gis boundaries rows jurisdictionCode coverageYear =
      {source | source ∈ rows ∧ source.coverageYear = coverageYear ∧
        IsAttributed gis boundaries source.geom jurisdictionCode}.ncard := by
  set counted := {source | source ∈ rows ∧ source.coverageYear = coverageYear ∧
    IsAttributed gis boundaries source.geom jurisdictionCode}
  have hinj : Set.InjOn SourceRow.id counted := fun source hsource other hother h =>
    source_unique distinct hsource.1 hother.1 h
  rw [recordCount, distinctIds_eq, ← hinj.ncard_image]
  congr 1
  ext id
  simp only [Set.mem_image, Set.mem_ofPred_eq, List.mem_filter, decide_eq_true_eq,
    mem_attributedRows distinct]
  constructor
  · rintro ⟨row, ⟨⟨source, hsource, hrow, hattributed⟩, hcode, hyear⟩, rfl⟩
    refine ⟨source, ⟨hsource, ?_, hcode ▸ hattributed⟩, congrArg AttributedRow.id hrow⟩
    exact (congrArg AttributedRow.coverageYear hrow).trans hyear
  · rintro ⟨source, ⟨hsource, hyear, hattributed⟩, rfl⟩
    exact ⟨source.attributedTo jurisdictionCode,
      ⟨⟨source, hsource, rfl, hattributed⟩, rfl, hyear⟩, rfl⟩

end Distinct

end Meaning

/-! ### What a snapshot counts -/

section Counted

variable (gis : PostGis Geometry) (sources : SnapshotSources Geometry) (rawRef adapterKey : String)

def sourceRows : List (SourceRow Geometry) :=
  (acceptedRows sources rawRef adapterKey).filterMap sourceRow

def IsNewest (row : CandidateRow Geometry) : Prop :=
  ∀ other ∈ acceptedRowCandidates sources rawRef adapterKey, other.evidenceKey = row.evidenceKey →
    other.createdAt < row.createdAt ∨ other.createdAt = row.createdAt ∧ other.id ≤ row.id

/-- The accepted rows of a snapshot, one of each evidence key, that fall in a year
and count for a county. -/
def countedRows (jurisdictionCode : String) (coverageYear : ℤ) : Set (CandidateRow Geometry) :=
  {row | row ∈ acceptedRowCandidates sources rawRef adapterKey ∧
    IsNewest sources rawRef adapterKey row ∧ row.coverageYear = coverageYear ∧
    ∃ geom, row.geometryPayload = .object (some geom) ∧
      IsAttributed gis sources.boundaryTables.activeBoundaries geom jurisdictionCode}

variable {gis sources rawRef adapterKey}

theorem candidateRow_id {row : StagedReport Geometry} {candidate : CandidateRow Geometry}
    (h : candidateRow sources rawRef adapterKey row = some candidate) : candidate.id = row.id := by
  unfold candidateRow at h
  split at h
  · exact absurd h (by simp)
  · split at h
    · rw [← Option.some.inj h]
    · exact absurd h (by simp)

theorem candidates_distinct :
    ((acceptedRowCandidates sources rawRef adapterKey).map CandidateRow.id).Nodup :=
  (OrderBy.filterMap_keys_sublist StagedReport.id CandidateRow.id
    (fun _ _ => candidateRow_id) sources.staging.rows).nodup sources.staging.keysNodup

theorem mem_acceptedRows {row : CandidateRow Geometry} :
    row ∈ acceptedRows sources rawRef adapterKey ↔
      row ∈ acceptedRowCandidates sources rawRef adapterKey ∧
        IsNewest sources rawRef adapterKey row := by
  have hties : ∀ a ∈ acceptedRowCandidates sources rawRef adapterKey,
      ∀ b ∈ acceptedRowCandidates sources rawRef adapterKey, a.order = b.order → a = b := by
    intro a ha b hb horder
    have hpair := Prod.mk.inj (toLex.injective (Prod.mk.inj (toLex.injective horder)).2)
    have hid : a.id = b.id := OrderDual.toDual.injective hpair.2
    exact List.inj_on_of_nodup_map candidates_distinct ha hb hid
  rw [acceptedRows, mem_distinctBy_order_of_ties hties]
  refine and_congr_right fun _ => forall₃_congr fun other _ hkey => ?_
  rw [CandidateRow.order, CandidateRow.order, hkey, Prod.Lex.toLex_le_toLex, Prod.Lex.toLex_le_toLex]
  simp [eq_comm]

theorem acceptedRows_distinct :
    ((acceptedRows sources rawRef adapterKey).map CandidateRow.id).Nodup := by
  have hperm := List.perm_insertionSort (fun a b => CandidateRow.order a ≤ CandidateRow.order b)
    (acceptedRowCandidates sources rawRef adapterKey)
  have hsorted := (hperm.map CandidateRow.id).nodup_iff.mpr candidates_distinct
  exact ((distinctBy_sublist CandidateRow.evidenceKey _).map CandidateRow.id).nodup hsorted

theorem sourceRow_eq_some {accepted : CandidateRow Geometry} {source : SourceRow Geometry} :
    sourceRow accepted = some source ↔ accepted.geometryPayload = .object (some source.geom) ∧
      source.id = accepted.id ∧ source.coverageYear = accepted.coverageYear := by
  unfold sourceRow
  constructor
  · intro h
    split at h
    · rename_i geom hgeom
      rw [← Option.some.inj h]
      exact ⟨hgeom, rfl, rfl⟩
    · exact absurd h (by simp)
  · rintro ⟨hgeom, hid, hyear⟩
    rw [hgeom, ← hid, ← hyear]

theorem sourceRows_distinct : ((sourceRows sources rawRef adapterKey).map SourceRow.id).Nodup :=
  (OrderBy.filterMap_keys_sublist CandidateRow.id SourceRow.id
    (fun _ _ h => (sourceRow_eq_some.mp h).2.1) _).nodup acceptedRows_distinct

/-- The upsert counts the accepted rows of the snapshot. -/
theorem recordCount_sourceRows (jurisdictionCode : String) (coverageYear : ℤ) :
    recordCount gis sources.boundaryTables.activeBoundaries (sourceRows sources rawRef adapterKey)
        jurisdictionCode coverageYear =
      (countedRows gis sources rawRef adapterKey jurisdictionCode coverageYear).ncard := by
  have hinj : Set.InjOn CandidateRow.id
      (countedRows gis sources rawRef adapterKey jurisdictionCode coverageYear) :=
    fun row hrow other hother h =>
      List.inj_on_of_nodup_map candidates_distinct hrow.1 hother.1 h
  have hsourceInj : Set.InjOn SourceRow.id {source | source ∈ sourceRows sources rawRef adapterKey ∧
      source.coverageYear = coverageYear ∧
      IsAttributed gis sources.boundaryTables.activeBoundaries source.geom jurisdictionCode} :=
    fun source hsource other hother h =>
      source_unique sourceRows_distinct hsource.1 hother.1 h
  rw [recordCount_eq sourceRows_distinct, ← hsourceInj.ncard_image, ← hinj.ncard_image]
  congr 1
  ext id
  constructor
  · rintro ⟨source, ⟨hsource, hyear, hattributed⟩, rfl⟩
    obtain ⟨row, hrow, hmade⟩ := List.mem_filterMap.mp hsource
    obtain ⟨hgeom, hid, hsameYear⟩ := sourceRow_eq_some.mp hmade
    obtain ⟨hcandidate, hnewest⟩ := mem_acceptedRows.mp hrow
    exact ⟨row, ⟨hcandidate, hnewest, hsameYear ▸ hyear, source.geom, hgeom, hattributed⟩, hid.symm⟩
  · rintro ⟨row, ⟨hcandidate, hnewest, hyear, geom, hgeom, hattributed⟩, rfl⟩
    have hmade : sourceRow row = some ⟨row.id, row.coverageYear, geom⟩ :=
      sourceRow_eq_some.mpr ⟨hgeom, rfl, rfl⟩
    have haccepted := mem_acceptedRows.mpr ⟨hcandidate, hnewest⟩
    exact ⟨_, ⟨List.mem_filterMap.mpr ⟨row, haccepted, hmade⟩, hyear, hattributed⟩, rfl⟩

end Counted

end FloodRisk.History
