import FloodRisk.Lib.OrderBy
import FloodRisk.Realtime.Coverage

/-!
# Reviewed jurisdictions (api domain/evidence/repository.py, migration 0035)

`queryRealtimeJurisdictionContext` is `query_realtime_jurisdiction_context`: its
home county, the counties it considers, their contracts and the sources mapped
for them.
-/

namespace FloodRisk.Realtime
open Promotion

/-! ### Tables -/

inductive CoverageScope where
  | national | localScope
  deriving DecidableEq, Repr

inductive RequirementRole where
  | required | redundantSubset
  deriving DecidableEq, Repr

inductive CatalogStatus where
  | reviewedComplete | knownGap | unreviewed
  deriving DecidableEq, Repr

/-- A row of `realtime_source_jurisdictions`. -/
structure SourceMapping where
  adapterKey : String
  signalType : SignalType
  coverageScope : CoverageScope
  jurisdictionCode : String
  requirementRole : RequirementRole := .required
  redundancyOfAdapterKey : Option String := none
  mappingRevision : String
  deriving DecidableEq

/-- A row of `realtime_jurisdiction_signal_contracts`. -/
structure SignalContract where
  jurisdictionCode : String
  signalType : SignalType
  catalogStatus : CatalogStatus := .unreviewed
  mappingRevision : String
  mappingManifestVersion : String := "jurisdiction-source-jsonb-v1"
  approvedMappingCount : Option ℕ := none
  approvedMappingManifestSha256 : Option String := none
  reviewedAt : Option ℤ := none
  reviewRef : Option String := none
  deriving DecidableEq

structure Jurisdiction where
  jurisdictionCode : String
  jurisdictionName : String
  deriving DecidableEq

structure BoundarySnapshot where
  id : ℕ
  expectedCount : ℕ := 22
  importedCount : ℕ
  manifestSha256 : Option String
  approvedManifestSha256 : Option String
  isComplete : Bool
  reviewedAt : Option ℤ
  reviewRef : Option String
  isActive : Bool
  deriving DecidableEq

structure JurisdictionBoundary (Geometry : Type) where
  snapshotId : ℕ
  jurisdictionCode : String
  geom : Geometry
  geomSha256 : String

/-- The functions of PostGIS and pgcrypto that the reads call; `distance` is
that of geographies, in metres. -/
structure Geography (Geometry Point : Type) where
  distance : Geometry → Point → ℚ
  covers : Geometry → Point → Bool
  isEmpty : Geometry → Bool
  isValid : Geometry → Bool
  geometrySha256 : Geometry → String
  boundaryManifestSha256 : List (String × String) → String
  mappingManifestSha256 : List SourceMapping → String

structure JurisdictionTables (Geometry : Type) where
  jurisdictions : List Jurisdiction
  snapshots : List BoundarySnapshot
  boundaries : List (JurisdictionBoundary Geometry)
  contracts : List SignalContract
  mappings : List SourceMapping
  -- the foreign key of a boundary
  boundaryNamed : ∀ boundary ∈ boundaries, ∃ jurisdiction ∈ jurisdictions,
    jurisdiction.jurisdictionCode = boundary.jurisdictionCode

theorem boundaryNamed_nil : ∀ boundary ∈ ([] : List (JurisdictionBoundary Unit)),
    ∃ jurisdiction ∈ ([] : List Jurisdiction),
      jurisdiction.jurisdictionCode = boundary.jurisdictionCode :=
  fun _ h => absurd h List.not_mem_nil

/-! ### The active snapshot -/

variable {Geometry Point : Type} (geography : Geography Geometry Point)
  (tables : JurisdictionTables Geometry) (point : Point)

/-- `ST_DWithin` of geographies. -/
def Geography.isWithin (geom : Geometry) (point : Point) (radiusM : ℚ) : Bool :=
  geography.distance geom point ≤ radiusM

def snapshotBoundaries (snapshot : BoundarySnapshot) : List (JurisdictionBoundary Geometry) :=
  tables.boundaries.filter fun boundary => boundary.snapshotId = snapshot.id

def isIntactBoundary (boundary : JurisdictionBoundary Geometry) : Bool :=
  !geography.isEmpty boundary.geom && geography.isValid boundary.geom &&
    boundary.geomSha256 = geography.geometrySha256 boundary.geom

def boundaryManifest (snapshot : BoundarySnapshot) : List (String × String) :=
  (orderBy (fun boundary => [boundary.jurisdictionCode]) (snapshotBoundaries tables snapshot)).map
    fun boundary => (boundary.jurisdictionCode, boundary.geomSha256)

def isSnapshotCandidate (snapshot : BoundarySnapshot) : Bool :=
  let boundaries := snapshotBoundaries tables snapshot
  snapshot.isActive && snapshot.isComplete && snapshot.expectedCount = 22 &&
    snapshot.importedCount = snapshot.expectedCount && snapshot.reviewedAt.isSome &&
    snapshot.reviewRef.isSome && snapshot.manifestSha256.isSome &&
    snapshot.manifestSha256 = snapshot.approvedManifestSha256 &&
    boundaries.length = snapshot.expectedCount && boundaries.all (isIntactBoundary geography) &&
    snapshot.manifestSha256 =
      some (geography.boundaryManifestSha256 (boundaryManifest tables snapshot))

def activeSnapshotCandidates : List BoundarySnapshot :=
  tables.snapshots.filter (isSnapshotCandidate geography tables)

def activeBoundaries : List (JurisdictionBoundary Geometry) :=
  match activeSnapshotCandidates geography tables with
  | [snapshot] => snapshotBoundaries tables snapshot
  | _ => []

/-! ### Home and considered counties -/

def namedJurisdictions (boundaries : List (JurisdictionBoundary Geometry)) : List Jurisdiction :=
  boundaries.flatMap fun boundary => tables.jurisdictions.filter fun jurisdiction =>
    jurisdiction.jurisdictionCode = boundary.jurisdictionCode

def homeMatches : List Jurisdiction :=
  namedJurisdictions tables ((activeBoundaries geography tables).filter fun boundary =>
    geography.covers boundary.geom point)

def resolutionStatus : JurisdictionStatus :=
  if (activeSnapshotCandidates geography tables).length ≠ 1 then .boundaryUnverified
  else
    match homeMatches geography tables point with
    | [] => .outsideCoverage
    | [_] => .verified
    | _ => .ambiguous

def consideredJurisdictions (searchRadiusM : ℚ) : List Jurisdiction :=
  orderBy (fun jurisdiction => [jurisdiction.jurisdictionCode])
    (namedJurisdictions tables ((activeBoundaries geography tables).filter fun boundary =>
      geography.isWithin boundary.geom point searchRadiusM))

/-! ### Contracts and mappings -/

/-- A national mapping applies to every county. -/
def SourceMapping.appliesTo (mapping : SourceMapping) (jurisdictionCode : String) : Bool :=
  mapping.coverageScope = .national || mapping.jurisdictionCode = jurisdictionCode

def contractMappings (contract : SignalContract) : List SourceMapping :=
  tables.mappings.filter fun mapping => mapping.signalType = contract.signalType &&
    mapping.mappingRevision = contract.mappingRevision &&
    mapping.appliesTo contract.jurisdictionCode

def redundancyParentValid (contract : SignalContract) (mapping : SourceMapping) : Bool :=
  mapping.requirementRole ≠ .redundantSubset || tables.mappings.any fun parent =>
    some parent.adapterKey = mapping.redundancyOfAdapterKey &&
      parent.signalType = mapping.signalType && parent.requirementRole = .required &&
      parent.mappingRevision = mapping.mappingRevision &&
      parent.appliesTo contract.jurisdictionCode

def coverageScopeText : CoverageScope → String
  | .national => "national"
  | .localScope => "local"

/-- The manifest of a contract; the key of a mapping decides its place. -/
def mappingManifest (contract : SignalContract) : List SourceMapping :=
  orderBy (fun mapping =>
    [mapping.adapterKey, coverageScopeText mapping.coverageScope, mapping.jurisdictionCode])
    (contractMappings tables contract)

def mappingProofValid (contract : SignalContract) : Bool :=
  let mappings := contractMappings tables contract
  contract.catalogStatus = .reviewedComplete &&
    contract.mappingManifestVersion = "jurisdiction-source-jsonb-v1" &&
    contract.reviewedAt.isSome && contract.reviewRef.isSome && 0 < mappings.length &&
    contract.approvedMappingCount = some mappings.length &&
    contract.approvedMappingManifestSha256 =
      some (geography.mappingManifestSha256 (mappingManifest tables contract)) &&
    mappings.all (fun mapping => mapping.mappingRevision = contract.mappingRevision) &&
    mappings.all (redundancyParentValid tables contract)

def contractsOf (considered : List Jurisdiction) : List (Jurisdiction × SignalContract) :=
  considered.flatMap fun jurisdiction =>
    (tables.contracts.filter fun contract =>
      contract.jurisdictionCode = jurisdiction.jurisdictionCode).map fun contract =>
        (jurisdiction, contract)

def isMappedFor (considered : List Jurisdiction) (mapping : SourceMapping) : Bool :=
  (contractsOf tables considered).any fun entry =>
    mappingProofValid geography tables entry.2 &&
      entry.2.mappingRevision = mapping.mappingRevision &&
      entry.2.signalType = mapping.signalType && mapping.appliesTo entry.2.jurisdictionCode

/-! ### The context -/

structure RealtimeJurisdictionSignalContract where
  jurisdictionCode : String
  jurisdictionName : String
  signalType : SignalType
  catalogStatus : CatalogStatus
  mappingRevision : String
  mappingProofValid : Bool
  deriving DecidableEq

structure RealtimeJurisdictionSourceMapping extends SourceMapping where
  jurisdictionName : Option String
  deriving DecidableEq

structure RealtimeJurisdictionContext where
  resolutionStatus : JurisdictionStatus
  homeJurisdiction : Option Jurisdiction := none
  consideredJurisdictions : List Jurisdiction := []
  signalContracts : List RealtimeJurisdictionSignalContract := []
  sourceMappings : List RealtimeJurisdictionSourceMapping := []
  deriving DecidableEq

def contextContract (entry : Jurisdiction × SignalContract) :
    RealtimeJurisdictionSignalContract where
  jurisdictionCode := entry.2.jurisdictionCode
  jurisdictionName := entry.1.jurisdictionName
  signalType := entry.2.signalType
  catalogStatus := entry.2.catalogStatus
  mappingRevision := entry.2.mappingRevision
  mappingProofValid := mappingProofValid geography tables entry.2

def contextMapping (mapping : SourceMapping) : RealtimeJurisdictionSourceMapping where
  toSourceMapping := mapping
  jurisdictionName :=
    (tables.jurisdictions.find? fun jurisdiction =>
      jurisdiction.jurisdictionCode = mapping.jurisdictionCode).map Jurisdiction.jurisdictionName

def queryRealtimeJurisdictionContext (searchRadiusM : ℚ) : RealtimeJurisdictionContext :=
  let considered := consideredJurisdictions geography tables point searchRadiusM
  let status := resolutionStatus geography tables point
  if status = .verified then
    { resolutionStatus := status
      homeJurisdiction := (homeMatches geography tables point).head?
      consideredJurisdictions := considered
      signalContracts := orderBy
        (fun contract => [contract.jurisdictionCode, signalText contract.signalType])
        ((contractsOf tables considered).map (contextContract geography tables))
      sourceMappings := orderBy
        (fun mapping =>
          [mapping.adapterKey, signalText mapping.signalType, mapping.jurisdictionCode])
        ((tables.mappings.filter (isMappedFor geography tables considered)).map
          (contextMapping tables)) }
  else
    { resolutionStatus := status
      homeJurisdiction :=
        match homeMatches geography tables point with
        | [home] => some home
        | _ => none }

namespace RealtimeJurisdictionContext

variable (context : RealtimeJurisdictionContext)

def adapterKeys : List String :=
  orderBy (fun adapterKey => [adapterKey])
    (context.sourceMappings.map fun mapping => mapping.adapterKey).dedup

def mappingRevisions : List String :=
  orderBy (fun revision => [revision])
    (context.signalContracts.map RealtimeJurisdictionSignalContract.mappingRevision ++
      context.sourceMappings.map fun mapping => mapping.mappingRevision).dedup

end RealtimeJurisdictionContext

end FloodRisk.Realtime
