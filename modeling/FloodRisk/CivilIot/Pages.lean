import FloodRisk.CivilIot.Stations
import FloodRisk.Lib.PercentDecode
import FloodRisk.Lib.TextOrder
import FloodRisk.Lib.While

/-!
# Paginated inventories (adapters/civil_iot/sta_client.py)

All pages of a SensorThings collection, and the proof that no station was left out.
-/

namespace FloodRisk.CivilIot
open Python Adapters

/-- The digits of Unicode: whether a code point counts as one, and its value where `int` reads
it. -/
structure StaRuntime extends Adapters.Runtime where
  rules : UrlRules
  isDigit : CodePoint → Bool
  decimal : CodePoint → Option ℕ

/-- `CivilIotStaError`, or what else is raised. -/
inductive StaFailure where
  | fetch
  | payload
  | raised (cause : Raised)
  deriving DecidableEq

/-- The two functions that walk pages: over Things, read by datastreams with one of the names, or
over Datastreams. -/
inductive Collection where
  | things (nameTokens : List Text)
  | datastreams

variable (runtime : StaRuntime) (collection : Collection) (sourceUrl : Text)

/-! ### One page -/

def Collection.itemKeys : Collection → List String
  | .things _ => ["value", "Things", "things"]
  | .datastreams => ["value", "Datastreams", "datastreams"]

/-- `_things_items` and `_datastream_items`. -/
def pageItems (payload : Value) : Except StaFailure (List Value) :=
  match payload with
  | .list items => .ok items
  | .object members =>
      match collection.itemKeys.findSome? fun key =>
        match get members key with
        | .list items => some items
        | _ => none with
      | some items => .ok items
      | none => .error .payload
  | _ => .error .payload

/-- `_sta_next_link`. -/
def staNextLink : Value → Except Raised (Option Text)
  | .object members => optionalStr runtime.toRuntime (get members "@iot.nextLink")
  | _ => .ok none

/-- `int` of digits. -/
def intOfDigits (t : Text) : Except Raised ℕ :=
  match t.mapM runtime.decimal with
  | some digits =>
      if digits.length ≤ printedDigits then .ok (digits.foldl (fun n digit => n * 10 + digit) 0)
      else .error .valueError
  | none => .error .valueError

/-- `_sta_upstream_total`: nothing where the page has no count, and no number where it cannot be
one. -/
def staUpstreamTotal : Value → Except Raised (Option (Option ℕ))
  | .object members =>
      match members.lookup "@iot.count" with
      | none => .ok none
      | some (.integer n) => .ok (some (if 0 ≤ n then some n.toNat else none))
      | some (.text t) =>
          if stripText t ≠ [] ∧ (stripText t).all runtime.isDigit then
            (intOfDigits runtime (stripText t)).map fun n => some (some n)
          else .ok (some none)
      | some _ => .ok (some none)
  | _ => .ok none

/-- Whether the items of the page are Things. -/
def holdsThings (items : List Value) : Bool :=
  match collection with
  | .things _ => true
  | .datastreams => isLegacyPage items

/-- The id of an item for the manifest. -/
def itemStationId (things : Bool) : Value → Except Raised (Option Text)
  | .object members =>
      if things then thingStationId runtime.toRuntime members
      else datastreamStationId runtime.toRuntime members
  | _ => .ok none

/-- The records of the items with a usable observation. -/
def pageRecords (items : List Value) : Except Raised (List Members) :=
  match collection with
  | .things nameTokens => thingRecords runtime.toRuntime sourceUrl nameTokens items
  | .datastreams => datastreamRecords runtime.toRuntime sourceUrl items

structure Page where
  count : Option (Option ℕ)
  items : List Value
  stationIds : List (Option Text)
  records : List Members
  nextLink : Option Text

/-- What the loop reads of a page, in its order. -/
def readPage (payload : Value) : Except StaFailure Page := do
  let count ← (staUpstreamTotal runtime payload).mapError .raised
  let items ← pageItems collection payload
  let things := holdsThings collection items
  let stationIds ← (items.mapM (itemStationId runtime things)).mapError .raised
  let records ← (pageRecords runtime collection sourceUrl items).mapError .raised
  let nextLink ← (staNextLink runtime payload).mapError .raised
  return ⟨count, items, stationIds, records, nextLink⟩

/-! ### The loop -/

/-- `_with_count_query`. -/
def withCountQuery (url : Text) : Except Raised Text :=
  match urlsplit runtime.rules url with
  | none => .error .valueError
  | some parts =>
      if text "$count" ∈ (parseQsl parts.query).map fun field => runtime.rules.lower field.1 then
        .ok url
      else
        .ok (url ++ text (if CodePoint.scalar '?' ∈ url then "&" else "?") ++ text "$count=true")

structure PageWalk where
  nextUrl : Option Text
  seenUrls : List Text
  records : List Members
  stationIds : List Text
  sourceItemsSeen : ℕ
  missingStationIdCount : ℕ
  duplicateStationIdCount : ℕ
  pagesFetched : ℕ
  paginationComplete : Bool
  upstreamTotals : List ℕ
  upstreamCountInvalid : Bool

def startWalk (url : Text) : PageWalk := ⟨some url, [], [], [], 0, 0, 0, 0, false, [], false⟩

/-- One item of the manifest. -/
def countStation (walk : PageWalk) (stationId : Option Text) : PageWalk :=
  let counted := { walk with sourceItemsSeen := walk.sourceItemsSeen + 1 }
  match stationId with
  | none => { counted with missingStationIdCount := walk.missingStationIdCount + 1 }
  | some stationId =>
      if stationId ∈ walk.stationIds then
        { counted with duplicateStationIdCount := walk.duplicateStationIdCount + 1 }
      else { counted with stationIds := walk.stationIds ++ [stationId] }

def countTotal (walk : PageWalk) : Option (Option ℕ) → PageWalk
  | none => walk
  | some none => { walk with upstreamCountInvalid := true }
  | some (some total) =>
      { walk with upstreamTotals :=
          if total ∈ walk.upstreamTotals then walk.upstreamTotals
          else walk.upstreamTotals ++ [total] }

/-- The walk after a page that was read at a URL with this key. -/
def takePage (walk : PageWalk) (key : Text) (page : Page) : PageWalk :=
  let fetched := { walk with
    seenUrls := walk.seenUrls ++ [key]
    pagesFetched := walk.pagesFetched + 1 }
  let counted := page.stationIds.foldl countStation (countTotal fetched page.count)
  { counted with
    records := counted.records ++ page.records
    nextUrl := page.nextLink
    paginationComplete := counted.paginationComplete || page.nextLink.isNone }

/-- The payloads by their URLs; nothing where the fetch raises. -/
abbrev Server := Text → Option Value

variable (server : Server)

def walkGuard (walk : PageWalk) : Bool := walk.nextUrl.isSome

/-- The body of the loop. -/
def walkTurn (walk : PageWalk) : Except StaFailure PageWalk :=
  match walk.nextUrl with
  | none => .ok walk
  | some url => do
      let key ← (withCountQuery runtime url).mapError .raised
      if key ∈ walk.seenUrls then .error .payload
      else
        match server url with
        | none => .error .fetch
        | some payload => do
            let page ← readPage runtime collection sourceUrl payload
            return takePage walk key page

/-! ### The result -/

/-- `StationInventoryProof`. -/
structure InventoryProof where
  upstreamTotal : Option ℕ
  pagesFetched : ℕ
  paginationComplete : Bool
  sourceItemsSeen : ℕ
  missingStationIdCount : ℕ
  duplicateStationIdCount : ℕ
  stationIds : List Text

/-- `__post_init__`; the counters are naturals. -/
def InventoryProof.checked (proof : InventoryProof) : Except Raised InventoryProof :=
  if proof.paginationComplete = true ∧ proof.pagesFetched = 0 then .error .valueError
  else if proof.stationIds.any fun stationId =>
    stationId = [] || stationId ≠ stripText stationId then .error .valueError
  else if proof.stationIds ≠ sortTexts proof.stationIds.dedup then .error .valueError
  else .ok proof

def InventoryProof.inventoryComplete (proof : InventoryProof) : Bool :=
  proof.upstreamTotal.isSome && proof.paginationComplete && 0 < proof.pagesFetched &&
    proof.missingStationIdCount = 0 && proof.duplicateStationIdCount = 0 &&
    proof.sourceItemsSeen = proof.stationIds.length &&
    some proof.stationIds.length = proof.upstreamTotal

structure ThingsFetchResult where
  records : List Members
  proof : InventoryProof

def resolvedTotal (walk : PageWalk) : Option ℕ :=
  match walk.upstreamCountInvalid, walk.upstreamTotals with
  | false, [total] => some total
  | _, _ => none

def fetchResult (walk : PageWalk) : Except StaFailure ThingsFetchResult := do
  let proof ← (InventoryProof.checked ⟨resolvedTotal walk, walk.pagesFetched,
    walk.paginationComplete, walk.sourceItemsSeen, walk.missingStationIdCount,
    walk.duplicateStationIdCount, sortTexts walk.stationIds⟩).mapError .raised
  return ⟨walk.records, proof⟩

/-- `fetch_paginated_sta_things` and `fetch_paginated_sta_datastreams`, in at most `turns` turns of
the loop; nothing where it has not ended. -/
def fetchPaginated (startUrl : Text) (turns : ℕ) : Option (Except StaFailure ThingsFetchResult) :=
  match withCountQuery runtime startUrl with
  | .error cause => some (.error (.raised cause))
  | .ok url =>
      (While.run walkGuard (walkTurn runtime collection sourceUrl server) turns
        (startWalk url)).map fun outcome => outcome.bind fetchResult

end FloodRisk.CivilIot
