import Mathlib.Data.Rat.Defs
import Mathlib.Tactic.NormNum

/-!
# The chain of geocoders (domain/geocoding/providers.py)

`GeocoderChain.geocode` asks one provider after the other, and remembers the
first candidates of low confidence.
-/

namespace FloodRisk.Geocoding

inductive GeocodePrecision where
  | exactAddress | roadOrLane | poi | mapClick | adminArea | unknown
  deriving DecidableEq

structure PlaceCandidate where
  placeId : String
  confidence : ℚ
  precision : GeocodePrecision
  deriving DecidableEq

structure GeocodeRequest where
  query : String
  limit : ℕ
  limit_pos : 1 ≤ limit

/-- `GeocodeProvider.search`. -/
abbrev GeocodeProvider := GeocodeRequest → List PlaceCandidate

def precisionSortOrder : GeocodePrecision → ℕ
  | .exactAddress => 0
  | .roadOrLane => 1
  | .poi => 2
  | .mapClick => 3
  | .adminArea => 4
  | .unknown => 5

/-- `_best_precision_sort_order`. -/
def bestPrecisionSortOrder (candidates : List PlaceCandidate) : ℕ :=
  ((candidates.map fun candidate => precisionSortOrder candidate.precision).min?).getD 99

section Query

variable (isdecimal : Char → Bool)

/-- The digits before a house-number marker, read backwards. -/
def isHouseNumber : List Char → Bool
  | [] => false
  | c :: rest =>
      isdecimal c &&
        match rest.dropWhile isdecimal with
        | '之' :: more => more.head?.any isdecimal
        | _ => true

def scanMarkers : List Char → List Char → Bool
  | _, [] => false
  | before, c :: rest => (c = '號' && isHouseNumber isdecimal before) || scanMarkers (c :: before) rest

/-- `_contains_numbered_address`. -/
def containsNumberedAddress (query : String) : Bool := scanMarkers isdecimal [] query.toList

def hasRoad (candidates : List PlaceCandidate) : Bool :=
  candidates.any fun candidate => candidate.precision = .roadOrLane

/-- `_should_continue_after_low_confidence`. -/
def shouldContinueAfterLowConfidence (request : GeocodeRequest)
    (candidates : List PlaceCandidate) : Bool :=
  if containsNumberedAddress isdecimal request.query then false else hasRoad candidates

def isConfident (candidates : List PlaceCandidate) : Bool :=
  candidates.any fun candidate => 65 / 100 ≤ candidate.confidence

/-- The loop of `geocode` with its `fallback_candidates`. -/
def geocodeFrom (request : GeocodeRequest) :
    List PlaceCandidate → List GeocodeProvider → List PlaceCandidate
  | fallback, [] => fallback
  | fallback, provider :: rest =>
      let candidates := provider request
      if candidates.isEmpty then geocodeFrom request fallback rest
      else
        let limited := candidates.take request.limit
        if isConfident limited then
          if !fallback.isEmpty &&
              bestPrecisionSortOrder fallback < bestPrecisionSortOrder limited then
            geocodeFrom request fallback rest
          else limited
        else if !shouldContinueAfterLowConfidence isdecimal request limited then limited
        else geocodeFrom request (if fallback.isEmpty then limited else fallback) rest

/-- `GeocoderChain.geocode`. -/
def geocode (providers : List GeocodeProvider) (request : GeocodeRequest) : List PlaceCandidate :=
  geocodeFrom isdecimal request [] providers

/-- The candidates of low confidence that the loop went on past. -/
def passedFrom (request : GeocodeRequest) :
    List PlaceCandidate → List GeocodeProvider → List (List PlaceCandidate)
  | _, [] => []
  | fallback, provider :: rest =>
      let candidates := provider request
      if candidates.isEmpty then passedFrom request fallback rest
      else
        let limited := candidates.take request.limit
        if isConfident limited then
          if !fallback.isEmpty &&
              bestPrecisionSortOrder fallback < bestPrecisionSortOrder limited then
            passedFrom request fallback rest
          else []
        else if !shouldContinueAfterLowConfidence isdecimal request limited then []
        else limited :: passedFrom request (if fallback.isEmpty then limited else fallback) rest

def passed (providers : List GeocodeProvider) (request : GeocodeRequest) :
    List (List PlaceCandidate) :=
  passedFrom isdecimal request [] providers

end Query

end FloodRisk.Geocoding
