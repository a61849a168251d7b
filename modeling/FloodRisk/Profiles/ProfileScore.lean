import FloodRisk.Lib.Grouping
import FloodRisk.Lib.OrderBy
import FloodRisk.Risk.Totals

/-!
# Scores of a risk profile (workers jobs/profiles.py)

`rebuildRiskProfile` is the statement of `rebuild_risk_profile`: the evidence of
the profile, the totals of its events, the join of both and the scores summed
over the join.
-/

namespace FloodRisk.Profiles
open Grouping Promotion Risk

/-! ### `profile_evidence` -/

/-- The columns of an `evidence` row that a profile reads. -/
structure StoredEvidence (Geometry : Type) where
  id : ℕ
  sourceType : SourceType
  eventType : EventType
  confidence : ℚ
  freshnessScore : Option ℚ
  sourceWeight : Option ℚ
  observedAt : Option ℤ
  occurredAt : Option ℤ
  ingestedAt : ℤ
  createdAt : ℤ
  geom : Option Geometry
  isAccepted : Bool
  isPublicOrAggregated : Bool

/-- `target_profile`: its area and the distance from its centre. -/
structure TargetProfile (Geometry : Type) where
  profileKey : String
  intersects : Geometry → Bool
  distanceToCenter : Geometry → ℚ
  profileRadiusM : ℕ

structure ProfileEvidence where
  id : ℕ
  sourceType : SourceType
  eventType : EventType
  confidence : ℚ
  freshnessScore : ℚ
  sourceWeight : ℚ
  observedAt : Option ℤ
  occurredAt : Option ℤ
  ingestedAt : ℤ
  createdAt : ℤ
  distanceToProfileM : ℚ
  deriving DecidableEq

def profileEvidence {Geometry : Type} (profile : TargetProfile Geometry)
    (evidence : List (StoredEvidence Geometry)) : List ProfileEvidence :=
  evidence.filterMap fun row => row.geom.bind fun geom =>
    if row.isAccepted && row.isPublicOrAggregated &&
        (profile.intersects geom || profile.distanceToCenter geom ≤ profile.profileRadiusM) then
      some
        { id := row.id
          sourceType := row.sourceType
          eventType := row.eventType
          confidence := row.confidence
          freshnessScore :=
            row.freshnessScore.getD (if row.sourceType = .official then 8 / 10 else 7 / 10)
          sourceWeight :=
            row.sourceWeight.getD (if row.sourceType = .official then 1 else 85 / 100)
          observedAt := row.observedAt
          occurredAt := row.occurredAt
          ingestedAt := row.ingestedAt
          createdAt := row.createdAt
          distanceToProfileM := profile.distanceToCenter geom }
    else none

/-! ### `event_scores` -/

def eventWeight : EventType → ℚ
  | .rainfall => 40
  | .waterLevel => 35
  | .floodWarning => 50
  | .floodReport => 35
  | .roadClosure => 15
  | .floodPotential => 40
  | _ => 0

def distanceWeight (distanceM : ℚ) : ℚ :=
  if distanceM ≤ 100 then 1 else if distanceM ≤ 500 then 75 / 100 else 5 / 10

def rowContribution (row : ProfileEvidence) : ℚ :=
  eventWeight row.eventType * clamp row.confidence * clamp row.freshnessScore *
    max row.sourceWeight 0 * distanceWeight row.distanceToProfileM

def eventTotal (rows : List ProfileEvidence) : ℚ := (rows.map rowContribution).sum

def eventScores (rows : List ProfileEvidence) : List (EventType × ℚ) :=
  groupBy ProfileEvidence.eventType eventTotal rows

/-! ### `scored` -/

def isIncident (eventType : EventType) : Bool :=
  eventType = .floodReport || eventType = .roadClosure

/-- A row of the event observed within six hours, five minutes of tolerance. -/
def hasRecent (rows : List ProfileEvidence) (now : ℤ) (eventType : EventType) : Bool :=
  rows.any fun recent => recent.eventType = eventType &&
    (recent.observedAt.or recent.occurredAt).any fun instant =>
      now - 6 * hour ≤ instant && instant ≤ now + 5 * 60 * 1000000

def countsRealtime (rows : List ProfileEvidence) (now : ℤ) (eventType : EventType) : Bool :=
  isCorrelatedRealtime eventType || isIncident eventType && hasRecent rows now eventType

def realtimeValue (rows : List ProfileEvidence) (now : ℤ) (eventType : EventType) (score : ℚ) : ℚ :=
  if countsRealtime rows now eventType then score else 0

def historicalValue (eventType : EventType) (score : ℚ) : ℚ :=
  if eventType = .floodPotential then min score 40
  else if isIncident eventType then score
  else 0

/-- `profile_evidence pe FULL JOIN event_scores es ON es.event_type = pe.event_type`. -/
def joinedScores (rows : List ProfileEvidence) :
    List (Option ProfileEvidence × Option (EventType × ℚ)) :=
  fullJoin (fun row score => score.1 = row.eventType) rows (eventScores rows)

/-- `LEAST(COALESCE(SUM(..), 0.0), 100.0)` over the join. -/
def joinedSum (rows : List ProfileEvidence) (value : EventType → ℚ → ℚ) : ℚ :=
  min ((joinedScores rows).map fun joined => joined.2.elim 0 fun score => value score.1 score.2).sum
    100

structure ScoredProfile where
  evidenceCount : ℕ
  realtimeScore : ℚ
  historicalScore : ℚ
  confidenceScore : ℚ
  hasRealtime : Bool
  hasHistorical : Bool
  hasObservedHistory : Bool
  hasRainfall : Bool
  hasWaterLevel : Bool
  latestObservedAt : Option ℤ
  latestOccurredAt : Option ℤ
  latestIngestedAt : Option ℤ
  deriving DecidableEq

/-- A profile of weightless evidence divides by null, which `LEAST` skips. -/
def profileConfidence (rows : List ProfileEvidence) : ℚ :=
  let totalWeight := (rows.map ProfileEvidence.sourceWeight).sum
  if rows = [] then 0
  else if totalWeight = 0 then 1
  else
    let bonus : ℚ := if rows.any fun row => row.sourceType = .official then 6 / 100 else 0
    min ((rows.map fun row => row.confidence * row.sourceWeight).sum / totalWeight + bonus) 1

def scored (rows : List ProfileEvidence) (now : ℤ) : ScoredProfile :=
  let has (kind : EventType → Bool) : Bool := rows.any fun row => kind row.eventType
  { evidenceCount := rows.length
    realtimeScore := joinedSum rows (realtimeValue rows now)
    historicalScore := joinedSum rows historicalValue
    confidenceScore := profileConfidence rows
    hasRealtime := has isCorrelatedRealtime
    hasHistorical := has fun eventType => eventType = .floodPotential || isIncident eventType
    hasObservedHistory := has isIncident
    hasRainfall := has (· = .rainfall)
    hasWaterLevel := has (· = .waterLevel)
    latestObservedAt := (rows.filterMap ProfileEvidence.observedAt).max?
    latestOccurredAt := (rows.filterMap ProfileEvidence.occurredAt).max?
    latestIngestedAt := (rows.map ProfileEvidence.ingestedAt).max? }

/-! ### `top_evidence` and `profile_update` -/

def sortRank (eventType : EventType) : ℕ :=
  if isIncident eventType then 0 else if eventType = .floodPotential then 1 else 2

/-- `sort_rank, occurred_at DESC NULLS LAST, created_at DESC`. -/
def topBefore (first second : ProfileEvidence) : Bool :=
  if sortRank first.eventType ≠ sortRank second.eventType then
    sortRank first.eventType < sortRank second.eventType
  else
    match first.occurredAt, second.occurredAt with
    | some firstAt, some secondAt =>
        secondAt < firstAt || firstAt = secondAt && second.createdAt ≤ first.createdAt
    | some _, none => true
    | none, some _ => false
    | none, none => second.createdAt ≤ first.createdAt

def topEvidenceIds (rows : List ProfileEvidence) : List ℕ :=
  (limitBy topBefore 5 rows).map ProfileEvidence.id

inductive ProfileStatus where
  | healthy | missing
  deriving DecidableEq, Repr

structure ProfileUpdate where
  profileKey : String
  scoreVersion : String
  realtimeLevel : RiskLevel
  historicalLevel : RiskLevel
  confidenceLevel : ConfidenceLevel
  evidenceCounts : List ((SourceType × EventType) × ℕ)
  topEvidenceIds : List ℕ
  latestObservedAt : Option ℤ
  latestOccurredAt : Option ℤ
  latestIngestedAt : Option ℤ
  coverageGaps : List String
  missingSources : List String
  status : ProfileStatus
  computedAt : ℤ
  expiresAt : ℤ
  evidenceCount : ℕ
  deriving DecidableEq

def profileUpdate (profileKey : String) (rows : List ProfileEvidence) (now : ℤ) : ProfileUpdate :=
  let score := scored rows now
  { profileKey := profileKey
    scoreVersion := "risk-v0.1.0"
    realtimeLevel := riskLevel score.realtimeScore score.hasRealtime
    historicalLevel := riskLevel score.historicalScore score.hasHistorical
    confidenceLevel := confidenceLevel score.confidenceScore (score.evidenceCount ≠ 0)
    evidenceCounts := groupBy (fun row => (row.sourceType, row.eventType)) List.length rows
    topEvidenceIds := topEvidenceIds rows
    latestObservedAt := score.latestObservedAt
    latestOccurredAt := score.latestOccurredAt
    latestIngestedAt := score.latestIngestedAt
    coverageGaps :=
      if score.evidenceCount = 0 then ["no_accepted_evidence"]
      else if score.hasObservedHistory then []
      else ["historical_news_backfill_partial"]
    missingSources :=
      (if score.hasRainfall then [] else ["rainfall"]) ++
        if score.hasWaterLevel then [] else ["water_level"]
    status := if score.evidenceCount = 0 then .missing else .healthy
    computedAt := now
    expiresAt := now + 7 * 24 * hour
    evidenceCount := score.evidenceCount }

/-- The row that the statement returns, nothing without the profile. -/
def rebuildRiskProfile {Geometry : Type} (target : Option (TargetProfile Geometry))
    (evidence : List (StoredEvidence Geometry)) (now : ℤ) : Option ProfileUpdate :=
  target.map fun profile =>
    profileUpdate profile.profileKey (profileEvidence profile evidence) now

/-! ### Every row once -/

/-- The realtime score of a sum over the rows themselves. -/
def countedRealtimeScore (rows : List ProfileEvidence) (now : ℤ) : ℚ :=
  min ((rows.map fun row =>
    if countsRealtime rows now row.eventType then rowContribution row else 0).sum) 100

def countedHistoricalScore (rows : List ProfileEvidence) : ℚ :=
  min (min (eventTotal (rows.filter fun row => row.eventType = .floodPotential)) 40 +
    eventTotal (rows.filter fun row => isIncident row.eventType)) 100

def totalOf (rows : List ProfileEvidence) (eventType : EventType) : ℚ :=
  eventTotal (rows.filter fun row => row.eventType = eventType)

def eventTypes (rows : List ProfileEvidence) : Finset EventType :=
  (rows.map ProfileEvidence.eventType).toFinset

/-- The values of the events fill the score, or every event with a value has a
single row. -/
def CountsOnce (rows : List ProfileEvidence) (value : EventType → ℚ → ℚ) : Prop :=
  100 ≤ ∑ eventType ∈ eventTypes rows, value eventType (totalOf rows eventType) ∨
    ∀ eventType ∈ eventTypes rows, (rows.countP fun row => row.eventType = eventType) = 1 ∨
      value eventType (totalOf rows eventType) = 0

section Sums

variable (rows : List ProfileEvidence)

theorem mem_eventTypes {row : ProfileEvidence} (h : row ∈ rows) : row.eventType ∈ eventTypes rows :=
  List.mem_toFinset.mpr (List.mem_map_of_mem h)

theorem rowContribution_nonneg (row : ProfileEvidence) : 0 ≤ rowContribution row := by
  have hweight : 0 ≤ eventWeight row.eventType := by cases row.eventType <;> norm_num [eventWeight]
  have hdistance : 0 ≤ distanceWeight row.distanceToProfileM := by
    unfold distanceWeight
    split
    · norm_num
    · split <;> norm_num
  have hconfidence := clamp_nonneg row.confidence
  have hfreshness := clamp_nonneg row.freshnessScore
  have hsource : 0 ≤ max row.sourceWeight 0 := le_max_right _ _
  unfold rowContribution
  positivity

theorem eventTotal_nonneg : 0 ≤ eventTotal rows := by
  refine List.sum_nonneg fun value hvalue => ?_
  obtain ⟨row, -, heq⟩ := List.mem_map.mp hvalue
  exact heq ▸ rowContribution_nonneg row

/-- The join counts the value of an event once for each of its rows. -/
theorem joinedSum_eq (value : EventType → ℚ → ℚ) :
    joinedSum rows value = min (∑ eventType ∈ eventTypes rows,
      ((rows.countP fun row => row.eventType = eventType : ℕ) : ℚ) *
        value eventType (totalOf rows eventType)) 100 := by
  have hjoined : (joinedScores rows).map
        (fun joined => joined.2.elim 0 fun score => value score.1 score.2) =
      rows.map fun row => value row.eventType (totalOf rows row.eventType) := by
    rw [joinedScores, eventScores, fullJoin_groupBy, List.map_map]
    rfl
  have hgroup : ∀ eventType ∈ eventTypes rows,
      ((rows.filter fun row => row.eventType = eventType).map
        fun row => value row.eventType (totalOf rows row.eventType)).sum =
      ((rows.countP fun row => row.eventType = eventType : ℕ) : ℚ) *
        value eventType (totalOf rows eventType) := by
    intro eventType _
    have hconstant : ((rows.filter fun row => row.eventType = eventType).map
          fun row => value row.eventType (totalOf rows row.eventType)) =
        (rows.filter fun row => row.eventType = eventType).map
          fun _ => value eventType (totalOf rows eventType) := by
      refine List.map_congr_left fun row hrow => ?_
      rw [of_decide_eq_true (List.mem_filter.mp hrow).2]
    rw [hconstant, List.map_const', List.sum_replicate, nsmul_eq_mul, List.countP_eq_length_filter]
  rw [joinedSum, hjoined, sum_map_eq_sum_groups ProfileEvidence.eventType _
    (fun row hrow => mem_eventTypes rows hrow), Finset.sum_congr rfl hgroup]

theorem sum_contributions_eq (counts : EventType → Bool) :
    (rows.map fun row => if counts row.eventType then rowContribution row else 0).sum =
      ∑ eventType ∈ eventTypes rows, if counts eventType then totalOf rows eventType else 0 := by
  rw [sum_map_eq_sum_groups ProfileEvidence.eventType _ fun row hrow => mem_eventTypes rows hrow]
  refine Finset.sum_congr rfl fun eventType _ => ?_
  have hgroup : ((rows.filter fun row => row.eventType = eventType).map
        fun row => if counts row.eventType then rowContribution row else 0) =
      (rows.filter fun row => row.eventType = eventType).map
        fun row => if counts eventType then rowContribution row else 0 := by
    refine List.map_congr_left fun row hrow => ?_
    rw [of_decide_eq_true (List.mem_filter.mp hrow).2]
  rw [hgroup]
  cases counts eventType with
  | true => rfl
  | false => simp

end Sums

theorem eventTotal_filter (rows : List ProfileEvidence) (counts : EventType → Bool) :
    eventTotal (rows.filter fun row => counts row.eventType) =
      (rows.map fun row => if counts row.eventType then rowContribution row else 0).sum := by
  have hother : ((rows.filter fun row => decide ¬ counts row.eventType = true).map
      fun _ => (0 : ℚ)).sum = 0 := by
    rw [List.map_const', List.sum_replicate, nsmul_zero]
  rw [List.sum_map_ite, hother, add_zero]
  simp only [Bool.decide_eq_true]
  rfl

theorem countedRealtimeScore_eq (rows : List ProfileEvidence) (now : ℤ) :
    countedRealtimeScore rows now = min (∑ eventType ∈ eventTypes rows,
      realtimeValue rows now eventType (totalOf rows eventType)) 100 := by
  rw [countedRealtimeScore, sum_contributions_eq]
  rfl

theorem countedHistoricalScore_eq (rows : List ProfileEvidence) :
    countedHistoricalScore rows = min (∑ eventType ∈ eventTypes rows,
      historicalValue eventType (totalOf rows eventType)) 100 := by
  have hvalue : ∀ eventType ∈ eventTypes rows, historicalValue eventType (totalOf rows eventType) =
      (if eventType = .floodPotential then min (totalOf rows .floodPotential) 40 else 0) +
        if isIncident eventType then totalOf rows eventType else 0 := by
    intro eventType _
    by_cases hpotential : eventType = .floodPotential
    · rw [hpotential]
      simp [historicalValue, isIncident]
    · simp [historicalValue, hpotential]
  have hpotential : (∑ eventType ∈ eventTypes rows,
      if eventType = .floodPotential then min (totalOf rows .floodPotential) 40 else 0) =
      min (totalOf rows .floodPotential) 40 := by
    rw [Finset.sum_ite_eq']
    split
    · rfl
    · rename_i hnone
      have hempty : (rows.filter fun row => row.eventType = .floodPotential) = [] := by
        rw [List.filter_eq_nil_iff]
        intro row hrow htype
        exact hnone (of_decide_eq_true htype ▸ mem_eventTypes rows hrow)
      rw [totalOf, hempty]
      norm_num [eventTotal]
  have hincidents := sum_contributions_eq rows isIncident
  rw [Finset.sum_congr rfl hvalue, Finset.sum_add_distrib, hpotential, ← hincidents,
    ← eventTotal_filter]
  rfl

theorem value_nonneg (rows : List ProfileEvidence) (now : ℤ) (eventType : EventType) :
    0 ≤ realtimeValue rows now eventType (totalOf rows eventType) ∧
      0 ≤ historicalValue eventType (totalOf rows eventType) := by
  have htotal : 0 ≤ totalOf rows eventType := eventTotal_nonneg _
  refine ⟨?_, ?_⟩
  · unfold realtimeValue
    split
    · exact htotal
    · exact le_refl _
  · unfold historicalValue
    split
    · exact le_min htotal (by norm_num)
    · split
      · exact htotal
      · exact le_refl _

theorem one_le_countP {rows : List ProfileEvidence} {eventType : EventType}
    (h : eventType ∈ eventTypes rows) :
    1 ≤ rows.countP fun row => row.eventType = eventType := by
  obtain ⟨row, hrow, heq⟩ := List.mem_map.mp (List.mem_toFinset.mp h)
  exact List.countP_pos_iff.mpr ⟨row, hrow, decide_eq_true heq⟩

theorem joinedSum_eq_iff (rows : List ProfileEvidence) {value : EventType → ℚ → ℚ}
    (hvalue : ∀ eventType, 0 ≤ value eventType (totalOf rows eventType)) :
    joinedSum rows value =
        min (∑ eventType ∈ eventTypes rows, value eventType (totalOf rows eventType)) 100 ↔
      CountsOnce rows value := by
  rw [joinedSum_eq]
  exact min_sum_repeated_iff _ (fun eventType => value eventType (totalOf rows eventType)) 100
    (fun _ h => one_le_countP h) fun eventType _ => hvalue eventType

/-- Both scores of a profile count every evidence once exactly when its event
totals fill them or stand for a single row each. -/
theorem profile_scores_count_once_iff (rows : List ProfileEvidence) (now : ℤ) :
    (scored rows now).realtimeScore = countedRealtimeScore rows now ∧
        (scored rows now).historicalScore = countedHistoricalScore rows ↔
      CountsOnce rows (realtimeValue rows now) ∧ CountsOnce rows historicalValue := by
  rw [countedRealtimeScore_eq, countedHistoricalScore_eq]
  exact and_congr
    (joinedSum_eq_iff rows fun eventType => (value_nonneg rows now eventType).1)
    (joinedSum_eq_iff rows fun eventType => (value_nonneg rows now eventType).2)

/-! ### Overlapping flood potential -/

def potentialPolygon (id : ℕ) : ProfileEvidence where
  id := id
  sourceType := .official
  eventType := .floodPotential
  confidence := 78 / 100
  freshnessScore := 8 / 10
  sourceWeight := 1
  observedAt := none
  occurredAt := none
  ingestedAt := 0
  createdAt := 0
  distanceToProfileM := 0

/-- Three overlapping polygons count nine times and make a severe level. -/
theorem overlapping_potential_is_severe :
    (scored ([1, 2, 3].map potentialPolygon) 0).historicalScore = 100 ∧
      countedHistoricalScore ([1, 2, 3].map potentialPolygon) = 40 ∧
      (profileUpdate "8:21:13" ([1, 2, 3].map potentialPolygon) 0).historicalLevel = .extreme ∧
      ¬ ∀ rows now, (scored rows now).realtimeScore = countedRealtimeScore rows now ∧
        (scored rows now).historicalScore = countedHistoricalScore rows := by
  have hscore : (scored ([1, 2, 3].map potentialPolygon) 0).historicalScore = 100 := by
    decide +kernel
  have hcounted : countedHistoricalScore ([1, 2, 3].map potentialPolygon) = 40 := by
    decide +kernel
  refine ⟨hscore, hcounted, by decide +kernel, fun h => ?_⟩
  have hequal := (h ([1, 2, 3].map potentialPolygon) 0).2
  rw [hscore, hcounted] at hequal
  norm_num at hequal

end FloodRisk.Profiles
