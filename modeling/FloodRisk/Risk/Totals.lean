import FloodRisk.Lib.CappedTotals
import FloodRisk.Risk.Scoring

/-!
# Event totals of a weighted score

The cap of an event is applied after every signal.  As no contribution is
negative, the total of an event is the capped total of all its contributions,
whatever their order.
-/

namespace FloodRisk.Risk
open CappedTotals Promotion

/-! ### Contributions -/

theorem weight_nonneg (weights : WeightTable) (eventType : EventType) :
    0 ≤ weight weights eventType := by
  cases weights <;> cases eventType <;> simp [weight]

theorem clamp_nonneg (value : ℚ) : 0 ≤ clamp value :=
  le_min (le_max_right value 0) (by norm_num)

theorem distanceFactor_nonneg (distance : Option ℚ) : 0 ≤ distanceFactor distance := by
  cases distance with
  | none => norm_num [distanceFactor]
  | some distance =>
    simp only [distanceFactor]
    split
    · norm_num
    · split <;> norm_num

theorem precisionFactor_nonneg (signal : RiskEvidenceSignal) : 0 ≤ precisionFactor signal := by
  unfold precisionFactor
  split
  · cases signal.locationPrecision <;> norm_num [precisionFactors]
  · norm_num

theorem weightedSignalContribution_nonneg (signal : RiskEvidenceSignal) {eventWeight : ℚ}
    (h : 0 ≤ eventWeight) : 0 ≤ weightedSignalContribution signal eventWeight := by
  have hconfidence := clamp_nonneg signal.confidence
  have hfreshness := clamp_nonneg signal.freshnessScore
  have hfactor := clamp_nonneg signal.riskFactor
  have hdistance := distanceFactor_nonneg signal.distanceToQueryM
  have hsource : 0 ≤ max signal.sourceWeight 0 := le_max_right _ _
  unfold weightedSignalContribution
  positivity

theorem scoreContribution_nonneg (signal : RiskEvidenceSignal) (weights : WeightTable) :
    0 ≤ scoreContribution signal weights := by
  have hplain := weightedSignalContribution_nonneg signal (weight_nonneg weights signal.eventType)
  have hprecise := mul_nonneg hplain (precisionFactor_nonneg signal)
  have hcontribution : 0 ≤ if weights = .historical then
      weightedSignalContribution signal (weight weights signal.eventType) * precisionFactor signal
      else weightedSignalContribution signal (weight weights signal.eventType) := by
    split
    · exact hprecise
    · exact hplain
  unfold scoreContribution
  simp only
  split
  · exact hcontribution.trans (le_max_left _ _)
  · exact hcontribution

/-! ### Totals -/

/-- `totals_by_event` after all signals. -/
def totalsByEvent (signals : List RiskEvidenceSignal) (weights : WeightTable)
    (recency : Option Recency) : EventType → ℚ :=
  (signals.filter fun signal => isWeightedSignalEligible signal weights recency).foldl
    (addToTotals weights (hasObservedHistory signals weights recency)) fun _ => 0

theorem weightedScore_eq_totals (signals : List RiskEvidenceSignal) (weights : WeightTable)
    (recency : Option Recency) :
    weightedScore signals weights recency =
      min (scoredEventTypes.map (totalsByEvent signals weights recency)).sum 100 := rfl

/-- What the eligible signals of an event contribute. -/
def contributions (signals : List RiskEvidenceSignal) (weights : WeightTable)
    (recency : Option Recency) (eventType : EventType) : List ℚ :=
  ((signals.filter fun signal => isWeightedSignalEligible signal weights recency).filter
    fun signal => signal.eventType = eventType).map fun signal => scoreContribution signal weights

/-- The largest contribution of a correlated event, the sum for any other. -/
def uncappedTotal (eventType : EventType) (values : List ℚ) : ℚ :=
  if isCorrelatedRealtime eventType then values.foldl max 0 else values.sum

def cappedTotal (eventType : EventType) (hasObservedHistory : Bool) (values : List ℚ) : ℚ :=
  (eventScoreCap eventType hasObservedHistory).elim (uncappedTotal eventType values)
    (min (uncappedTotal eventType values))

theorem mem_contributions {signals : List RiskEvidenceSignal} {weights : WeightTable}
    {recency : Option Recency} {eventType : EventType} {value : ℚ}
    (h : value ∈ contributions signals weights recency eventType) :
    ∃ signal ∈ signals, isWeightedSignalEligible signal weights recency = true ∧
      signal.eventType = eventType ∧ scoreContribution signal weights = value := by
  obtain ⟨signal, hsignal, heq⟩ := List.mem_map.mp h
  obtain ⟨heligible, htype⟩ := List.mem_filter.mp hsignal
  obtain ⟨hmem, heligible⟩ := List.mem_filter.mp heligible
  exact ⟨signal, hmem, heligible, of_decide_eq_true htype, heq⟩

theorem contributions_nonneg {signals : List RiskEvidenceSignal} {weights : WeightTable}
    {recency : Option Recency} {eventType : EventType} :
    ∀ value ∈ contributions signals weights recency eventType, 0 ≤ value := by
  intro value hvalue
  obtain ⟨signal, -, -, -, heq⟩ := mem_contributions hvalue
  rw [← heq]
  exact scoreContribution_nonneg signal weights

theorem eventScoreCap_nonneg {eventType : EventType} {observed : Bool} {cap : ℚ}
    (h : eventScoreCap eventType observed = some cap) : 0 ≤ cap := by
  unfold eventScoreCap at h
  split at h
  · rw [← Option.some.inj h]
    norm_num [floodPotentialContextCapWithObservedHistory]
  · cases eventType <;> simp [eventScoreCaps, weight] at h <;> rw [← h] <;> norm_num

/-- One running total: the fold of `_weighted_score` for a single event. -/
def addToTotal (eventType : EventType) (observed : Bool) (total contribution : ℚ) : ℚ :=
  let sum := if isCorrelatedRealtime eventType then max total contribution else total + contribution
  (eventScoreCap eventType observed).elim sum (min sum)

theorem foldl_addToTotal (eventType : EventType) (observed : Bool) {values : List ℚ}
    (h : ∀ value ∈ values, 0 ≤ value) :
    values.foldl (addToTotal eventType observed) 0 = cappedTotal eventType observed values := by
  cases hcap : eventScoreCap eventType observed with
  | none =>
    cases hcorrelated : isCorrelatedRealtime eventType with
    | true =>
      have hstep : addToTotal eventType observed = max := by
        funext total value
        simp [addToTotal, hcap, hcorrelated]
      simp [cappedTotal, uncappedTotal, hstep, hcap, hcorrelated]
    | false =>
      have hstep : addToTotal eventType observed = fun total value => total + value := by
        funext total value
        simp [addToTotal, hcap, hcorrelated]
      rw [hstep, ← List.sum_eq_foldl]
      simp [cappedTotal, uncappedTotal, hcap, hcorrelated]
  | some cap =>
    have hzero : min 0 cap = 0 := min_eq_left (eventScoreCap_nonneg hcap)
    cases hcorrelated : isCorrelatedRealtime eventType with
    | true =>
      have hstep : addToTotal eventType observed = fun total value => min (max total value) cap := by
        funext total value
        simp [addToTotal, hcap, hcorrelated, min_comm]
      have hfold := foldl_min_max cap values 0
      rw [hzero] at hfold
      rw [hstep, hfold]
      simp [cappedTotal, uncappedTotal, hcap, hcorrelated, min_comm]
    | false =>
      have hstep : addToTotal eventType observed = fun total value => min (total + value) cap := by
        funext total value
        simp [addToTotal, hcap, hcorrelated, min_comm]
      have hfold := foldl_min_add cap h 0
      rw [hzero, zero_add] at hfold
      rw [hstep, hfold]
      simp [cappedTotal, uncappedTotal, hcap, hcorrelated, min_comm]

theorem totalsByEvent_eq (signals : List RiskEvidenceSignal) (weights : WeightTable)
    (recency : Option Recency) (eventType : EventType) :
    totalsByEvent signals weights recency eventType =
      cappedTotal eventType (hasObservedHistory signals weights recency)
        (contributions signals weights recency eventType) := by
  rw [← foldl_addToTotal _ _ contributions_nonneg, contributions, List.foldl_map]
  exact foldl_update RiskEvidenceSignal.eventType
    (fun event total signal => addToTotal event (hasObservedHistory signals weights recency) total
      (scoreContribution signal weights)) _ (fun _ => 0) eventType

end FloodRisk.Risk
