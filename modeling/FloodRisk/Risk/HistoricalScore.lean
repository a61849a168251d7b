import FloodRisk.Risk.ScoreLaws

/-!
# More evidence and the historical score

The first precisely located report or closure lowers the cap of the flood
potential.  The score falls when that signal contributes less than the lower
cap takes away, which a report within one kilometre never does.
-/

namespace FloodRisk.Risk
open Assessment CappedTotals Promotion

/-! ### The score from its totals -/

def potentialTotal (signals : List RiskEvidenceSignal) : ℚ :=
  (contributions signals .historical none .floodPotential).sum

/-- What the eligible reports and closures contribute. -/
def incidentTotal (signals : List RiskEvidenceSignal) : ℚ :=
  (contributions signals .historical none .floodReport).sum +
    (contributions signals .historical none .roadClosure).sum

def floodPotentialCap (observed : Bool) : ℚ :=
  if observed then floodPotentialContextCapWithObservedHistory else 40

def isAdminAreaOnly (signals : List RiskEvidenceSignal) : Bool :=
  let eligible := signals.filter fun signal => isWeightedSignalEligible signal .historical none
  eligible ≠ [] && eligible.all fun signal => signal.locationPrecision = .adminArea

theorem contributions_of_weight_nonpos {signals : List RiskEvidenceSignal} {weights : WeightTable}
    {recency : Option Recency} {eventType : EventType} (h : weight weights eventType ≤ 0) :
    contributions signals weights recency eventType = [] := by
  rw [List.eq_nil_iff_forall_not_mem]
  intro value hvalue
  obtain ⟨signal, -, heligible, htype, -⟩ := mem_contributions hvalue
  rw [isWeightedSignalEligible, if_pos (htype ▸ h)] at heligible
  exact absurd heligible (by simp)

theorem weightedScore_historical (signals : List RiskEvidenceSignal) :
    weightedScore signals .historical none =
      min (min (potentialTotal signals)
        (floodPotentialCap (hasObservedHistory signals .historical none)) +
          incidentTotal signals) 100 := by
  have hnone : ∀ eventType, weight .historical eventType ≤ 0 →
      contributions signals .historical none eventType = [] :=
    fun _ h => contributions_of_weight_nonpos h
  have hrainfall := hnone .rainfall (by simp [weight])
  have hwater := hnone .waterLevel (by simp [weight])
  have hwarning := hnone .floodWarning (by simp [weight])
  rw [weightedScore_eq_totals]
  congr 1
  simp only [scoredEventTypes, List.map_cons, List.map_nil, List.sum_cons, List.sum_nil,
    totalsByEvent_eq, hrainfall, hwater, hwarning]
  cases hasObservedHistory signals .historical none <;>
    simp [cappedTotal, uncappedTotal, eventScoreCap, eventScoreCaps, isCorrelatedRealtime,
      potentialTotal, incidentTotal, floodPotentialCap, weight]

theorem applyAdminAreaOnlyHistoricalCap_eq (signals : List RiskEvidenceSignal) (score : ℚ) :
    applyAdminAreaOnlyHistoricalCap signals score =
      if isAdminAreaOnly signals then min score adminAreaOnlyHistoricalCap else score := rfl

/-! ### The condition -/

/-- The signal is the first that counts as an observed history. -/
def isFirstObservation (signals : List RiskEvidenceSignal) (added : RiskEvidenceSignal) : Bool :=
  hasObservedHistory [added] .historical none && !hasObservedHistory signals .historical none

/-- What the signal contributes makes up, at three decimals, for what the lower
cap takes from the flood potential. -/
def MakesUp (signals : List RiskEvidenceSignal) (added : RiskEvidenceSignal) : Prop :=
  round3 (min (min (potentialTotal signals) (floodPotentialCap false) + incidentTotal signals)
      (if isAdminAreaOnly signals then adminAreaOnlyHistoricalCap else 100)) ≤
    round3 (min (potentialTotal signals) (floodPotentialCap true) + incidentTotal signals +
      scoreContribution added .historical)

theorem hasObservedHistory_cons (added : RiskEvidenceSignal) (signals : List RiskEvidenceSignal) :
    hasObservedHistory (added :: signals) .historical none =
      (hasObservedHistory [added] .historical none ||
        hasObservedHistory signals .historical none) := by
  simp only [hasObservedHistory, List.any_cons, List.any_nil, Bool.or_false]

theorem isFirstObservation_spec {signals : List RiskEvidenceSignal} {added : RiskEvidenceSignal}
    (h : isFirstObservation signals added = true) :
    isPrecisionWeighted added.eventType = true ∧ added.locationPrecision ≠ .adminArea ∧
      isWeightedSignalEligible added .historical none = true ∧
      hasObservedHistory signals .historical none = false ∧
      hasObservedHistory (added :: signals) .historical none = true := by
  simp only [isFirstObservation, Bool.and_eq_true, Bool.not_eq_true'] at h
  obtain ⟨hadded, hsignals⟩ := h
  have hown := hadded
  simp only [hasObservedHistory, List.any_cons, List.any_nil, Bool.or_false, Bool.and_eq_true,
    decide_eq_true_eq] at hown
  exact ⟨hown.1.1.1, hown.1.1.2, hown.2, hsignals, by
    rw [hasObservedHistory_cons, hadded, Bool.true_or]⟩

/-! ### The first observation -/

section First

variable {signals : List RiskEvidenceSignal} {added : RiskEvidenceSignal}

theorem potentialTotal_cons (h : isPrecisionWeighted added.eventType = true) :
    potentialTotal (added :: signals) = potentialTotal signals := by
  unfold potentialTotal
  rw [contributions_cons_of_not]
  rintro ⟨-, htype⟩
  rw [htype] at h
  exact absurd h (by decide)

theorem incidentTotal_cons (h : isPrecisionWeighted added.eventType = true)
    (heligible : isWeightedSignalEligible added .historical none = true) :
    incidentTotal (added :: signals) = incidentTotal signals + scoreContribution added .historical := by
  simp only [isPrecisionWeighted, Bool.or_eq_true, decide_eq_true_eq] at h
  unfold incidentTotal
  rcases h with hreport | hclosure
  · have hother : ¬ (isWeightedSignalEligible added .historical none = true ∧
        added.eventType = .roadClosure) := fun hand => by simp [hreport] at hand
    rw [contributions_cons_of added signals .historical none _ heligible hreport,
      contributions_cons_of_not added signals .historical none _ hother, List.sum_cons]
    ring
  · have hother : ¬ (isWeightedSignalEligible added .historical none = true ∧
        added.eventType = .floodReport) := fun hand => by simp [hclosure] at hand
    rw [contributions_cons_of added signals .historical none _ heligible hclosure,
      contributions_cons_of_not added signals .historical none _ hother, List.sum_cons]
    ring

theorem isAdminAreaOnly_cons_eq_false (h : added.locationPrecision ≠ .adminArea)
    (heligible : isWeightedSignalEligible added .historical none = true) :
    isAdminAreaOnly (added :: signals) = false := by
  unfold isAdminAreaOnly
  simp only
  rw [List.filter_cons, if_pos heligible, List.all_cons, decide_eq_false h, Bool.false_and,
    Bool.and_false]

theorem historicalScore_le_first_iff (h : isFirstObservation signals added = true) (now : ℤ) :
    (scoreRisk signals now).historicalScore ≤ (scoreRisk (added :: signals) now).historicalScore ↔
      MakesUp signals added := by
  obtain ⟨hincident, hprecise, heligible, hbefore, hafter⟩ := isFirstObservation_spec h
  have hold : applyAdminAreaOnlyHistoricalCap signals (weightedScore signals .historical none) =
      min (min (potentialTotal signals) (floodPotentialCap false) + incidentTotal signals)
        (if isAdminAreaOnly signals then adminAreaOnlyHistoricalCap else 100) := by
    rw [applyAdminAreaOnlyHistoricalCap_eq, weightedScore_historical, hbefore]
    split
    · rw [min_assoc, min_eq_right (show adminAreaOnlyHistoricalCap ≤ 100 by
        norm_num [adminAreaOnlyHistoricalCap])]
    · rfl
  have hnew : applyAdminAreaOnlyHistoricalCap (added :: signals)
      (weightedScore (added :: signals) .historical none) =
      min (min (potentialTotal signals) (floodPotentialCap true) + incidentTotal signals +
        scoreContribution added .historical) 100 := by
    rw [applyAdminAreaOnlyHistoricalCap_eq, isAdminAreaOnly_cons_eq_false hprecise heligible,
      weightedScore_historical, hafter, potentialTotal_cons hincident,
      incidentTotal_cons hincident heligible, ← add_assoc]
    rfl
  have hbound : min (min (potentialTotal signals) (floodPotentialCap false) +
      incidentTotal signals) (if isAdminAreaOnly signals then adminAreaOnlyHistoricalCap else 100) ≤
      100 := by
    refine (min_le_right _ _).trans ?_
    split
    · norm_num [adminAreaOnlyHistoricalCap]
    · exact le_refl _
  show round3 _ ≤ round3 _ ↔ _
  rw [hold, hnew, MakesUp]
  constructor
  · exact fun hle => hle.trans (round3_mono (min_le_left _ _))
  · intro hle
    rcases le_total (min (potentialTotal signals) (floodPotentialCap true) +
      incidentTotal signals + scoreContribution added .historical) 100 with hsmall | hlarge
    · rw [min_eq_left hsmall]
      exact hle
    · rw [min_eq_right hlarge]
      exact round3_mono hbound

end First

/-! ### Any other signal -/

theorem weightedScore_eq_zero {signals : List RiskEvidenceSignal}
    (h : (signals.filter fun signal => isWeightedSignalEligible signal .historical none) = []) :
    weightedScore signals .historical none = 0 := by
  have hnone : ∀ eventType, contributions signals .historical none eventType = [] := by
    intro eventType
    rw [contributions, h]
    rfl
  rw [weightedScore_historical, potentialTotal, incidentTotal, hnone, hnone, hnone]
  cases hasObservedHistory signals .historical none <;>
    norm_num [floodPotentialCap, floodPotentialContextCapWithObservedHistory]

theorem weightedScore_le_cons_of_same {signals : List RiskEvidenceSignal}
    {added : RiskEvidenceSignal} (h : hasObservedHistory (added :: signals) .historical none =
      hasObservedHistory signals .historical none) :
    weightedScore signals .historical none ≤ weightedScore (added :: signals) .historical none := by
  rw [weightedScore_eq_totals, weightedScore_eq_totals]
  refine min_le_min_right 100 (List.sum_le_sum fun eventType _ => ?_)
  rw [totalsByEvent_eq, totalsByEvent_eq, h]
  exact cappedTotal_le_cons added signals .historical none _ eventType

/-- While the switch of the observed history stays, no signal lowers the score:
the admin-area cap is lifted by another signal, never put on by one. -/
theorem historicalScore_le_cons_of_same {signals : List RiskEvidenceSignal}
    {added : RiskEvidenceSignal} (h : hasObservedHistory (added :: signals) .historical none =
      hasObservedHistory signals .historical none) (now : ℤ) :
    (scoreRisk signals now).historicalScore ≤ (scoreRisk (added :: signals) now).historicalScore := by
  have hscore := weightedScore_le_cons_of_same h
  refine round3_mono ?_
  rw [applyAdminAreaOnlyHistoricalCap_eq, applyAdminAreaOnlyHistoricalCap_eq]
  cases hnew : isAdminAreaOnly (added :: signals) with
  | false =>
    refine le_trans ?_ hscore
    split
    · exact min_le_left _ _
    · exact le_refl _
  | true =>
    by_cases hempty : (signals.filter fun signal =>
        isWeightedSignalEligible signal .historical none) = []
    · have hold : isAdminAreaOnly signals = false := by
        simp only [isAdminAreaOnly, hempty, ne_eq, not_true_eq_false, decide_false, Bool.false_and]
      rw [hold, weightedScore_eq_zero hempty]
      exact le_min (weightedScore_mem_Icc _ _ _).1 (by norm_num [adminAreaOnlyHistoricalCap])
    · have hold : isAdminAreaOnly signals = true := by
        simp only [isAdminAreaOnly, Bool.and_eq_true, decide_eq_true_eq] at hnew ⊢
        refine ⟨hempty, List.all_eq_true.mpr fun signal hsignal => ?_⟩
        refine List.all_eq_true.mp hnew.2 signal ?_
        obtain ⟨hmem, heligible⟩ := List.mem_filter.mp hsignal
        exact List.mem_filter.mpr ⟨List.mem_cons_of_mem added hmem, heligible⟩
      rw [hold]
      exact min_le_min_right adminAreaOnlyHistoricalCap hscore

/-- A further signal lowers the historical score exactly when it is the first
observed history and does not make up for the lower cap. -/
theorem historical_score_kept_iff (before after : List RiskEvidenceSignal)
    (added : RiskEvidenceSignal) (now : ℤ) :
    (scoreRisk (before ++ after) now).historicalScore ≤
        (scoreRisk (before ++ added :: after) now).historicalScore ↔
      (isFirstObservation (before ++ after) added = true → MakesUp (before ++ after) added) := by
  have hperm : (before ++ added :: after).Perm (added :: (before ++ after)) := List.perm_middle
  have hscore : (scoreRisk (before ++ added :: after) now).historicalScore =
      (scoreRisk (added :: (before ++ after)) now).historicalScore := by
    show round3 _ = round3 _
    rw [applyAdminAreaOnlyHistoricalCap_perm hperm, weightedScore_perm hperm]
  rw [hscore]
  cases hfirst : isFirstObservation (before ++ after) added with
  | true =>
    rw [historicalScore_le_first_iff hfirst now]
    exact ⟨fun h _ => h, fun h => h rfl⟩
  | false =>
    refine iff_of_true (historicalScore_le_cons_of_same ?_ now) (by simp)
    rw [hasObservedHistory_cons]
    simp only [isFirstObservation, Bool.and_eq_false_iff, Bool.not_eq_false'] at hfirst
    rcases hfirst with hadded | hsignals
    · rw [hadded, Bool.false_or]
    · rw [hsignals, Bool.or_true]

/-- The floor of a report within one kilometre is above what the cap takes. -/
theorem makesUp_of_report_within_1km {signals : List RiskEvidenceSignal}
    {added : RiskEvidenceSignal} {distance : ℚ} (htype : added.eventType = .floodReport)
    (hdistance : added.distanceToQueryM = some distance) (hnear : distance ≤ 1000) :
    MakesUp signals added := by
  have hfloor : observedHistoryMinScoreWithin1Km ≤ scoreContribution added .historical := by
    have hweight : weight .historical .floodReport ≤ weight .historical added.eventType := by
      rw [htype]
    unfold scoreContribution
    simp only [htype, hdistance, Option.any_some, decide_eq_true hnear, decide_true, Bool.and_true,
      le_refl, if_true]
    exact le_max_right _ _
  have hcap : min (potentialTotal signals) (floodPotentialCap false) ≤
      min (potentialTotal signals) (floodPotentialCap true) + observedHistoryMinScoreWithin1Km := by
    norm_num [floodPotentialCap, floodPotentialContextCapWithObservedHistory,
      observedHistoryMinScoreWithin1Km]
    rcases le_total (potentialTotal signals) 20 with hsmall | hlarge
    · left
      rw [min_eq_left hsmall]
      linarith
    · right
      rw [min_eq_right hlarge]
      norm_num
  refine round3_mono ((min_le_left _ _).trans ?_)
  linarith

/-! ### A closure that lowers the score -/

def potentialOverlap : RiskEvidenceSignal where
  sourceType := .official
  eventType := .floodPotential
  confidence := 1
  distanceToQueryM := some 0
  freshnessScore := 1
  sourceWeight := 1

/-- A road closure at a point in which its source has no confidence. -/
def doubtfulClosure : RiskEvidenceSignal where
  sourceType := .news
  eventType := .roadClosure
  confidence := 0
  distanceToQueryM := some 400
  freshnessScore := 1
  sourceWeight := 1
  locationPrecision := .point

theorem doubtful_closure_lowers_history :
    (scoreRisk [potentialOverlap] 0).historicalScore = 40 ∧
      (scoreRisk [potentialOverlap, doubtfulClosure] 0).historicalScore = 20 ∧
      ¬ ∀ before after added now, (scoreRisk (before ++ after) now).historicalScore ≤
        (scoreRisk (before ++ added :: after) now).historicalScore := by
  have hwithout : (scoreRisk [potentialOverlap] 0).historicalScore = 40 := by decide +kernel
  have hwith : (scoreRisk [potentialOverlap, doubtfulClosure] 0).historicalScore = 20 := by
    decide +kernel
  refine ⟨hwithout, hwith, fun h => ?_⟩
  have hle := h [potentialOverlap] [] doubtfulClosure 0
  rw [List.append_nil] at hle
  have hfall : (40 : ℚ) ≤ 20 := by
    rw [← hwithout, ← hwith]
    exact hle
  norm_num at hfall

end FloodRisk.Risk
