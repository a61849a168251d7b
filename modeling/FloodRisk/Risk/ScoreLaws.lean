import FloodRisk.Assessment.Safety
import FloodRisk.Risk.Totals

/-!
# Laws of the scores

`score_risk` reads its signals as a multiset.  One more signal never lowers the
realtime score, and one more station of a correlated event that reports what
another one reports does not raise it.
-/

namespace FloodRisk.Risk
open Assessment CappedTotals Promotion

/-! ### The order of the signals -/

theorem eq_nil_iff_of_perm {α : Type*} {l other : List α} (h : l.Perm other) :
    l = [] ↔ other = [] := by
  rw [← List.length_eq_zero_iff, h.length_eq, List.length_eq_zero_iff]

section Order

variable {signals others : List RiskEvidenceSignal} (h : signals.Perm others)
include h

theorem hasObservedHistory_perm (weights : WeightTable) (recency : Option Recency) :
    hasObservedHistory signals weights recency = hasObservedHistory others weights recency :=
  h.any_eq

theorem hasWeightedEvidence_perm (weights : WeightTable) (recency : Option Recency) :
    hasWeightedEvidence signals weights recency = hasWeightedEvidence others weights recency :=
  h.any_eq

theorem contributions_perm (weights : WeightTable) (recency : Option Recency)
    (eventType : EventType) :
    (contributions signals weights recency eventType).Perm
      (contributions others weights recency eventType) :=
  ((h.filter _).filter _).map _

theorem weightedScore_perm (weights : WeightTable) (recency : Option Recency) :
    weightedScore signals weights recency = weightedScore others weights recency := by
  have htotals : totalsByEvent signals weights recency = totalsByEvent others weights recency := by
    funext eventType
    have hvalues := contributions_perm h weights recency eventType
    have huncapped : uncappedTotal eventType (contributions signals weights recency eventType) =
        uncappedTotal eventType (contributions others weights recency eventType) := by
      unfold uncappedTotal
      rw [foldl_max_perm hvalues 0, hvalues.sum_eq]
    rw [totalsByEvent_eq, totalsByEvent_eq, hasObservedHistory_perm h]
    unfold cappedTotal
    rw [huncapped]
  rw [weightedScore_eq_totals, weightedScore_eq_totals, htotals]

theorem applyAdminAreaOnlyHistoricalCap_perm (historicalScore : ℚ) :
    applyAdminAreaOnlyHistoricalCap signals historicalScore =
      applyAdminAreaOnlyHistoricalCap others historicalScore := by
  have heligible := h.filter fun signal => isWeightedSignalEligible signal .historical none
  simp only [applyAdminAreaOnlyHistoricalCap, heligible.all_eq, ne_eq, eq_nil_iff_of_perm heligible]

theorem confidenceScore_perm : confidenceScore signals = confidenceScore others := by
  have hweighted := (h.map fun signal => clamp signal.confidence * max signal.sourceWeight 0).sum_eq
  have htotal := (h.map fun signal => max signal.sourceWeight 0).sum_eq
  simp only [confidenceScore, hweighted, htotal, h.any_eq, eq_nil_iff_of_perm h]

theorem missingSources_perm (now : ℤ) : missingSources signals now = missingSources others now := by
  have husable := h.filter fun signal =>
    isWeightedSignalEligible signal .realtime (some (realtimeRecency now))
  simp only [missingSources, husable.any_eq]

theorem mainReasons_perm (realtimeLevel historicalLevel : RiskLevel) (now : ℤ) :
    mainReasons signals realtimeLevel historicalLevel now =
      mainReasons others realtimeLevel historicalLevel now := by
  have hmain : realtimeMainReason signals now = realtimeMainReason others now := by
    simp only [realtimeMainReason, h.any_eq]
  simp only [mainReasons, hmain, h.countP_eq, eq_nil_iff_of_perm h]

end Order

/-- `score_risk` does not depend on the order of its signals. -/
theorem score_order_independent {signals others : List RiskEvidenceSignal} (h : signals.Perm others)
    (now : ℤ) : scoreRisk signals now = scoreRisk others now := by
  unfold scoreRisk
  simp only [weightedScore_perm h, applyAdminAreaOnlyHistoricalCap_perm h, confidenceScore_perm h,
    missingSources_perm h, hasWeightedEvidence_perm h, mainReasons_perm h, ne_eq, eq_nil_iff_of_perm h]

def rainfallStation : RiskEvidenceSignal where
  sourceType := .official
  eventType := .rainfall
  confidence := 9 / 10
  distanceToQueryM := some 80
  freshnessScore := 1
  sourceWeight := 1
  observedAt := some 0
  evidenceScope := .current

def citedReport : RiskEvidenceSignal where
  sourceType := .news
  eventType := .floodReport
  confidence := 6 / 10
  distanceToQueryM := some 1500
  freshnessScore := 8 / 10
  sourceWeight := 85 / 100
  evidenceScope := .historical

theorem score_of_swapped_signals :
    scoreRisk [rainfallStation, citedReport] 0 = scoreRisk [citedReport, rainfallStation] 0 :=
  score_order_independent (List.Perm.swap citedReport rainfallStation []) 0

/-! ### One more signal -/

section Cons

variable (added : RiskEvidenceSignal) (signals : List RiskEvidenceSignal) (weights : WeightTable)
  (recency : Option Recency)

theorem contributions_cons_of (eventType : EventType)
    (h : isWeightedSignalEligible added weights recency = true) (htype : added.eventType = eventType) :
    contributions (added :: signals) weights recency eventType =
      scoreContribution added weights :: contributions signals weights recency eventType := by
  unfold contributions
  rw [List.filter_cons, if_pos h, List.filter_cons, if_pos (decide_eq_true htype), List.map_cons]

theorem contributions_cons_of_not (eventType : EventType)
    (h : ¬ (isWeightedSignalEligible added weights recency = true ∧ added.eventType = eventType)) :
    contributions (added :: signals) weights recency eventType =
      contributions signals weights recency eventType := by
  unfold contributions
  by_cases heligible : isWeightedSignalEligible added weights recency = true
  · have htype : ¬ added.eventType = eventType := fun heq => h ⟨heligible, heq⟩
    rw [List.filter_cons, if_pos heligible, List.filter_cons, if_neg (by simp [htype])]
  · rw [List.filter_cons, if_neg heligible]

end Cons

theorem uncappedTotal_nonneg (eventType : EventType) {values : List ℚ}
    (h : ∀ value ∈ values, 0 ≤ value) : 0 ≤ uncappedTotal eventType values := by
  unfold uncappedTotal
  split
  · exact le_foldl_max values 0
  · exact List.sum_nonneg h

theorem uncappedTotal_le_cons (eventType : EventType) {value : ℚ} (h : 0 ≤ value)
    (values : List ℚ) : uncappedTotal eventType values ≤ uncappedTotal eventType (value :: values) := by
  unfold uncappedTotal
  split
  · exact foldl_max_mono values (le_max_left 0 value)
  · rw [List.sum_cons]
    exact le_add_of_nonneg_left h

theorem cappedTotal_mono {eventType : EventType} {values others : List ℚ} (observed : Bool)
    (h : uncappedTotal eventType values ≤ uncappedTotal eventType others) :
    cappedTotal eventType observed values ≤ cappedTotal eventType observed others := by
  unfold cappedTotal
  cases eventScoreCap eventType observed with
  | none => exact h
  | some cap => exact min_le_min_right cap h

theorem cappedTotal_nonneg (eventType : EventType) (observed : Bool) {values : List ℚ}
    (h : ∀ value ∈ values, 0 ≤ value) : 0 ≤ cappedTotal eventType observed values := by
  unfold cappedTotal
  cases hcap : eventScoreCap eventType observed with
  | none => exact uncappedTotal_nonneg eventType h
  | some cap => exact le_min (uncappedTotal_nonneg eventType h) (eventScoreCap_nonneg hcap)

theorem cappedTotal_le_cons (added : RiskEvidenceSignal) (signals : List RiskEvidenceSignal)
    (weights : WeightTable) (recency : Option Recency) (observed : Bool) (eventType : EventType) :
    cappedTotal eventType observed (contributions signals weights recency eventType) ≤
      cappedTotal eventType observed (contributions (added :: signals) weights recency eventType) := by
  by_cases h : isWeightedSignalEligible added weights recency = true ∧ added.eventType = eventType
  · rw [contributions_cons_of added signals weights recency eventType h.1 h.2]
    exact cappedTotal_mono observed
      (uncappedTotal_le_cons eventType (scoreContribution_nonneg added weights) _)
  · rw [contributions_cons_of_not added signals weights recency eventType h]

/-! ### Realtime -/

/-- The switch of the observed history is about an event without realtime weight. -/
theorem totalsByEvent_realtime (signals : List RiskEvidenceSignal) (recency : Option Recency)
    (eventType : EventType) :
    totalsByEvent signals .realtime recency eventType =
      cappedTotal eventType false (contributions signals .realtime recency eventType) := by
  rw [totalsByEvent_eq]
  by_cases hpotential : eventType = .floodPotential
  · have hnone : contributions signals .realtime recency eventType = [] := by
      rw [List.eq_nil_iff_forall_not_mem]
      intro value hvalue
      obtain ⟨signal, -, heligible, htype, -⟩ := mem_contributions hvalue
      have hweight : weight .realtime signal.eventType ≤ 0 := by
        rw [htype, hpotential]
        simp [weight]
      rw [isWeightedSignalEligible, if_pos hweight] at heligible
      exact absurd heligible (by simp)
    rw [hnone]
    cases hasObservedHistory signals .realtime recency with
    | false => rfl
    | true =>
      rw [hpotential]
      norm_num [cappedTotal, uncappedTotal, eventScoreCap, eventScoreCaps, isCorrelatedRealtime,
        floodPotentialContextCapWithObservedHistory]
  · unfold cappedTotal eventScoreCap
    simp [hpotential]

theorem weightedScore_realtime_le_cons (added : RiskEvidenceSignal)
    (signals : List RiskEvidenceSignal) (recency : Option Recency) :
    weightedScore signals .realtime recency ≤ weightedScore (added :: signals) .realtime recency := by
  rw [weightedScore_eq_totals, weightedScore_eq_totals]
  refine min_le_min_right 100 (List.sum_le_sum fun eventType _ => ?_)
  rw [totalsByEvent_realtime, totalsByEvent_realtime]
  exact cappedTotal_le_cons added signals .realtime recency false eventType

/-- A copy of a correlated signal brings the largest contribution no higher. -/
theorem weightedScore_realtime_copy {added : RiskEvidenceSignal} {signals : List RiskEvidenceSignal}
    (hmem : added ∈ signals) (hcorrelated : isCorrelatedRealtime added.eventType = true)
    (recency : Option Recency) :
    weightedScore (added :: signals) .realtime recency = weightedScore signals .realtime recency := by
  have htotals : totalsByEvent (added :: signals) .realtime recency =
      totalsByEvent signals .realtime recency := by
    funext eventType
    rw [totalsByEvent_realtime, totalsByEvent_realtime]
    by_cases h : isWeightedSignalEligible added .realtime recency = true ∧
        added.eventType = eventType
    · rw [contributions_cons_of added signals .realtime recency eventType h.1 h.2]
      have hvalue : scoreContribution added .realtime ∈
          contributions signals .realtime recency eventType :=
        List.mem_map_of_mem (List.mem_filter.mpr
          ⟨List.mem_filter.mpr ⟨hmem, h.1⟩, decide_eq_true h.2⟩)
      rw [← h.2] at hvalue ⊢
      simp only [cappedTotal, uncappedTotal, hcorrelated, if_true, foldl_max_cons_of_mem hvalue]
    · rw [contributions_cons_of_not added signals .realtime recency eventType h]
  rw [weightedScore_eq_totals, weightedScore_eq_totals, htotals]

theorem hasWeightedEvidence_cons (added : RiskEvidenceSignal) (signals : List RiskEvidenceSignal)
    (weights : WeightTable) (recency : Option Recency) :
    hasWeightedEvidence (added :: signals) weights recency =
      (isWeightedSignalEligible added weights recency ||
        hasWeightedEvidence signals weights recency) := List.any_cons

theorem riskLevelRank_mono {score other : ℚ} (h : score ≤ other) {evidence more : Bool}
    (hevidence : evidence = true → more = true) :
    riskLevelRank (riskLevel score evidence) ≤ riskLevelRank (riskLevel other more) := by
  cases evidence with
  | false => exact Nat.zero_le _
  | true =>
    rw [hevidence rfl]
    simp only [riskLevel, Bool.not_true, Bool.false_eq_true, if_false, ge_iff_le]
    by_cases hextreme : 85 ≤ score
    · rw [if_pos hextreme, if_pos (hextreme.trans h)]
    · rw [if_neg hextreme]
      by_cases hhigh : 55 ≤ score
      · rw [if_pos hhigh, if_pos (hhigh.trans h)]
        split <;> simp [riskLevelRank]
      · rw [if_neg hhigh]
        by_cases hmedium : 25 ≤ score
        · rw [if_pos hmedium, if_pos (hmedium.trans h)]
          split
          · simp [riskLevelRank]
          · split <;> simp [riskLevelRank]
        · rw [if_neg hmedium]
          split
          · simp [riskLevelRank]
          · split
            · simp [riskLevelRank]
            · split <;> simp [riskLevelRank]

/-! ### Bounds -/

theorem round3_mono {score other : ℚ} (h : score ≤ other) : round3 score ≤ round3 other := by
  unfold round3
  have hround : roundHalfEven (score * 1000) ≤ roundHalfEven (other * 1000) :=
    roundHalfEven_mono (mul_le_mul_of_nonneg_right h (by norm_num))
  have hcast : ((roundHalfEven (score * 1000) : ℤ) : ℚ) ≤ (roundHalfEven (other * 1000) : ℤ) := by
    exact_mod_cast hround
  exact div_le_div_of_nonneg_right hcast (by norm_num)

theorem round3_mem_Icc {score : ℚ} (h : score ∈ Set.Icc 0 100) : round3 score ∈ Set.Icc 0 100 := by
  have hzero : round3 0 = 0 := by decide +kernel
  have hhundred : round3 100 = 100 := by decide +kernel
  exact ⟨hzero ▸ round3_mono h.1, hhundred ▸ round3_mono h.2⟩

theorem weightedScore_mem_Icc (signals : List RiskEvidenceSignal) (weights : WeightTable)
    (recency : Option Recency) : weightedScore signals weights recency ∈ Set.Icc 0 100 := by
  rw [weightedScore_eq_totals]
  refine ⟨le_min (List.sum_nonneg ?_) (by norm_num), min_le_right _ _⟩
  intro total htotal
  obtain ⟨eventType, -, heq⟩ := List.mem_map.mp htotal
  rw [← heq, totalsByEvent_eq]
  exact cappedTotal_nonneg eventType _ contributions_nonneg

theorem applyAdminAreaOnlyHistoricalCap_mem_Icc (signals : List RiskEvidenceSignal) {score : ℚ}
    (h : score ∈ Set.Icc 0 100) :
    applyAdminAreaOnlyHistoricalCap signals score ∈ Set.Icc 0 100 := by
  unfold applyAdminAreaOnlyHistoricalCap
  simp only
  split
  · exact ⟨le_min h.1 (by norm_num [adminAreaOnlyHistoricalCap]), (min_le_left _ _).trans h.2⟩
  · exact h

theorem confidenceScore_mem_Icc (signals : List RiskEvidenceSignal) :
    confidenceScore signals ∈ Set.Icc 0 1 := by
  have hweighted : 0 ≤
      (signals.map fun signal => clamp signal.confidence * max signal.sourceWeight 0).sum := by
    refine List.sum_nonneg fun value hvalue => ?_
    obtain ⟨signal, -, heq⟩ := List.mem_map.mp hvalue
    rw [← heq]
    exact mul_nonneg (clamp_nonneg _) (le_max_right _ _)
  have htotal : 0 ≤ (signals.map fun signal => max signal.sourceWeight 0).sum := by
    refine List.sum_nonneg fun value hvalue => ?_
    obtain ⟨signal, -, heq⟩ := List.mem_map.mp hvalue
    rw [← heq]
    exact le_max_right _ _
  unfold confidenceScore
  split
  · exact ⟨le_refl _, by norm_num⟩
  · simp only
    split
    · exact ⟨le_refl _, by norm_num⟩
    · have hmean := div_nonneg hweighted htotal
      refine ⟨le_min (add_nonneg hmean ?_) (by norm_num), min_le_right _ _⟩
      split <;> norm_num

theorem cappedConfidence_mem_Icc {score : ℚ} (h : score ∈ Set.Icc 0 1) :
    (if score > 74 / 100 then 74 / 100 else score) ∈ Set.Icc (0 : ℚ) 1 := by
  split
  · exact ⟨by norm_num, by norm_num⟩
  · exact h

theorem scoreRisk_confidence_mem_Icc (signals : List RiskEvidenceSignal) (now : ℤ) :
    (scoreRisk signals now).confidenceScore ∈ Set.Icc 0 100 := by
  have hscore := confidenceScore_mem_Icc signals
  have hmissing : (if missingSources signals now ≠ [] then
      (if confidenceScore signals > 74 / 100 then 74 / 100 else confidenceScore signals)
      else confidenceScore signals) ∈ Set.Icc (0 : ℚ) 1 := by
    split
    · exact cappedConfidence_mem_Icc hscore
    · exact hscore
  refine round3_mem_Icc ?_
  split
  · have hcapped := cappedConfidence_mem_Icc hmissing
    exact ⟨hcapped.1, hcapped.2.trans (by norm_num)⟩
  · exact ⟨hmissing.1, hmissing.2.trans (by norm_num)⟩

/-! ### The laws -/

/-- One more signal lowers neither realtime score nor level, a further copy of a
correlated one changes neither, a correlated event stays within its weight and
every score lies between 0 and 100. -/
theorem realtime_score_laws (now : ℤ) :
    (∀ before after added,
      (scoreRisk (before ++ after) now).realtimeScore ≤
          (scoreRisk (before ++ added :: after) now).realtimeScore ∧
        riskLevelRank (scoreRisk (before ++ after) now).realtimeLevel ≤
          riskLevelRank (scoreRisk (before ++ added :: after) now).realtimeLevel) ∧
    (∀ before after, ∀ added ∈ before ++ after, isCorrelatedRealtime added.eventType = true →
      (scoreRisk (before ++ added :: after) now).realtimeScore =
          (scoreRisk (before ++ after) now).realtimeScore ∧
        (scoreRisk (before ++ added :: after) now).realtimeLevel =
          (scoreRisk (before ++ after) now).realtimeLevel) ∧
    (∀ signals eventType, isCorrelatedRealtime eventType = true →
      totalsByEvent signals .realtime (some (realtimeRecency now)) eventType ∈
        Set.Icc 0 (weight .realtime eventType)) ∧
    ∀ signals, (scoreRisk signals now).realtimeScore ∈ Set.Icc 0 100 ∧
      (scoreRisk signals now).historicalScore ∈ Set.Icc 0 100 ∧
      (scoreRisk signals now).confidenceScore ∈ Set.Icc 0 100 := by
  refine ⟨?_, ?_, ?_, ?_⟩
  · intro before after added
    have hperm : (before ++ added :: after).Perm (added :: (before ++ after)) := List.perm_middle
    have hscore : weightedScore (before ++ after) .realtime (some (realtimeRecency now)) ≤
        weightedScore (before ++ added :: after) .realtime (some (realtimeRecency now)) := by
      rw [weightedScore_perm hperm]
      exact weightedScore_realtime_le_cons added _ _
    refine ⟨round3_mono hscore, riskLevelRank_mono hscore fun hevidence => ?_⟩
    rw [hasWeightedEvidence_perm hperm, hasWeightedEvidence_cons, hevidence, Bool.or_true]
  · intro before after added hmem hcorrelated
    have hperm : (before ++ added :: after).Perm (added :: (before ++ after)) := List.perm_middle
    have hscore : weightedScore (before ++ added :: after) .realtime (some (realtimeRecency now)) =
        weightedScore (before ++ after) .realtime (some (realtimeRecency now)) := by
      rw [weightedScore_perm hperm]
      exact weightedScore_realtime_copy hmem hcorrelated _
    have hevidence : hasWeightedEvidence (before ++ added :: after) .realtime
          (some (realtimeRecency now)) =
        hasWeightedEvidence (before ++ after) .realtime (some (realtimeRecency now)) := by
      rw [hasWeightedEvidence_perm hperm, hasWeightedEvidence_cons]
      cases heligible : isWeightedSignalEligible added .realtime (some (realtimeRecency now)) with
      | false => exact Bool.false_or _
      | true =>
        rw [Bool.true_or]
        exact (List.any_eq_true.mpr ⟨added, hmem, heligible⟩).symm
    exact ⟨congrArg round3 hscore, congrArg₂ riskLevel hscore hevidence⟩
  · intro signals eventType hcorrelated
    rw [totalsByEvent_realtime]
    refine ⟨cappedTotal_nonneg eventType false contributions_nonneg, ?_⟩
    have hcap : eventScoreCap eventType false = some (weight .realtime eventType) := by
      cases eventType <;> simp [isCorrelatedRealtime] at hcorrelated <;> rfl
    rw [cappedTotal, hcap]
    exact min_le_right (uncappedTotal eventType _) (weight .realtime eventType)
  · intro signals
    exact ⟨round3_mem_Icc (weightedScore_mem_Icc signals .realtime _),
      round3_mem_Icc (applyAdminAreaOnlyHistoricalCap_mem_Icc signals
        (weightedScore_mem_Icc signals .historical none)),
      scoreRisk_confidence_mem_Icc signals now⟩

end FloodRisk.Risk
