import FloodRisk.Geocoding.Chain
import Mathlib.Data.List.TakeWhile
import Mathlib.Tactic.Linarith

/-!
# The precision of the chain's answer

When the best precision of the answer is at least as fine as that of the
candidates of low confidence that the search went on past.
-/

namespace FloodRisk.Geocoding

variable {isdecimal : Char → Bool} {providers : List GeocodeProvider} {request : GeocodeRequest}
  {candidates fallback : List PlaceCandidate} {rest : List (List PlaceCandidate)}

/-- The answer comes from one provider, is empty only without any answer, and is no coarser
than the candidates the search went on past. -/
structure NeverTradesDown (isdecimal : Char → Bool) (providers : List GeocodeProvider)
    (request : GeocodeRequest) : Prop where
  empty : geocode isdecimal providers request = [] → ∀ provider ∈ providers, provider request = []
  source : geocode isdecimal providers request = [] ∨ ∃ provider ∈ providers,
    geocode isdecimal providers request <+: provider request
  precision : ∀ earlier ∈ passed isdecimal providers request,
    bestPrecisionSortOrder (geocode isdecimal providers request) ≤ bestPrecisionSortOrder earlier

/-! ### The answers of the providers -/

/-- The answers that are not empty, cut at the limit. -/
def answers (providers : List GeocodeProvider) (request : GeocodeRequest) :
    List (List PlaceCandidate) :=
  providers.filterMap fun provider =>
    if (provider request).isEmpty then none else some ((provider request).take request.limit)

def hasExact (candidates : List PlaceCandidate) : Bool :=
  candidates.any fun candidate => candidate.precision = .exactAddress

/-- The search goes on past an answer after the remembered one. -/
def goesOn (fallback candidates : List PlaceCandidate) : Bool :=
  if isConfident candidates then
    bestPrecisionSortOrder fallback < bestPrecisionSortOrder candidates
  else hasRoad candidates

/-- The candidates of low confidence after the remembered ones. -/
def onTheWay (fallback : List PlaceCandidate) (rest : List (List PlaceCandidate)) :
    List (List PlaceCandidate) :=
  (rest.takeWhile (goesOn fallback)).filter fun candidates => !isConfident candidates

/-- The answer that ends the search. -/
def ending (fallback : List PlaceCandidate) (rest : List (List PlaceCandidate)) :
    Option (List PlaceCandidate) := (rest.dropWhile (goesOn fallback)).head?

theorem answers_nonempty {answer : List PlaceCandidate} (h : answer ∈ answers providers request) :
    answer ≠ [] := by
  obtain ⟨provider, -, hanswer⟩ := List.mem_filterMap.mp h
  split_ifs at hanswer with hempty
  cases hanswer
  intro hnil
  rcases List.take_eq_nil_iff.mp hnil with hzero | hnone
  · have hpos := request.limit_pos
    omega
  · exact hempty (List.isEmpty_iff.mpr hnone)

theorem prefix_of_mem_answers {answer : List PlaceCandidate}
    (h : answer ∈ answers providers request) :
    ∃ provider ∈ providers, answer <+: provider request := by
  obtain ⟨provider, hprovider, hanswer⟩ := List.mem_filterMap.mp h
  split_ifs at hanswer
  cases hanswer
  exact ⟨provider, hprovider, List.take_prefix _ _⟩

theorem answers_eq_nil_iff :
    answers providers request = [] ↔ ∀ provider ∈ providers, provider request = [] := by
  unfold answers
  rw [List.filterMap_eq_nil_iff]
  apply forall₂_congr
  intro provider _
  split_ifs with hempty
  · exact iff_of_true rfl (List.isEmpty_iff.mp hempty)
  · exact iff_of_false (by simp) (mt List.isEmpty_iff.mpr hempty)

/-- The loop after the first candidates of low confidence. -/
theorem geocodeFrom_fallback (hquery : containsNumberedAddress isdecimal request.query = false)
    (hfallback : fallback ≠ []) :
    geocodeFrom isdecimal request fallback providers =
        (ending fallback (answers providers request)).getD fallback ∧
      passedFrom isdecimal request fallback providers =
        onTheWay fallback (answers providers request) := by
  have hnonempty : fallback.isEmpty = false := by simpa using hfallback
  induction providers with
  | nil => exact ⟨rfl, rfl⟩
  | cons provider providers ih =>
    unfold geocodeFrom passedFrom
    by_cases hempty : (provider request).isEmpty = true
    · have hanswers : answers (provider :: providers) request = answers providers request :=
        List.filterMap_cons_none (if_pos hempty)
      simp only [hempty, if_true, hanswers]
      exact ih
    · have hanswers : answers (provider :: providers) request =
          (provider request).take request.limit :: answers providers request :=
        List.filterMap_cons_some (if_neg hempty)
      simp only [hempty, hanswers, hnonempty, shouldContinueAfterLowConfidence, hquery]
      cases hgoes : goesOn fallback ((provider request).take request.limit) with
      | true =>
        have hending : ending fallback ((provider request).take request.limit ::
            answers providers request) = ending fallback (answers providers request) := by
          simp [ending, hgoes]
        rw [hending]
        unfold goesOn at hgoes
        split_ifs at hgoes with hconfident
        · have hway : onTheWay fallback ((provider request).take request.limit ::
              answers providers request) = onTheWay fallback (answers providers request) := by
            simp [onTheWay, goesOn, hconfident, of_decide_eq_true hgoes]
          simpa [hconfident, of_decide_eq_true hgoes, hway] using ih
        · have hway : onTheWay fallback ((provider request).take request.limit ::
              answers providers request) = (provider request).take request.limit ::
                onTheWay fallback (answers providers request) := by
            simp [onTheWay, goesOn, hconfident, hgoes]
          simpa [hconfident, hgoes, hway] using ih
      | false =>
        have hending : ending fallback ((provider request).take request.limit ::
            answers providers request) = some ((provider request).take request.limit) := by
          simp [ending, hgoes]
        have hway : onTheWay fallback ((provider request).take request.limit ::
            answers providers request) = [] := by
          simp [onTheWay, hgoes]
        rw [hending, hway]
        unfold goesOn at hgoes
        split_ifs at hgoes with hconfident
        · have hnot := of_decide_eq_false hgoes
          simp [hconfident, hnot]
        · simp [hconfident, hgoes]

/-- The search with the first answer. -/
theorem search_cons {first : List PlaceCandidate}
    (hanswers : answers providers request = first :: rest) :
    (geocode isdecimal providers request =
        if isConfident first || !shouldContinueAfterLowConfidence isdecimal request first then first
        else (ending first rest).getD first) ∧
      passed isdecimal providers request =
        if isConfident first || !shouldContinueAfterLowConfidence isdecimal request first then []
        else first :: onTheWay first rest := by
  have hfirst := answers_nonempty (hanswers ▸ List.mem_cons_self)
  unfold geocode passed
  induction providers with
  | nil => cases hanswers
  | cons provider providers ih =>
    unfold geocodeFrom passedFrom
    by_cases hempty : (provider request).isEmpty = true
    · have hskip : answers (provider :: providers) request = answers providers request :=
        List.filterMap_cons_none (if_pos hempty)
      simp only [hempty, if_true]
      exact ih (hskip ▸ hanswers)
    · have hcons : answers (provider :: providers) request =
          (provider request).take request.limit :: answers providers request :=
        List.filterMap_cons_some (if_neg hempty)
      obtain ⟨htake, hrest⟩ := List.cons.inj (hcons.symm.trans hanswers)
      simp only [hempty, htake, Bool.false_eq_true, if_false, List.isEmpty_nil, Bool.not_true,
        Bool.false_and, if_true]
      cases hconfident : isConfident first with
      | true => exact ⟨rfl, rfl⟩
      | false =>
        cases hcontinue : shouldContinueAfterLowConfidence isdecimal request first with
        | false => exact ⟨rfl, rfl⟩
        | true =>
          have hquery : containsNumberedAddress isdecimal request.query = false := by
            unfold shouldContinueAfterLowConfidence at hcontinue
            split_ifs at hcontinue with hnumbered
            simpa using hnumbered
          have hloop := @geocodeFrom_fallback isdecimal providers request first hquery hfirst
          obtain ⟨hresult, hpassed⟩ := hloop
          rw [hrest] at hresult hpassed
          exact ⟨hresult, congrArg (first :: ·) hpassed⟩

/-! ### Best precisions -/

theorem bestPrecisionSortOrder_le {candidate : PlaceCandidate} (h : candidate ∈ candidates) :
    bestPrecisionSortOrder candidates ≤ precisionSortOrder candidate.precision := by
  unfold bestPrecisionSortOrder
  have hmem : precisionSortOrder candidate.precision ∈
      candidates.map fun candidate => precisionSortOrder candidate.precision :=
    List.mem_map_of_mem h
  cases hmin : (candidates.map fun candidate => precisionSortOrder candidate.precision).min? with
  | none =>
    rw [List.min?_eq_none_iff] at hmin
    rw [hmin] at hmem
    cases hmem
  | some best => exact (List.min?_eq_some_iff.mp hmin).2 _ hmem

theorem exists_bestPrecision (h : candidates ≠ []) :
    ∃ candidate ∈ candidates,
      precisionSortOrder candidate.precision = bestPrecisionSortOrder candidates := by
  unfold bestPrecisionSortOrder
  cases hmin : (candidates.map fun candidate => precisionSortOrder candidate.precision).min? with
  | none =>
    rw [List.min?_eq_none_iff, List.map_eq_nil_iff] at hmin
    exact absurd hmin h
  | some best =>
    obtain ⟨candidate, hcandidate, hbest⟩ :=
      List.mem_map.mp (List.min?_eq_some_iff.mp hmin).1
    exact ⟨candidate, hcandidate, hbest⟩

theorem bestPrecision_eq_zero_iff (h : candidates ≠ []) :
    bestPrecisionSortOrder candidates = 0 ↔ hasExact candidates = true := by
  unfold hasExact
  rw [List.any_eq_true]
  constructor
  · intro hzero
    obtain ⟨candidate, hcandidate, hbest⟩ := exists_bestPrecision h
    refine ⟨candidate, hcandidate, ?_⟩
    rw [hzero] at hbest
    cases hprecision : candidate.precision <;> rw [hprecision] at hbest <;> simp_all [precisionSortOrder]
  · rintro ⟨candidate, hcandidate, hexact⟩
    have hle := bestPrecisionSortOrder_le hcandidate
    rw [of_decide_eq_true hexact] at hle
    exact Nat.le_zero.mp hle

theorem bestPrecision_le_one (h : hasRoad candidates = true) :
    bestPrecisionSortOrder candidates ≤ 1 := by
  obtain ⟨candidate, hcandidate, hroad⟩ := List.any_eq_true.mp h
  have hle := bestPrecisionSortOrder_le hcandidate
  rwa [of_decide_eq_true hroad] at hle

/-- Without a road the best precision is that of an address, or coarser than a road. -/
theorem bestPrecision_ne_one (h : hasRoad candidates = false) :
    bestPrecisionSortOrder candidates ≠ 1 := by
  intro hone
  have hne : candidates ≠ [] := by
    rintro rfl
    exact absurd hone (by decide)
  obtain ⟨candidate, hcandidate, hbest⟩ := exists_bestPrecision hne
  rw [hone] at hbest
  have hroad := List.any_eq_false.mp h candidate hcandidate
  cases hprecision : candidate.precision <;> rw [hprecision] at hbest hroad <;>
    simp_all [precisionSortOrder]

/-! ### When the answer is fine enough -/

/-- The answer that ends the search, or the remembered one, is exact where it has to be. -/
def EndsExact (fallback : List PlaceCandidate) (rest : List (List PlaceCandidate)) : Prop :=
  match ending fallback rest with
  | some answer =>
      if isConfident answer then
        hasExact answer = true ∨ ∀ earlier ∈ onTheWay fallback rest, hasExact earlier = false
      else hasExact answer = true
  | none => hasExact fallback = true ∨ ∀ earlier ∈ onTheWay fallback rest, hasExact earlier = false

/-- The answers with which the chain does not trade precision down. -/
def AnswersInOrder (isdecimal : Char → Bool) (providers : List GeocodeProvider)
    (request : GeocodeRequest) : Prop :=
  match answers providers request with
  | [] => True
  | first :: rest =>
      isConfident first = true ∨ hasRoad first = false ∨
        containsNumberedAddress isdecimal request.query = true ∨ EndsExact first rest

theorem goesOn_of_onTheWay {earlier : List PlaceCandidate} (h : earlier ∈ onTheWay fallback rest) :
    earlier ∈ rest ∧ hasRoad earlier = true := by
  obtain ⟨htaken, hlow⟩ := List.mem_filter.mp h
  have hgoes := List.mem_takeWhile_imp htaken
  have hlow' : isConfident earlier = false := by simpa using hlow
  unfold goesOn at hgoes
  rw [hlow'] at hgoes
  exact ⟨List.takeWhile_subset _ htaken, hgoes⟩

theorem ending_stops {answer : List PlaceCandidate} (h : ending fallback rest = some answer) :
    answer ∈ rest ∧ goesOn fallback answer = false := by
  have hstops := List.head?_dropWhile_not (goesOn fallback) rest
  unfold ending at h
  rw [h] at hstops
  refine ⟨(List.dropWhile_suffix _).subset (List.mem_of_mem_head? h), by simpa using hstops⟩

theorem endsExact_iff (hfallback : fallback ≠ []) (hroad : hasRoad fallback = true)
    (hrest : ∀ answer ∈ rest, answer ≠ []) :
    (∀ earlier ∈ fallback :: onTheWay fallback rest,
      bestPrecisionSortOrder ((ending fallback rest).getD fallback) ≤
        bestPrecisionSortOrder earlier) ↔ EndsExact fallback rest := by
  have hone := bestPrecision_le_one hroad
  have hway : ∀ earlier ∈ onTheWay fallback rest, bestPrecisionSortOrder earlier =
      if hasExact earlier then 0 else 1 := by
    intro earlier hearlier
    obtain ⟨hmem, hroad'⟩ := goesOn_of_onTheWay hearlier
    have hle := bestPrecision_le_one hroad'
    have hzero := bestPrecision_eq_zero_iff (hrest earlier hmem)
    split_ifs with hexact
    · exact hzero.mpr hexact
    · have hne := mt hzero.mp hexact
      omega
  unfold EndsExact
  rw [List.forall_mem_cons]
  cases hending : ending fallback rest with
  | none =>
    have hzero := bestPrecision_eq_zero_iff hfallback
    simp only [Option.getD_none, le_refl, true_and]
    constructor
    · intro h
      by_cases hexact : hasExact fallback = true
      · exact Or.inl hexact
      · right
        intro earlier hearlier
        have hle := h earlier hearlier
        rw [hway earlier hearlier] at hle
        have hne := mt hzero.mp hexact
        cases hfound : hasExact earlier with
        | false => rfl
        | true =>
          rw [hfound] at hle
          exact absurd (Nat.le_zero.mp hle) hne
    · rintro (hexact | hnone) earlier hearlier
      · rw [hzero.mpr hexact]
        exact Nat.zero_le _
      · rw [hway earlier hearlier, hnone earlier hearlier]
        exact hone
  | some answer =>
    obtain ⟨hmem, hstops⟩ := ending_stops hending
    have hzero := bestPrecision_eq_zero_iff (hrest answer hmem)
    simp only [Option.getD_some]
    unfold goesOn at hstops
    cases hconfident : isConfident answer with
    | true =>
      rw [hconfident] at hstops
      have hle : bestPrecisionSortOrder answer ≤ bestPrecisionSortOrder fallback := by
        simpa using hstops
      simp only [if_true, hle, true_and]
      constructor
      · intro h
        by_cases hexact : hasExact answer = true
        · exact Or.inl hexact
        · right
          intro earlier hearlier
          have hearlierLe := h earlier hearlier
          rw [hway earlier hearlier] at hearlierLe
          have hne := mt hzero.mp hexact
          cases hfound : hasExact earlier with
          | false => rfl
          | true =>
            rw [hfound] at hearlierLe
            exact absurd (Nat.le_zero.mp hearlierLe) hne
      · rintro (hexact | hnone) earlier hearlier
        · rw [hzero.mpr hexact]
          exact Nat.zero_le _
        · rw [hway earlier hearlier, hnone earlier hearlier]
          exact hle.trans hone
    | false =>
      rw [hconfident] at hstops
      have hroadless : hasRoad answer = false := by simpa using hstops
      have hne := bestPrecision_ne_one hroadless
      simp only [Bool.false_eq_true, if_false]
      constructor
      · intro h
        have hle := h.1.trans hone
        exact hzero.mp (by omega)
      · intro hexact
        rw [hzero.mpr hexact]
        exact ⟨Nat.zero_le _, fun _ _ => Nat.zero_le _⟩

/-! ### The chain -/

theorem search_nil (hanswers : answers providers request = []) :
    geocode isdecimal providers request = [] ∧ passed isdecimal providers request = [] := by
  have hsilent := answers_eq_nil_iff.mp hanswers
  unfold geocode passed
  clear hanswers
  induction providers with
  | nil => exact ⟨rfl, rfl⟩
  | cons provider providers ih =>
    have hempty := hsilent provider List.mem_cons_self
    unfold geocodeFrom passedFrom
    simp only [hempty, List.isEmpty_nil, if_true]
    exact ih fun other hother => hsilent other (List.mem_cons_of_mem _ hother)

theorem geocode_mem_answers (hanswers : answers providers request ≠ []) :
    geocode isdecimal providers request ∈ answers providers request := by
  cases hcons : answers providers request with
  | nil => exact absurd hcons hanswers
  | cons first rest =>
    rw [(search_cons hcons).1]
    split_ifs
    · exact List.mem_cons_self
    · cases hending : ending first rest with
      | none => exact List.mem_cons_self
      | some answer => exact List.mem_cons_of_mem _ (ending_stops hending).1

theorem passed_no_finer_iff :
    (∀ earlier ∈ passed isdecimal providers request,
      bestPrecisionSortOrder (geocode isdecimal providers request) ≤
        bestPrecisionSortOrder earlier) ↔ AnswersInOrder isdecimal providers request := by
  unfold AnswersInOrder
  cases hcons : answers providers request with
  | nil =>
    rw [(search_nil hcons).2]
    exact iff_of_true (fun _ h => absurd h List.not_mem_nil) trivial
  | cons first rest =>
    obtain ⟨hresult, hpassed⟩ := @search_cons isdecimal _ _ _ _ hcons
    rw [hresult, hpassed]
    have hnonempty : ∀ answer ∈ first :: rest, answer ≠ [] := by
      intro answer hanswer
      exact answers_nonempty (hcons ▸ hanswer)
    unfold shouldContinueAfterLowConfidence
    cases hconfident : isConfident first with
    | true => simp [hconfident]
    | false =>
      cases hnumbered : containsNumberedAddress isdecimal request.query with
      | true => simp
      | false =>
        cases hroad : hasRoad first with
        | false => simp [hroad]
        | true =>
          have hends := endsExact_iff (hnonempty first List.mem_cons_self) hroad
            fun answer hanswer => hnonempty answer (List.mem_cons_of_mem _ hanswer)
          simpa [hconfident, hroad] using hends

/-- The chain keeps the precision exactly when its answers come in order. -/
theorem neverTradesDown_iff_answersInOrder (isdecimal : Char → Bool)
    (providers : List GeocodeProvider) (request : GeocodeRequest) :
    NeverTradesDown isdecimal providers request ↔ AnswersInOrder isdecimal providers request := by
  rw [← passed_no_finer_iff]
  constructor
  · exact fun h => h.precision
  · intro hprecision
    by_cases hanswers : answers providers request = []
    · have hnil := (@search_nil isdecimal _ _ hanswers).1
      exact ⟨fun _ => answers_eq_nil_iff.mp hanswers, Or.inl hnil, hprecision⟩
    · have hmem := @geocode_mem_answers isdecimal _ _ hanswers
      refine ⟨?_, Or.inr (prefix_of_mem_answers hmem), hprecision⟩
      intro hempty
      exact absurd hempty (answers_nonempty hmem)

/-- A road of low confidence, and after it a district of low confidence. -/
def roadThenDistrict : List GeocodeProvider :=
  [fun _ => [⟨"road", 63 / 100, .roadOrLane⟩], fun _ => [⟨"district", 1 / 2, .adminArea⟩]]

def roadRequest : GeocodeRequest := ⟨"台南市安南區培安路", 1, le_refl 1⟩

theorem roadThenDistrict_trades_down :
    ¬ NeverTradesDown Char.isDigit roadThenDistrict roadRequest := by
  intro h
  have hroad : [⟨"road", 63 / 100, .roadOrLane⟩] ∈
      passed Char.isDigit roadThenDistrict roadRequest := by decide +kernel
  have hle := h.precision _ hroad
  revert hle
  decide +kernel

end FloodRisk.Geocoding
