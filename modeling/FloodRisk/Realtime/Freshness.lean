import FloodRisk.Assessment.ObservationReads
import FloodRisk.Realtime.SourceHealth

/-!
# Freshness thresholds of the two public surfaces

`freshnessThresholdSeconds` is `_freshness_threshold_seconds` of api
domain/ingestion/readiness.py, `freshSeconds` the lateral query of api
domain/evidence/repository.py.  Both read the catalogue text of
`metadata.freshness_threshold_seconds`.
-/

namespace FloodRisk.Realtime
open Assessment

def defaultFreshnessThresholdSeconds : ℕ := 1800

def maxFreshnessThresholdSeconds : ℕ := 86400

def upstreamStaleThresholdMultiplier : ℕ := 3

/-- `btrim(COALESCE(metadata->>'freshness_threshold_seconds', ''))`. -/
def thresholdText (metadata : Option String) : String := btrim (metadata.getD "")

/-! ### `_freshness_threshold_lateral_sql` -/

/-- `normalized.threshold_text ~ '^[0-9]{1,5}$'`. -/
def thresholdCandidate (text : String) : Option ℕ :=
  if 1 ≤ text.toList.length ∧ text.toList.length ≤ 5 ∧ text.toList.all isAsciiDigit = true then
    some (digitsValue text.toList)
  else none

def freshSeconds (metadata : Option String) : ℕ :=
  match thresholdCandidate (thresholdText metadata) with
  | some candidate =>
      if 1 ≤ candidate ∧ candidate ≤ maxFreshnessThresholdSeconds then candidate
      else defaultFreshnessThresholdSeconds
  | none => defaultFreshnessThresholdSeconds

/-! ### `_freshness_threshold_seconds` -/

/-- `raw.isascii() and raw.isdigit()`. -/
def isDigitRun (raw : String) : Bool := raw.toList ≠ [] && raw.toList.all isAsciiDigit

def maxStrDigits : ℕ := 4300

/-- `int` of a digit run; it raises beyond the interpreter's digit limit. -/
def intOfDigits (raw : String) : Option ℕ :=
  if raw.toList.length ≤ maxStrDigits then some (digitsValue raw.toList) else none

/-- The threshold, or nothing where `int` raises. -/
def freshnessThresholdSeconds (column : String) : Option ℕ :=
  let raw := strip column
  if isDigitRun raw then
    (intOfDigits raw).map fun thresholdSeconds =>
      if 0 < thresholdSeconds then min thresholdSeconds maxFreshnessThresholdSeconds
      else defaultFreshnessThresholdSeconds
  else some defaultFreshnessThresholdSeconds

/-! ### `_upstream_stale` -/

/-- What `_upstream_stale` reads of a source. -/
structure SourceReadinessRow where
  adapterKey : String
  coverageKind : String
  latestObservedAt : Option ℤ
  freshnessThresholdSeconds : String

def upstreamStaleExemptAdapterKeys : List String :=
  ["official.ncdr.cap", "official.cwa.heavy_rain_warning"]

def upstreamStaleExemptCoverageKinds : List String := ["nationwide_history"]

def isUpstreamStaleExempt (row : SourceReadinessRow) : Bool :=
  row.adapterKey ∈ upstreamStaleExemptAdapterKeys ||
    row.coverageKind ∈ upstreamStaleExemptCoverageKinds

def upstreamStale (row : SourceReadinessRow) (evaluatedAt : ℤ) : Option Bool :=
  if isUpstreamStaleExempt row then some false
  else
    match row.latestObservedAt with
    | none => some false
    | some observedAt =>
        (freshnessThresholdSeconds row.freshnessThresholdSeconds).map fun thresholdSeconds =>
          decide (seconds (thresholdSeconds * upstreamStaleThresholdMultiplier : ℕ) <
            max 0 (evaluatedAt - observedAt))

/-- A source that readiness and nearby coverage both judge by its observations is stale
to both or to neither. -/
def AgreeOnStaleness (metadata : Option String) : Prop :=
  ∀ (source : SourceReadinessRow) (row : RealtimeSourceHealthRow) (evaluatedAt elapsed : ℤ),
    isUpstreamStaleExempt source = false →
    source.freshnessThresholdSeconds = thresholdText metadata →
    row.freshnessThresholdSeconds = some (freshSeconds metadata : ℤ) →
    row.latestObservedAt = source.latestObservedAt → elapsed ≤ sourceWorkerDelayed →
    upstreamStale source evaluatedAt =
      some (upstreamStaleDecision row evaluatedAt (some elapsed) (freshnessSeconds row)).isSome

/-- The catalogue number is plain: not padded beyond blanks, of at most five digits and
within the maximum, or it is zero. -/
def IsPlainThreshold (text : String) : Prop :=
  isDigitRun (strip text) = true →
    strip text = text ∧ text.toList.length ≤ 5 ∧
        digitsValue text.toList ≤ maxFreshnessThresholdSeconds ∨
      (strip text).toList.length ≤ maxStrDigits ∧ digitsValue (strip text).toList = 0

instance (text : String) : Decidable (IsPlainThreshold text) :=
  inferInstanceAs (Decidable (_ → _))

/-! ### Agreement -/

theorem isWhitespace_of_digit {c : Char} (h : isAsciiDigit c = true) : isWhitespace c = false := by
  simp only [isAsciiDigit, Bool.and_eq_true, decide_eq_true_eq, Char.le_def,
    UInt32.le_iff_toNat_le] at h
  have hlow : 48 ≤ c.toNat := h.1
  have hhigh : c.toNat ≤ 57 := h.2
  simp only [isWhitespace, decide_eq_false_iff_not, List.mem_cons, List.not_mem_nil, or_false]
  omega

theorem dropWhile_of_digits {l : List Char} (h : l.all isAsciiDigit = true) :
    l.dropWhile isWhitespace = l := by
  cases l with
  | nil => rfl
  | cons c rest =>
    have hc : isWhitespace c = false := isWhitespace_of_digit (by simp_all)
    simp [hc]

theorem strip_of_digits {text : String} (h : text.toList.all isAsciiDigit = true) :
    strip text = text := by
  have hreverse : text.toList.reverse.all isAsciiDigit = true := by rwa [List.all_reverse]
  rw [strip, dropWhile_of_digits h, dropWhile_of_digits hreverse, List.reverse_reverse,
    String.ofList_toList]

theorem thresholdCandidate_eq_some {text : String} {value : ℕ}
    (h : thresholdCandidate text = some value) :
    strip text = text ∧ isDigitRun text = true ∧ text.toList.length ≤ 5 ∧
      digitsValue text.toList = value := by
  unfold thresholdCandidate at h
  split_ifs at h with hdigits
  obtain ⟨hpos, hshort, hall⟩ := hdigits
  refine ⟨strip_of_digits hall, ?_, hshort, Option.some.inj h⟩
  have hne : text.toList ≠ [] := List.ne_nil_of_length_pos hpos
  simp [isDigitRun, hne, hall]

theorem thresholdCandidate_of_digits {text : String} (hrun : isDigitRun text = true)
    (hshort : text.toList.length ≤ 5) :
    thresholdCandidate text = some (digitsValue text.toList) := by
  simp only [isDigitRun, Bool.and_eq_true, decide_eq_true_eq] at hrun
  rw [thresholdCandidate, if_pos ⟨List.length_pos_of_ne_nil hrun.1, hshort, hrun.2⟩]

theorem freshSeconds_pos (metadata : Option String) : 0 < freshSeconds metadata := by
  unfold freshSeconds
  cases thresholdCandidate (thresholdText metadata) with
  | none => decide
  | some candidate =>
    simp only
    split_ifs with hrange
    · omega
    · decide

theorem thresholds_agree {metadata : Option String}
    (hplain : IsPlainThreshold (thresholdText metadata)) :
    freshnessThresholdSeconds (thresholdText metadata) = some (freshSeconds metadata) := by
  unfold freshnessThresholdSeconds freshSeconds
  generalize thresholdText metadata = text at hplain
  cases hcandidate : thresholdCandidate text with
  | some value =>
    obtain ⟨hstrip, hrun, hshort, rfl⟩ := thresholdCandidate_eq_some hcandidate
    have hlimit : text.toList.length ≤ maxStrDigits := by unfold maxStrDigits; omega
    simp only [hstrip, hrun, if_true, intOfDigits, if_pos hlimit, Option.map_some]
    rcases hplain (by rwa [hstrip]) with ⟨-, -, hmax⟩ | ⟨-, hzero⟩
    · by_cases hpos : 0 < digitsValue text.toList
      · simp [hpos, hmax, Nat.one_le_iff_ne_zero, hpos.ne']
      · simp [Nat.eq_zero_of_not_pos hpos]
    · rw [hstrip] at hzero
      simp [hzero]
  | none =>
    by_cases hrun : isDigitRun (strip text) = true
    · rcases hplain hrun with ⟨hstrip, hshort, -⟩ | ⟨hlimit, hzero⟩
      · rw [hstrip] at hrun
        rw [thresholdCandidate_of_digits hrun hshort] at hcandidate
        exact absurd hcandidate (by simp)
      · simp [hrun, intOfDigits, hlimit, hzero]
    · simp [hrun]

theorem stale_of_thresholds {metadata : Option String}
    (h : freshnessThresholdSeconds (thresholdText metadata) = some (freshSeconds metadata)) :
    AgreeOnStaleness metadata := by
  intro source row evaluatedAt elapsed hexempt htext hrow hobserved helapsed
  have hfresh : freshnessSeconds row = freshSeconds metadata := by
    have hpos : (0 : ℤ) < freshSeconds metadata := by exact_mod_cast freshSeconds_pos metadata
    rw [freshnessSeconds, hrow, Option.filter_some, if_pos (decide_eq_true hpos), Option.getD_some]
  unfold upstreamStale upstreamStaleDecision
  rw [hobserved, htext, h, hfresh]
  cases hsource : source.latestObservedAt with
  | none => simp [hexempt]
  | some observedAt =>
    have hnever : ¬ elapsed > sourceWorkerDelayed := not_lt.mpr helapsed
    simp only [hexempt, Bool.false_eq_true, if_false, Option.map_some, if_neg hnever, age,
      Option.all_some, decide_eq_true_eq, upstreamStaleThresholdMultiplier, Nat.cast_mul,
      Nat.cast_ofNat]
    by_cases hage : max 0 (evaluatedAt - observedAt) ≤ seconds (freshSeconds metadata * 3)
    · simp only [if_pos hage, not_lt.mpr hage, decide_false, Option.isSome_none]
    · simp only [if_neg hage, not_le.mp hage, decide_true, Option.isSome_some]

/-- Readiness keeps an over-large number at the maximum, the query falls back to the default. -/
theorem overlarge_threshold {metadata : Option String}
    (hrun : isDigitRun (strip (thresholdText metadata)) = true)
    (hlimit : (strip (thresholdText metadata)).toList.length ≤ maxStrDigits)
    (hmax : maxFreshnessThresholdSeconds < digitsValue (strip (thresholdText metadata)).toList) :
    freshnessThresholdSeconds (thresholdText metadata) = some maxFreshnessThresholdSeconds ∧
      freshSeconds metadata = defaultFreshnessThresholdSeconds := by
  unfold freshnessThresholdSeconds freshSeconds
  generalize thresholdText metadata = text at *
  constructor
  · have hpos : 0 < digitsValue (strip text).toList := (Nat.zero_le _).trans_lt hmax
    simp [hrun, intOfDigits, hlimit, hpos, min_eq_right hmax.le]
  · cases hcandidate : thresholdCandidate text with
    | none => rfl
    | some value =>
      obtain ⟨hstrip, -, -, rfl⟩ := thresholdCandidate_eq_some hcandidate
      rw [hstrip] at hmax
      simp [not_le.mpr hmax]

/-- The two surfaces share every plain threshold and part on a number above the maximum. -/
theorem surfaces_age_alike (metadata : Option String) :
    (IsPlainThreshold (thresholdText metadata) →
      freshnessThresholdSeconds (thresholdText metadata) = some (freshSeconds metadata) ∧
        AgreeOnStaleness metadata) ∧
    (isDigitRun (strip (thresholdText metadata)) = true →
      (strip (thresholdText metadata)).toList.length ≤ maxStrDigits →
      maxFreshnessThresholdSeconds < digitsValue (strip (thresholdText metadata)).toList →
      freshnessThresholdSeconds (thresholdText metadata) = some maxFreshnessThresholdSeconds ∧
        freshSeconds metadata = defaultFreshnessThresholdSeconds) := by
  constructor
  · intro hplain
    have hequal := thresholds_agree hplain
    exact ⟨hequal, stale_of_thresholds hequal⟩
  · exact overlarge_threshold

theorem surfaces_age_reviewed_sources_alike :
    (freshnessThresholdSeconds "5400" = some (freshSeconds (some " 5400 ")) ∧
      AgreeOnStaleness (some " 5400 ")) ∧
    freshnessThresholdSeconds "86401" = some maxFreshnessThresholdSeconds ∧
      freshSeconds (some "86401") = defaultFreshnessThresholdSeconds :=
  ⟨(surfaces_age_alike (some " 5400 ")).1 (by decide +kernel),
    (surfaces_age_alike (some "86401")).2 (by decide +kernel) (by decide +kernel)
      (by decide +kernel)⟩

/-- Readiness waits three days for a source of 999999 seconds, nearby coverage ninety minutes. -/
theorem overlarge_threshold_parts_the_surfaces :
    freshnessThresholdSeconds (thresholdText (some "999999")) ≠ some (freshSeconds (some "999999")) ∧
      ¬ AgreeOnStaleness (some "999999") := by
  refine ⟨by decide +kernel, fun hagree => ?_⟩
  let row : RealtimeSourceHealthRow :=
    { isEnabled := true, configuredHealthStatus := .healthy, lastSuccessAt := none,
      lastFailureAt := none, latestRunStatus := none, latestRunAt := none,
      latestObservedAt := some 0, latestIngestedAt := none, stationCount := none,
      freshnessThresholdSeconds := some 1800 }
  have hsame := hagree ⟨"official.cwa.rainfall", "realtime", some 0, "999999"⟩ row
    (seconds 172800) 0 (by decide +kernel) (by decide +kernel) (by decide +kernel) rfl
    (by decide +kernel)
  revert hsame
  decide +kernel

end FloodRisk.Realtime
