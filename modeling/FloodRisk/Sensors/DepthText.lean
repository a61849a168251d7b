import FloodRisk.Lib.DecimalText

/-!
# The depth in a summary (adapters/wra_iow, local_tainan and civil_iot)

`_format_depth_cm` is the same in the three adapters of flood sensors. A depth is the decimal
that `str` prints of the float, which never has more digits than a `Decimal` keeps.
-/

namespace FloodRisk.Sensors
open DecimalText

inductive FloodSensorAdapter where
  | wraIow | tainan | civilIot
  deriving DecidableEq

/-- `_format_depth_cm`. -/
def formatDepthCm (depthCm : Decimal) : List Char :=
  if depthCm.value = 0 then ['0'] else rstripZeros depthCm.normalize.fixedPoint

/-- The depth as `normalize` writes it; two of the adapters write the dry depth themselves. -/
def depthText (adapter : FloodSensorAdapter) (depthCm : Decimal) : List Char :=
  match adapter with
  | .wraIow => if depthCm.value = 0 then ['0'] else formatDepthCm depthCm
  | .tainan => if depthCm.value = 0 then ['0'] else formatDepthCm depthCm
  | .civilIot => formatDepthCm depthCm

/-- The summary before the depth. -/
def summaryHead (adapter : FloodSensorAdapter) (depthCm : Decimal) : String :=
  match adapter with
  | .wraIow =>
      if depthCm.value = 0 then "WRA IoW 淹水深度：無觀測到淹水（"
      else if depthCm.value < 3 then "WRA IoW 淹水深度：低水深觀測 " else "WRA IoW 淹水深度：水深 "
  | .tainan =>
      if depthCm.value = 0 then "台南地方淹水感測：無觀測到淹水（"
      else if depthCm.value < 3 then "台南地方淹水感測：低水深觀測 " else "台南地方淹水感測：水深 "
  | .civilIot =>
      if depthCm.value = 0 then "路面淹水感測：無觀測到淹水（乾燥，"
      else if depthCm.value < 3 then "路面淹水感測：低水深觀測 " else "路面淹水感測：水深 "

def summaryTail (depthCm : Decimal) (stationName : String) : String :=
  if depthCm.value = 0 then " 公分）（" ++ stationName ++ "）" else " 公分（" ++ stationName ++ "）"

/-- The `summary` of `normalize`. -/
def summary (adapter : FloodSensorAdapter) (depthCm : Decimal) (stationName : String) : String :=
  summaryHead adapter depthCm ++ String.ofList (depthText adapter depthCm) ++
    summaryTail depthCm stationName

/-- The text in the summary is the measured depth. -/
structure PublishesDepth (adapter : FloodSensorAdapter) (depthCm : Decimal) : Prop where
  in_summary : ∀ stationName, ∃ text, readDecimal text = some depthCm.value ∧
    Plain text ∧ summary adapter depthCm stationName =
      summaryHead adapter depthCm ++ String.ofList text ++ summaryTail depthCm stationName

theorem depthText_eq (adapter : FloodSensorAdapter) (depthCm : Decimal) :
    depthText adapter depthCm = formatDepthCm depthCm := by
  have hzero : (if depthCm.value = 0 then ['0'] else formatDepthCm depthCm) =
      formatDepthCm depthCm := by
    unfold formatDepthCm
    split_ifs <;> rfl
  cases adapter with
  | wraIow => exact hzero
  | tainan => exact hzero
  | civilIot => rfl

theorem publishesDepth_iff (adapter : FloodSensorAdapter) (depthCm : Decimal) :
    PublishesDepth adapter depthCm ↔
      readDecimal (formatDepthCm depthCm) = some depthCm.value ∧ Plain (formatDepthCm depthCm) := by
  rw [← depthText_eq adapter]
  constructor
  · intro h
    obtain ⟨text, hread, hplain, hsummary⟩ := h.in_summary ""
    have heq : depthText adapter depthCm = text := by
      have hlists := congrArg String.toList hsummary
      simp only [summary, String.toList_append, String.toList_ofList, List.append_assoc] at hlists
      exact List.append_cancel_right (List.append_cancel_left hlists)
    rw [heq]
    exact ⟨hread, hplain⟩
  · intro h
    exact ⟨fun _ => ⟨_, h.1, h.2, rfl⟩⟩

theorem formatDepthCm_of_ne_zero {depthCm : Decimal} (h : depthCm.value ≠ 0) :
    formatDepthCm depthCm = rstripZeros depthCm.normalize.fixedPoint := if_neg h

/-- The last zeros of a multiple of ten are lost. -/
theorem readDecimal_multiple_of_ten {depthCm : Decimal} (h : depthCm.value ≠ 0)
    (hten : ∃ n : ℕ, 0 < n ∧ depthCm.value = 10 * n) :
    readDecimal (formatDepthCm depthCm) ≠ some depthCm.value := by
  obtain ⟨hlast, hvalue⟩ := Decimal.normalize_spec h
  rw [← hvalue] at hten
  have hpos := (Decimal.exponent_pos_iff hlast).mpr hten
  rw [formatDepthCm_of_ne_zero h, rstripZeros_fixedPoint hpos.le hlast,
    readDecimal_digits (allDigits_toDigits _), Nat.ofDigitChars_ten_toDigits, ← hvalue]
  intro heq
  have hcoefficient := Option.some.inj heq
  have hne : (depthCm.normalize.coefficient : ℚ) ≠ 0 := by
    have hnat : depthCm.normalize.coefficient ≠ 0 := by omega
    exact_mod_cast hnat
  have hpow : (1 : ℚ) < 10 ^ depthCm.normalize.exponent := one_lt_zpow₀ (by norm_num) hpos
  unfold Decimal.value at hcoefficient
  have hone := mul_left_cancel₀ hne ((mul_one _).trans hcoefficient)
  linarith

theorem readDecimal_otherwise {depthCm : Decimal}
    (h : ¬ ∃ n : ℕ, 0 < n ∧ depthCm.value = 10 * n) :
    readDecimal (formatDepthCm depthCm) = some depthCm.value ∧ Plain (formatDepthCm depthCm) := by
  by_cases hzero : depthCm.value = 0
  · rw [formatDepthCm, if_pos hzero, hzero]
    exact ⟨rfl, plain_of_allDigits (by decide)⟩
  · obtain ⟨hlast, hvalue⟩ := Decimal.normalize_spec hzero
    have hexponent : depthCm.normalize.exponent ≤ 0 := by
      by_contra hpos
      rw [← hvalue] at h
      exact h ((Decimal.exponent_pos_iff hlast).mp (by omega))
    obtain ⟨hstrip, hread, hplain⟩ := fixedPoint_spec hexponent hlast
    rw [formatDepthCm_of_ne_zero hzero, hstrip, ← hvalue]
    exact ⟨hread, hplain⟩

/-- The depth is published exactly where it is no positive multiple of ten; and such depths
have different texts where they differ. -/
theorem depth_published_iff (adapter : FloodSensorAdapter) :
    (∀ depthCm, PublishesDepth adapter depthCm ↔ ¬ ∃ n : ℕ, 0 < n ∧ depthCm.value = 10 * n) ∧
    ∀ depthCm other : Decimal, (¬ ∃ n : ℕ, 0 < n ∧ depthCm.value = 10 * n) →
      (¬ ∃ n : ℕ, 0 < n ∧ other.value = 10 * n) →
      depthText adapter depthCm = depthText adapter other → depthCm.value = other.value := by
  constructor
  · intro depthCm
    rw [publishesDepth_iff]
    constructor
    · intro h hten
      have hne : depthCm.value ≠ 0 := by
        obtain ⟨n, hn, heq⟩ := hten
        rw [heq]
        positivity
      exact readDecimal_multiple_of_ten hne hten h.1
    · exact readDecimal_otherwise
  · intro depthCm other hdepth hother heq
    rw [depthText_eq, depthText_eq] at heq
    have hread := (readDecimal_otherwise hdepth).1
    rw [heq, (readDecimal_otherwise hother).1] at hread
    exact (Option.some.inj hread).symm

/-- A depth of a centimetre and a half, and the two halves of the equivalence at it. -/
theorem half_depth_published : PublishesDepth .tainan ⟨15, -1⟩ ∧
    (depthText .tainan ⟨15, -1⟩ = depthText .tainan ⟨2, 0⟩ →
      (⟨15, -1⟩ : Decimal).value = (⟨2, 0⟩ : Decimal).value) := by
  have hsmall : ∀ d : Decimal, d.value < 10 → ¬ ∃ n : ℕ, 0 < n ∧ d.value = 10 * n := by
    rintro d hd ⟨n, hn, heq⟩
    have hone : (1 : ℚ) ≤ n := by exact_mod_cast hn
    linarith
  have hhalf := hsmall ⟨15, -1⟩ (by unfold Decimal.value; norm_num)
  have htwo := hsmall ⟨2, 0⟩ (by unfold Decimal.value; norm_num)
  exact ⟨((depth_published_iff .tainan).1 _).mpr hhalf,
    (depth_published_iff .tainan).2 _ _ hhalf htwo⟩

/-- Ten centimetres are published as one. -/
theorem ten_published_as_one :
    ¬ PublishesDepth .wraIow ⟨100, -1⟩ ∧ depthText .wraIow ⟨100, -1⟩ = "1".toList ∧
      depthText .wraIow ⟨10, -1⟩ = "1".toList ∧
      (⟨100, -1⟩ : Decimal).value = 10 ∧ (⟨10, -1⟩ : Decimal).value = 1 := by
  have hten : (⟨100, -1⟩ : Decimal).value = 10 := by
    unfold Decimal.value
    norm_num
  have hone : (⟨10, -1⟩ : Decimal).value = 1 := by
    unfold Decimal.value
    norm_num
  refine ⟨?_, ?_, ?_, hten, hone⟩
  · rw [publishesDepth_iff]
    rintro ⟨hread, -⟩
    exact readDecimal_multiple_of_ten (by rw [hten]; norm_num)
      ⟨1, by norm_num, by rw [hten]; norm_num⟩ hread
  · rw [depthText_eq, formatDepthCm_of_ne_zero (by rw [hten]; norm_num)]
    decide +kernel
  · rw [depthText_eq, formatDepthCm_of_ne_zero (by rw [hone]; norm_num)]
    decide +kernel

end FloodRisk.Sensors
