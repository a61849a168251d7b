import Mathlib.Algebra.Order.Floor.Ring
import Mathlib.Data.Rat.Floor

/-! # Rounding of rationals -/

/-- The nearest integer, and the even one of two that are equally near. -/
def roundHalfEven (value : ℚ) : ℤ :=
  let below := ⌊value⌋
  let rest := value - below
  if rest < 1 / 2 then below
  else if 1 / 2 < rest then below + 1
  else if below % 2 = 0 then below else below + 1

example : [1 / 2, 3 / 2, 5 / 2, -1 / 2, 7 / 3].map roundHalfEven = [0, 2, 2, 0, 2] := by
  decide +kernel

theorem floor_le_roundHalfEven (value : ℚ) : ⌊value⌋ ≤ roundHalfEven value := by
  simp only [roundHalfEven]
  split
  · exact le_refl _
  · split
    · omega
    · split <;> omega

theorem roundHalfEven_le_floor_add_one (value : ℚ) : roundHalfEven value ≤ ⌊value⌋ + 1 := by
  simp only [roundHalfEven]
  split
  · omega
  · split
    · exact le_refl _
    · split <;> omega

theorem roundHalfEven_mono {value other : ℚ} (h : value ≤ other) :
    roundHalfEven value ≤ roundHalfEven other := by
  rcases (Int.floor_mono h).lt_or_eq with hlt | heq
  · have hbelow := roundHalfEven_le_floor_add_one value
    have habove := floor_le_roundHalfEven other
    omega
  · -- in one unit the rests compare like the values
    have hrest : value - (⌊value⌋ : ℚ) ≤ other - (⌊other⌋ : ℚ) := by
      rw [heq]
      exact sub_le_sub_right h _
    simp only [roundHalfEven]
    rw [heq] at hrest ⊢
    split
    · split
      · exact le_refl _
      · split
        · omega
        · split <;> omega
    · rename_i hhalf
      rw [if_neg fun hless => hhalf (lt_of_le_of_lt hrest hless)]
      split
      · rename_i habove
        rw [if_pos (lt_of_lt_of_le habove hrest)]
      · split
        · split
          · omega
          · exact le_refl _
        · split <;> exact le_refl _
