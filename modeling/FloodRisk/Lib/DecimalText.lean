import Mathlib.Data.List.DropRight
import Mathlib.Data.Rat.Defs
import Mathlib.Algebra.Order.Field.Rat
import Mathlib.Tactic.FieldSimp
import Mathlib.Tactic.Linarith
import Mathlib.Tactic.NormNum
import Mathlib.Tactic.Ring

/-! # Decimal numbers and their fixed-point text -/

namespace DecimalText

/-- `coefficient * 10 ^ exponent`. -/
structure Decimal where
  coefficient : ℕ
  exponent : ℤ
  deriving DecidableEq

def Decimal.value (d : Decimal) : ℚ := d.coefficient * (10 : ℚ) ^ d.exponent

/-- The zeros at the end of the coefficient moved into the exponent. -/
def stripZeros : ℕ → ℕ → ℤ → Decimal
  | 0, c, e => ⟨c, e⟩
  | fuel + 1, c, e => if c % 10 = 0 then stripZeros fuel (c / 10) (e + 1) else ⟨c, e⟩

/-- Without zeros at the end of the coefficient. -/
def Decimal.normalize (d : Decimal) : Decimal :=
  if d.coefficient = 0 then ⟨0, 0⟩ else stripZeros d.coefficient d.coefficient d.exponent

/-- All digits of the number, with a point before those of its fraction. -/
def Decimal.fixedPoint (d : Decimal) : List Char :=
  match d.exponent with
  | .ofNat zeros => Nat.toDigits 10 d.coefficient ++ List.replicate zeros '0'
  | .negSucc k =>
      let digits := (Nat.toDigits 10 d.coefficient).leftpad (k + 2) '0'
      digits.take (digits.length - (k + 1)) ++ '.' :: digits.drop (digits.length - (k + 1))

def allDigits (text : List Char) : Bool := !text.isEmpty && text.all Char.isDigit

/-- The number that digits, with or without a fraction, are read as. -/
def readDecimal (text : List Char) : Option ℚ :=
  match text.dropWhile fun c => c ≠ '.' with
  | [] => if allDigits text then some (Nat.ofDigitChars 10 text 0) else none
  | _ :: fraction =>
      let whole := text.takeWhile fun c => c ≠ '.'
      if allDigits whole && allDigits fraction then
        some (Nat.ofDigitChars 10 (whole ++ fraction) 0 / 10 ^ fraction.length)
      else none

/-- A text without an exponent, and without zeros at the end of a fraction. -/
def Plain (text : List Char) : Prop :=
  (∀ c ∈ text, c.isDigit = true ∨ c = '.') ∧
    ('.' ∈ text → text.getLast? ≠ some '0' ∧ text.getLast? ≠ some '.')

variable {d : Decimal} {c n : ℕ} {e : ℤ} {text whole fraction : List Char}

/-! ### Normal form -/

theorem stripZeros_spec (fuel : ℕ) (hc : c ≠ 0) (hfuel : c ≤ fuel) :
    (stripZeros fuel c e).coefficient % 10 ≠ 0 ∧
      (stripZeros fuel c e).value = (⟨c, e⟩ : Decimal).value := by
  induction fuel generalizing c e with
  | zero => omega
  | succ fuel ih =>
    unfold stripZeros
    split_ifs with hzero
    · have hstep : (⟨c / 10, e + 1⟩ : Decimal).value = (⟨c, e⟩ : Decimal).value := by
        have hdiv : (c : ℚ) = 10 * (c / 10 : ℕ) := by
          have hnat : c = 10 * (c / 10) := by omega
          exact_mod_cast hnat
        unfold Decimal.value
        rw [zpow_add₀ (by norm_num), hdiv]
        simp only [zpow_one]
        ring
      obtain ⟨hlast, hvalue⟩ := @ih (c / 10) (e + 1) (by omega) (by omega)
      exact ⟨hlast, hvalue.trans hstep⟩
    · exact ⟨hzero, rfl⟩

theorem Decimal.value_eq_zero_iff (d : Decimal) : d.value = 0 ↔ d.coefficient = 0 := by
  unfold Decimal.value
  have hpow : (10 : ℚ) ^ d.exponent ≠ 0 := zpow_ne_zero _ (by norm_num)
  rw [mul_eq_zero, or_iff_left hpow, Nat.cast_eq_zero]

theorem Decimal.normalize_spec (h : d.value ≠ 0) :
    d.normalize.coefficient % 10 ≠ 0 ∧ d.normalize.value = d.value := by
  have hc := (not_congr d.value_eq_zero_iff).mp h
  rw [normalize, if_neg hc]
  exact stripZeros_spec d.coefficient hc (le_refl _)

/-- In normal form a number is a multiple of ten exactly when its exponent is positive. -/
theorem Decimal.exponent_pos_iff (h : d.coefficient % 10 ≠ 0) :
    0 < d.exponent ↔ ∃ n : ℕ, 0 < n ∧ d.value = 10 * n := by
  constructor
  · intro hpos
    obtain ⟨k, hk⟩ : ∃ k : ℕ, d.exponent = k + 1 := ⟨(d.exponent - 1).toNat, by omega⟩
    refine ⟨d.coefficient * 10 ^ k, Nat.mul_pos (by omega) (by positivity), ?_⟩
    unfold value
    rw [hk, zpow_add₀ (by norm_num)]
    push_cast
    rw [zpow_natCast]
    ring
  · rintro ⟨n, -, hn⟩
    by_contra hneg
    obtain ⟨k, hk⟩ : ∃ k : ℕ, d.exponent = -k := ⟨(-d.exponent).toNat, by omega⟩
    unfold value at hn
    rw [hk, zpow_neg, zpow_natCast] at hn
    have hpow : (10 : ℚ) ^ k ≠ 0 := by positivity
    have hmul : (d.coefficient : ℚ) = 10 * n * 10 ^ k := by
      field_simp at hn
      linarith
    have hnat : d.coefficient = 10 * (n * 10 ^ k) := by
      have hcast : (d.coefficient : ℚ) = ((10 * (n * 10 ^ k) : ℕ) : ℚ) := by
        push_cast
        linarith
      exact_mod_cast hcast
    omega

/-! ### Texts of digits -/

theorem allDigits_toDigits (n : ℕ) : allDigits (Nat.toDigits 10 n) = true := by
  unfold allDigits
  rw [Bool.and_eq_true, List.all_eq_true]
  refine ⟨by simp [Nat.toDigits_ne_nil], ?_⟩
  intro c hc
  exact Nat.isDigit_of_mem_toDigits (by decide) (le_refl _) hc

theorem ne_point_of_allDigits (h : allDigits text = true) : ∀ c ∈ text, c ≠ '.' := by
  intro c hc
  rintro rfl
  rw [allDigits, Bool.and_eq_true, List.all_eq_true] at h
  exact absurd (h.2 _ hc) (by decide)

theorem readDecimal_digits (h : allDigits text = true) :
    readDecimal text = some (Nat.ofDigitChars 10 text 0 : ℚ) := by
  have hnone : text.dropWhile (fun c => decide (c ≠ '.')) = [] := by
    rw [List.dropWhile_eq_nil_iff]
    intro c hc
    exact decide_eq_true (ne_point_of_allDigits h c hc)
  rw [readDecimal, hnone]
  simp [h]

theorem readDecimal_point (hwhole : allDigits whole = true) (hfraction : allDigits fraction = true) :
    readDecimal (whole ++ '.' :: fraction) =
      some ((Nat.ofDigitChars 10 (whole ++ fraction) 0 : ℚ) / 10 ^ fraction.length) := by
  have hdigits := ne_point_of_allDigits hwhole
  have hdrop : (whole ++ '.' :: fraction).dropWhile (fun c => decide (c ≠ '.')) =
      '.' :: fraction := by
    rw [List.dropWhile_append_of_pos (fun c hc => decide_eq_true (hdigits c hc))]
    rfl
  have htake : (whole ++ '.' :: fraction).takeWhile (fun c => decide (c ≠ '.')) = whole := by
    rw [List.takeWhile_append_of_pos (fun c hc => decide_eq_true (hdigits c hc))]
    simp
  unfold readDecimal
  simp only [hdrop, htake, hwhole, hfraction, Bool.and_self, if_true]

/-- The last digit. -/
theorem getLast_toDigits (hn : n % 10 ≠ 0) :
    ∃ front last, Nat.toDigits 10 n = front ++ [last] ∧ last ≠ '0' ∧ last ≠ '.' := by
  have hlast : Nat.digitChar (n % 10) ≠ '0' ∧ Nat.digitChar (n % 10) ≠ '.' := by
    have hlt : n % 10 < 10 := Nat.mod_lt _ (by decide)
    have htable : ∀ m < 10, m ≠ 0 → Nat.digitChar m ≠ '0' ∧ Nat.digitChar m ≠ '.' := by decide
    exact htable _ hlt hn
  by_cases hsmall : n < 10
  · refine ⟨[], Nat.digitChar (n % 10), ?_, hlast⟩
    rw [Nat.toDigits_of_lt_base hsmall, Nat.mod_eq_of_lt hsmall]
    rfl
  · refine ⟨Nat.toDigits 10 (n / 10), Nat.digitChar (n % 10), ?_, hlast⟩
    exact Nat.toDigits_of_base_le (by decide) (by omega)

/-! ### Fixed-point texts -/

/-- `text.rstrip("0").rstrip(".")`. -/
def rstripZeros (text : List Char) : List Char :=
  (text.rdropWhile fun c => c = '0').rdropWhile fun c => c = '.'

theorem rstripZeros_of_last {front : List Char} {last : Char} (hzero : last ≠ '0')
    (hpoint : last ≠ '.') : rstripZeros (front ++ [last]) = front ++ [last] := by
  unfold rstripZeros
  rw [List.rdropWhile_concat_neg _ _ _ (by simpa using hzero),
    List.rdropWhile_concat_neg _ _ _ (by simpa using hpoint)]

theorem rstripZeros_append_zeros (text : List Char) (n : ℕ) :
    rstripZeros (text ++ List.replicate n '0') = rstripZeros text := by
  induction n with
  | zero => rw [List.replicate_zero, List.append_nil]
  | succ n ih =>
    rw [List.replicate_succ', ← List.append_assoc]
    unfold rstripZeros at ih ⊢
    rw [List.rdropWhile_concat_pos _ _ _ (by simp), ih]

theorem plain_of_allDigits (h : allDigits text = true) : Plain text := by
  constructor
  · intro c hc
    rw [allDigits, Bool.and_eq_true, List.all_eq_true] at h
    exact Or.inl (h.2 c hc)
  · intro hpoint
    exact absurd rfl (ne_point_of_allDigits h _ hpoint)

/-- A whole number: its digits, with the zeros of the exponent after them. -/
theorem fixedPoint_of_nonneg (hexponent : 0 ≤ d.exponent) :
    d.fixedPoint = Nat.toDigits 10 d.coefficient ++ List.replicate d.exponent.toNat '0' := by
  unfold Decimal.fixedPoint
  cases he : d.exponent with
  | ofNat zeros => rfl
  | negSucc k => omega

theorem allDigits_append_left (h : allDigits (whole ++ fraction) = true) (hne : whole ≠ []) :
    allDigits whole = true := by
  unfold allDigits at h ⊢
  rw [Bool.and_eq_true, List.all_eq_true] at h ⊢
  exact ⟨by simpa using hne, fun c hc => h.2 c (List.mem_append_left _ hc)⟩

theorem allDigits_append_right (h : allDigits (whole ++ fraction) = true) (hne : fraction ≠ []) :
    allDigits fraction = true := by
  unfold allDigits at h ⊢
  rw [Bool.and_eq_true, List.all_eq_true] at h ⊢
  exact ⟨by simpa using hne, fun c hc => h.2 c (List.mem_append_right _ hc)⟩

/-- Digits with zeros before them. -/
theorem leftpad_spec (n k : ℕ) :
    k ≤ ((Nat.toDigits 10 n).leftpad k '0').length ∧
      allDigits ((Nat.toDigits 10 n).leftpad k '0') = true ∧
      Nat.ofDigitChars 10 ((Nat.toDigits 10 n).leftpad k '0') 0 = n := by
  obtain ⟨zeros, hpad⟩ : ∃ zeros, (Nat.toDigits 10 n).leftpad k '0' =
      List.replicate zeros '0' ++ Nat.toDigits 10 n := ⟨_, rfl⟩
  refine ⟨?_, ?_, ?_⟩
  · rw [List.length_leftpad]
    exact Nat.le_max_left _ _
  · have hself := allDigits_toDigits n
    unfold allDigits at hself ⊢
    rw [Bool.and_eq_true, List.all_eq_true] at hself ⊢
    rw [hpad]
    refine ⟨by simp [Nat.toDigits_ne_nil], fun c hc => ?_⟩
    rcases List.mem_append.mp hc with hc | hc
    · rw [(List.mem_replicate.mp hc).2]
      rfl
    · exact hself.2 c hc
  · rw [hpad, Nat.ofDigitChars_append, Nat.ofDigitChars_replicate_zero, Nat.mul_zero,
      Nat.ofDigitChars_ten_toDigits]

/-- A fraction: the point stands inside the digits, and the last of them is no zero. -/
theorem fixedPoint_of_neg (hexponent : d.exponent < 0) (hlast : d.coefficient % 10 ≠ 0) :
    ∃ whole front last, d.fixedPoint = whole ++ '.' :: (front ++ [last]) ∧
      allDigits whole = true ∧ allDigits (front ++ [last]) = true ∧ last ≠ '0' ∧ last ≠ '.' ∧
      (Nat.ofDigitChars 10 (whole ++ (front ++ [last])) 0 : ℚ) / 10 ^ (front ++ [last]).length =
        d.value := by
  obtain ⟨k, hk⟩ : ∃ k : ℕ, d.exponent = .negSucc k := Int.eq_negSucc_of_lt_zero hexponent
  obtain ⟨hlength, hall, hread⟩ := leftpad_spec d.coefficient (k + 2)
  have hend : ∃ front last, (Nat.toDigits 10 d.coefficient).leftpad (k + 2) '0' =
      front ++ [last] ∧ last ≠ '0' ∧ last ≠ '.' := by
    obtain ⟨front, last, hdigits, hne⟩ := getLast_toDigits hlast
    refine ⟨List.replicate (k + 2 - (Nat.toDigits 10 d.coefficient).length) '0' ++ front, last,
      ?_, hne⟩
    rw [List.append_assoc, ← hdigits]
    rfl
  have hfixed : d.fixedPoint =
      ((Nat.toDigits 10 d.coefficient).leftpad (k + 2) '0').take
        (((Nat.toDigits 10 d.coefficient).leftpad (k + 2) '0').length - (k + 1)) ++
      '.' :: ((Nat.toDigits 10 d.coefficient).leftpad (k + 2) '0').drop
        (((Nat.toDigits 10 d.coefficient).leftpad (k + 2) '0').length - (k + 1)) := by
    unfold Decimal.fixedPoint
    rw [hk]
  generalize (Nat.toDigits 10 d.coefficient).leftpad (k + 2) '0' = digits at *
  obtain ⟨front, last, rfl, hzero, hpoint⟩ := hend
  have hcount : (front ++ [last]).length = front.length + 1 := by simp
  rw [hcount] at hlength hfixed
  have htake : (front ++ [last]).take (front.length + 1 - (k + 1)) =
      front.take (front.length - k) := by
    rw [List.take_append_of_le_length (by omega)]
    congr 1
    omega
  have hdrop : (front ++ [last]).drop (front.length + 1 - (k + 1)) =
      front.drop (front.length - k) ++ [last] := by
    rw [List.drop_append_of_le_length (by omega)]
    congr 2
    omega
  rw [htake, hdrop] at hfixed
  have hsplit : front.take (front.length - k) ++ (front.drop (front.length - k) ++ [last]) =
      front ++ [last] := by
    rw [← List.append_assoc, List.take_append_drop]
  refine ⟨front.take (front.length - k), front.drop (front.length - k), last, hfixed, ?_, ?_,
    hzero, hpoint, ?_⟩
  · apply allDigits_append_left (hsplit.symm ▸ hall)
    intro hnil
    have hshort := congrArg List.length hnil
    rw [List.length_take, List.length_nil] at hshort
    omega
  · exact allDigits_append_right (hsplit.symm ▸ hall) (by simp)
  · have hfraction : (front.drop (front.length - k) ++ [last]).length = k + 1 := by
      rw [List.length_append, List.length_drop, List.length_singleton]
      omega
    rw [hsplit, hread, hfraction, Decimal.value, hk, zpow_negSucc, div_eq_mul_inv]

/-- The text of a number that is no multiple of ten is read back, and nothing is stripped. -/
theorem fixedPoint_spec (hexponent : d.exponent ≤ 0) (hlast : d.coefficient % 10 ≠ 0) :
    rstripZeros d.fixedPoint = d.fixedPoint ∧ readDecimal d.fixedPoint = some d.value ∧
      Plain d.fixedPoint := by
  rcases lt_or_eq_of_le hexponent with hneg | hzero
  · obtain ⟨whole, front, last, hfixed, hwhole, hfraction, hne, hpoint, hvalue⟩ :=
      fixedPoint_of_neg hneg hlast
    have hlast : whole ++ '.' :: (front ++ [last]) = (whole ++ '.' :: front) ++ [last] := by simp
    refine ⟨?_, ?_, ?_, ?_⟩
    · rw [hfixed, hlast]
      exact rstripZeros_of_last hne hpoint
    · rw [hfixed, readDecimal_point hwhole hfraction, hvalue]
    · intro c hc
      rw [hfixed] at hc
      rcases List.mem_append.mp hc with hc | hc
      · exact (plain_of_allDigits hwhole).1 c hc
      · rcases List.mem_cons.mp hc with hc | hc
        · exact Or.inr hc
        · exact (plain_of_allDigits hfraction).1 c hc
    · intro _
      rw [hfixed, hlast, List.getLast?_concat]
      exact ⟨fun h => hne (Option.some.inj h), fun h => hpoint (Option.some.inj h)⟩
  · have hfixed : d.fixedPoint = Nat.toDigits 10 d.coefficient := by
      rw [fixedPoint_of_nonneg hzero.ge, hzero]
      simp
    obtain ⟨front, last, hdigits, hne, hpoint⟩ := getLast_toDigits hlast
    refine ⟨?_, ?_, ?_⟩
    · rw [hfixed, hdigits]
      exact rstripZeros_of_last hne hpoint
    · rw [hfixed, readDecimal_digits (allDigits_toDigits _), Nat.ofDigitChars_ten_toDigits,
        Decimal.value, hzero, zpow_zero, mul_one]
    · rw [hfixed]
      exact plain_of_allDigits (allDigits_toDigits _)

/-- Of a multiple of ten the digits of the coefficient are left. -/
theorem rstripZeros_fixedPoint (hexponent : 0 ≤ d.exponent) (hlast : d.coefficient % 10 ≠ 0) :
    rstripZeros d.fixedPoint = Nat.toDigits 10 d.coefficient := by
  obtain ⟨front, last, hdigits, hne, hpoint⟩ := getLast_toDigits hlast
  rw [fixedPoint_of_nonneg hexponent, rstripZeros_append_zeros, hdigits]
  exact rstripZeros_of_last hne hpoint

end DecimalText
