import Mathlib.Data.List.Basic
import Mathlib.Tactic.NormNum

/-! # The proleptic Gregorian calendar

Days are counted from the first of January of the year one, which is day one.
`ordinal` and `civil` convert between the count and year, month and day. -/

namespace Calendar

def isLeap (year : ℕ) : Bool := year % 4 = 0 && (year % 100 ≠ 0 || year % 400 = 0)

def monthLengths (year : ℕ) : List ℕ :=
  [31, if isLeap year then 29 else 28, 31, 30, 31, 30, 31, 31, 30, 31, 30, 31]

def daysBeforeYear (year : ℕ) : ℕ :=
  (year - 1) * 365 + (year - 1) / 4 - (year - 1) / 100 + (year - 1) / 400

def yearLength (year : ℕ) : ℕ := if isLeap year then 366 else 365

/-- Day, month and year exist; the years are those of four digits. -/
structure IsDate (year month day : ℕ) : Prop where
  years : 1 ≤ year ∧ year ≤ 9999
  months : 1 ≤ month ∧ month ≤ 12
  days : 1 ≤ day ∧ day ≤ (monthLengths year).getD (month - 1) 0

instance (year month day : ℕ) : Decidable (IsDate year month day) :=
  decidable_of_iff (((1 ≤ year ∧ year ≤ 9999) ∧ (1 ≤ month ∧ month ≤ 12)) ∧
      (1 ≤ day ∧ day ≤ (monthLengths year).getD (month - 1) 0))
    ⟨fun h => ⟨h.1.1, h.1.2, h.2⟩, fun h => ⟨⟨h.years, h.months⟩, h.days⟩⟩

def ordinal (year month day : ℕ) : ℕ :=
  daysBeforeYear year + ((monthLengths year).take (month - 1)).sum + day

def lastOrdinal : ℕ := 3652059

/-! ### Months -/

/-- The month and the day of the month, of a day of the year counted from zero. -/
def splitMonths : List ℕ → ℕ → ℕ × ℕ
  | [], day => (1, day + 1)
  | length :: rest, day =>
      if day < length then (1, day + 1)
      else
        let (month, ofMonth) := splitMonths rest (day - length)
        (month + 1, ofMonth)

theorem splitMonths_pos (lengths : List ℕ) (day : ℕ) :
    1 ≤ (splitMonths lengths day).1 ∧ 1 ≤ (splitMonths lengths day).2 := by
  induction lengths generalizing day with
  | nil => exact ⟨le_rfl, Nat.le_add_left 1 day⟩
  | cons length rest ih =>
    unfold splitMonths
    split_ifs with hday
    · exact ⟨le_rfl, Nat.le_add_left 1 day⟩
    · exact ⟨Nat.le_add_left 1 _, (ih (day - length)).2⟩

theorem splitMonths_spec {lengths : List ℕ} {day : ℕ} (h : day < lengths.sum) :
    (splitMonths lengths day).1 ≤ lengths.length ∧
      (splitMonths lengths day).2 ≤ lengths.getD ((splitMonths lengths day).1 - 1) 0 ∧
      (lengths.take ((splitMonths lengths day).1 - 1)).sum + (splitMonths lengths day).2 =
        day + 1 := by
  induction lengths generalizing day with
  | nil => simp at h
  | cons length rest ih =>
    rw [List.sum_cons] at h
    unfold splitMonths
    split_ifs with hday
    · simp
      omega
    · obtain ⟨hcount, hlength, hsum⟩ := ih (show day - length < rest.sum by omega)
      obtain ⟨month, hmonth⟩ := Nat.exists_eq_add_of_le' (splitMonths_pos rest (day - length)).1
      simp only [hmonth, Nat.add_sub_cancel, List.length_cons, List.take_succ_cons, List.sum_cons,
        List.getD_cons_succ] at *
      omega

/-! ### Years -/

/-- The year and the day of the year, both counted from zero, of a day counted from zero. -/
def splitYears (days : ℕ) : ℕ × ℕ :=
  let n400 := days / 146097
  let n100 := days % 146097 / 36524
  let n4 := days % 146097 % 36524 / 1461
  let n1 := days % 146097 % 36524 % 1461 / 365
  let year := n400 * 400 + n100 * 100 + n4 * 4 + n1
  if n1 = 4 ∨ n100 = 4 then (year - 1, 365)
  else (year, days % 146097 % 36524 % 1461 % 365)

theorem monthLengths_sum (year : ℕ) : (monthLengths year).sum = yearLength year := by
  unfold monthLengths yearLength
  split_ifs <;> rfl

theorem monthLengths_le (year index : ℕ) : (monthLengths year).getD index 0 ≤ 31 := by
  have hall : ∀ length ∈ monthLengths year, length ≤ 31 := by
    intro length hlength
    simp only [monthLengths, List.mem_cons, List.not_mem_nil, or_false] at hlength
    split_ifs at hlength <;> omega
  rw [List.getD_eq_getElem?_getD]
  cases hget : (monthLengths year)[index]? with
  | none => exact Nat.zero_le 31
  | some length => exact hall length (List.mem_of_getElem? hget)

theorem isLeap_iff (year : ℕ) :
    isLeap year = true ↔ year % 4 = 0 ∧ (year % 100 ≠ 0 ∨ year % 400 = 0) := by
  simp [isLeap]

/-- The days before a year, by its four-hundreds, hundreds, fours and ones. -/
theorem daysBeforeYear_parts {n400 n100 n4 n1 : ℕ} (h100 : n100 ≤ 3) (h4 : n4 ≤ 24) (h1 : n1 ≤ 3) :
    daysBeforeYear (n400 * 400 + n100 * 100 + n4 * 4 + n1 + 1) =
      n400 * 146097 + n100 * 36524 + n4 * 1461 + n1 * 365 := by
  unfold daysBeforeYear
  rw [Nat.add_sub_cancel]
  have hfour : (n400 * 400 + n100 * 100 + n4 * 4 + n1) / 4 = n400 * 100 + n100 * 25 + n4 := by omega
  have hcentury : (n400 * 400 + n100 * 100 + n4 * 4 + n1) / 100 = n400 * 4 + n100 := by omega
  have hfourth : (n400 * 400 + n100 * 100 + n4 * 4 + n1) / 400 = n400 := by omega
  rw [hfour, hcentury, hfourth]
  omega

theorem isLeap_parts {n400 n100 n4 n1 : ℕ} (h100 : n100 ≤ 3) (h4 : n4 ≤ 24) (h1 : n1 ≤ 3) :
    isLeap (n400 * 400 + n100 * 100 + n4 * 4 + n1 + 1) = true ↔
      n1 = 3 ∧ (n4 ≠ 24 ∨ n100 = 3) := by
  rw [isLeap_iff]
  omega

/-- What `splitYears` makes of the parts of a count. -/
def ofParts (n400 n100 n4 n1 rest : ℕ) : ℕ × ℕ :=
  if n1 = 4 ∨ n100 = 4 then (n400 * 400 + n100 * 100 + n4 * 4 + n1 - 1, 365)
  else (n400 * 400 + n100 * 100 + n4 * 4 + n1, rest)

theorem ofParts_spec {days n400 n100 n4 n1 rest : ℕ}
    (hdays : days = n400 * 146097 + n100 * 36524 + n4 * 1461 + n1 * 365 + rest)
    (hcentury : n100 * 36524 + n4 * 1461 + n1 * 365 + rest < 146097)
    (hfour : n4 * 1461 + n1 * 365 + rest < 36524) (hone : n1 * 365 + rest < 1461)
    (hrest : rest < 365) :
    daysBeforeYear ((ofParts n400 n100 n4 n1 rest).1 + 1) + (ofParts n400 n100 n4 n1 rest).2 =
        days ∧
      (ofParts n400 n100 n4 n1 rest).2 < yearLength ((ofParts n400 n100 n4 n1 rest).1 + 1) := by
  have hbounds : n4 ≤ 24 ∧ n1 ≤ 4 ∧ n100 ≤ 4 := by omega
  by_cases hlast : n1 = 4 ∨ n100 = 4
  · rw [ofParts, if_pos hlast]
    cases hlast with
    | inl hfour =>
      have hshort : n100 ≤ 3 ∧ rest = 0 ∧ n4 ≠ 24 := by omega
      have hyear : n400 * 400 + n100 * 100 + n4 * 4 + n1 - 1 =
          n400 * 400 + n100 * 100 + n4 * 4 + 3 := by omega
      have hleap := (@isLeap_parts n400 n100 n4 3 hshort.1 hbounds.1 (le_refl 3)).mpr
        ⟨rfl, Or.inl hshort.2.2⟩
      simp only [yearLength, hyear, hleap, daysBeforeYear_parts hshort.1 hbounds.1 (le_refl 3), if_true]
      omega
    | inr hhundred =>
      have hshort : n4 = 0 ∧ n1 = 0 ∧ rest = 0 := by omega
      have hyear : n400 * 400 + n100 * 100 + n4 * 4 + n1 - 1 =
          n400 * 400 + 3 * 100 + 24 * 4 + 3 := by omega
      have hleap := (@isLeap_parts n400 3 24 3 (le_refl 3) (le_refl 24) (le_refl 3)).mpr
        ⟨rfl, Or.inr rfl⟩
      simp only [yearLength, hyear, hleap, daysBeforeYear_parts (le_refl 3) (le_refl 24) (le_refl 3), if_true]
      omega
  · rw [ofParts, if_neg hlast]
    have hshort : n100 ≤ 3 ∧ n1 ≤ 3 := by omega
    simp only [yearLength, daysBeforeYear_parts hshort.1 hbounds.1 hshort.2]
    refine ⟨hdays.symm, ?_⟩
    split_ifs <;> omega

theorem splitYears_spec (days : ℕ) :
    daysBeforeYear ((splitYears days).1 + 1) + (splitYears days).2 = days ∧
      (splitYears days).2 < yearLength ((splitYears days).1 + 1) := by
  unfold splitYears
  apply ofParts_spec <;> omega

/-! ### Dates -/

/-- Year, month and day of a day of the count. -/
def civil (days : ℕ) : ℕ × ℕ × ℕ :=
  let (year, dayOfYear) := splitYears (days - 1)
  (year + 1, splitMonths (monthLengths (year + 1)) dayOfYear)

theorem ordinal_civil {days : ℕ} (hfirst : 1 ≤ days) (hlast : days ≤ lastOrdinal) :
    IsDate (civil days).1 (civil days).2.1 (civil days).2.2 ∧
      ordinal (civil days).1 (civil days).2.1 (civil days).2.2 = days := by
  obtain ⟨hyear, hday⟩ := splitYears_spec (days - 1)
  rw [← monthLengths_sum] at hday
  obtain ⟨hmonth, hlength, hsum⟩ := splitMonths_spec hday
  have hpos := splitMonths_pos (monthLengths ((splitYears (days - 1)).1 + 1))
    (splitYears (days - 1)).2
  have hbound : (splitYears (days - 1)).1 + 1 ≤ 9999 := by
    unfold daysBeforeYear lastOrdinal at *
    omega
  simp only [civil, ordinal]
  refine ⟨⟨⟨Nat.le_add_left 1 _, hbound⟩, ⟨hpos.1, hmonth⟩, ⟨hpos.2, hlength⟩⟩, ?_⟩
  omega

end Calendar
