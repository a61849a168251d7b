import FloodRisk.Lib.Calendar
import Mathlib.Data.Int.Basic

/-! # ISO 8601 dates with times

Dates are `YYYY-MM-DD`, `YYYYMMDD` or a week with or without its day, any one
character separates date and time, times and offsets are `HH[:MM[:SS[.f]]]` or
the same without colons, and `Z` is the offset zero.  A reading is the wall
clock in microseconds of the count that starts on day zero of `Calendar`, and
the offset from UTC, where one is written. -/

namespace IsoFormat
open Calendar

def second : ℕ := 1000000

def dayLength : ℕ := 86400 * second

/-! ### Digits -/

def value (digits : List Char) : ℕ :=
  digits.foldl (fun total c => 10 * total + (c.toNat - 48)) 0

/-- `n` digits off the front. -/
def digits (n : ℕ) (text : List Char) : Option (ℕ × List Char) :=
  if (text.take n).length = n ∧ (text.take n).all Char.isDigit = true then
    some (value (text.take n), text.drop n)
  else none

/-! ### Dates -/

/-- The separator where the text uses it, and nothing where it does not. -/
def separator (c : Char) (used : Bool) (text : List Char) : Option (List Char) :=
  if used then
    match text with
    | first :: rest => if first = c then some rest else none
    | [] => none
  else some text

def weekday (days : ℕ) : ℕ := days % 7

/-- The first Monday of the ISO year: the week that holds the first Thursday. -/
def firstMonday (year : ℕ) : ℤ :=
  let firstDay := ordinal year 1 1
  let fromMonday := (firstDay + 6) % 7
  (firstDay : ℤ) - fromMonday + (if 3 < fromMonday then 7 else 0)

def hasWeek (year week : ℕ) : Bool :=
  1 ≤ week && (week ≤ 52 || week = 53 &&
    (weekday (ordinal year 1 1) = 4 || weekday (ordinal year 1 1) = 3 && isLeap year))

def weekDate (year week day : ℕ) : Option ℕ :=
  if 1 ≤ year ∧ year ≤ 9999 ∧ hasWeek year week = true ∧ 1 ≤ day ∧ day ≤ 7 then
    let days := firstMonday year + ((week - 1) * 7 + (day - 1))
    if 1 ≤ days ∧ days ≤ lastOrdinal then some days.toNat else none
  else none

def calendarDate (year month day : ℕ) : Option ℕ :=
  if IsDate year month day then some (ordinal year month day) else none

def parseDate (text : List Char) : Option ℕ := do
  let (year, rest) ← digits 4 text
  let dashed := rest.head? = some '-'
  let rest ← separator '-' dashed rest
  match rest with
  | 'W' :: rest => do
      let (week, rest) ← digits 2 rest
      if rest = [] then weekDate year week 1
      else do
        let rest ← separator '-' dashed rest
        let (day, rest) ← digits 1 rest
        if rest = [] then weekDate year week day else none
  | _ => do
      let (month, rest) ← digits 2 rest
      let rest ← separator '-' dashed rest
      let (day, rest) ← digits 2 rest
      if rest = [] then calendarDate year month day else none

/-- Where the date ends; a hyphen before a digit is taken for the separator of a week. -/
def separatorIndex (text : List Char) : Option ℕ :=
  if text.length < 7 then none
  else if text.length = 7 then some 7
  else if text[4]? = some '-' then
    if text[5]? = some 'W' then
      if text[8]? = some '-' then
        if text.length = 9 then none
        else if (text[10]?).any Char.isDigit then some 8
        else some 10
      else some 8
    else some 10
  else if text[4]? = some 'W' then
    let digitsEnd := 7 + ((text.drop 7).takeWhile Char.isDigit).length
    if digitsEnd < 9 then some digitsEnd
    else if digitsEnd % 2 = 0 then some 7
    else some 8
  else some 8

/-! ### Times -/

structure Clock where
  hour : ℕ
  minute : ℕ
  seconds : ℕ
  microsecond : ℕ
  deriving DecidableEq

def Clock.micros (clock : Clock) : ℕ :=
  ((clock.hour * 60 + clock.minute) * 60 + clock.seconds) * second + clock.microsecond

def Clock.IsTime (clock : Clock) : Prop :=
  clock.hour < 24 ∧ clock.minute < 60 ∧ clock.seconds < 60 ∧ clock.microsecond < second

instance (clock : Clock) : Decidable clock.IsTime := inferInstanceAs (Decidable (_ ∧ _))

/-- Digits after the six of the microseconds are dropped. -/
def parseFraction : List Char → Option ℕ
  | [] => some 0
  | mark :: text =>
      if (mark = '.' ∨ mark = ',') ∧ text ≠ [] ∧ text.all Char.isDigit = true then
        some (value ((text ++ List.replicate 5 '0').take 6))
      else none

def parseClock (text : List Char) : Option Clock := do
  let (hour, rest) ← digits 2 text
  if rest = [] then some ⟨hour, 0, 0, 0⟩
  else do
    let colons := rest.head? = some ':'
    let rest ← separator ':' colons rest
    let (minute, rest) ← digits 2 rest
    if rest = [] then some ⟨hour, minute, 0, 0⟩
    else do
      let rest ← separator ':' colons rest
      let (seconds, rest) ← digits 2 rest
      let microsecond ← parseFraction rest
      some ⟨hour, minute, seconds, microsecond⟩

def isZoneMark (c : Char) : Bool := c = '+' || c = '-' || c = 'Z'

/-- The offset from its mark on; none is written where the text ends. -/
def parseZone : List Char → Option (Option ℤ)
  | [] => some none
  | mark :: text =>
      if mark = 'Z' then if text = [] then some (some 0) else none
      else do
        let clock ← parseClock text
        if clock.micros < dayLength then
          some (some (if mark = '-' then -(clock.micros : ℤ) else clock.micros))
        else none

def parseTime (text : List Char) : Option (ℕ × Option ℤ) := do
  let clock ← parseClock (text.takeWhile fun c => !isZoneMark c)
  let offset ← parseZone (text.dropWhile fun c => !isZoneMark c)
  if clock.IsTime then some (clock.micros, offset) else none

/-- A reading of a date with a time: the wall clock and the offset. -/
structure Reading where
  wall : ℤ
  offset : Option ℤ
  deriving DecidableEq

def parse (text : List Char) : Option Reading := do
  let ends ← separatorIndex text
  let days ← parseDate (text.take ends)
  match text.drop ends with
  | [] => some ⟨days * dayLength, none⟩
  | _ :: time => do
      let (micros, offset) ← parseTime time
      some ⟨days * dayLength + micros, offset⟩

/-! ### Printing -/

def digit (n : ℕ) : Char := Nat.digitChar (n % 10)

def two (n : ℕ) : List Char := [digit (n / 10), digit n]

def four (n : ℕ) : List Char := [digit (n / 1000), digit (n / 100), digit (n / 10), digit n]

def six (n : ℕ) : List Char :=
  [digit (n / 100000), digit (n / 10000), digit (n / 1000), digit (n / 100), digit (n / 10),
    digit n]

def printFraction (microsecond : ℕ) : List Char :=
  if microsecond = 0 then [] else '.' :: six microsecond

def clockOf (micros : ℕ) : Clock where
  hour := micros / second / 3600
  minute := micros / second / 60 % 60
  seconds := micros / second % 60
  microsecond := micros % second

def printClock (clock : Clock) : List Char :=
  two clock.hour ++ ':' :: two clock.minute ++ ':' :: two clock.seconds ++
    printFraction clock.microsecond

/-- Seconds of an offset are printed where it has some. -/
def printOffset : Option ℤ → List Char
  | none => []
  | some offset =>
      let clock := clockOf offset.natAbs
      let text :=
        if clock.seconds = 0 ∧ clock.microsecond = 0 then two clock.hour ++ ':' :: two clock.minute
        else printClock clock
      (if offset < 0 then '-' else '+') :: text

def print (reading : Reading) : List Char :=
  let days := (reading.wall / dayLength).toNat
  let date := civil days
  four date.1 ++ '-' :: two date.2.1 ++ '-' :: two date.2.2 ++
    'T' :: (printClock (clockOf (reading.wall % dayLength).toNat) ++ printOffset reading.offset)

example : (parse "2024-02-29T23:59:30.25+08:00".toList).map print =
    some "2024-02-29T23:59:30.250000+08:00".toList := by decide +kernel

/-! ### What is printed is read -/

theorem isDigit_digit (n : ℕ) : (digit n).isDigit = true := by
  have hall : ∀ k < 10, (Nat.digitChar k).isDigit = true := by decide
  exact hall _ (Nat.mod_lt n (by decide))

theorem toNat_digit (n : ℕ) : (digit n).toNat - 48 = n % 10 := by
  have hall : ∀ k < 10, (Nat.digitChar k).toNat - 48 = k := by decide
  exact hall _ (Nat.mod_lt n (by decide))

theorem digit_ne {n : ℕ} {c : Char} (h : c.isDigit = false) : digit n ≠ c := by
  intro heq
  have hdigit := isDigit_digit n
  rw [heq, h] at hdigit
  exact absurd hdigit (by decide)

theorem digits_two {n : ℕ} (h : n < 100) (rest : List Char) :
    digits 2 (two n ++ rest) = some (n, rest) := by
  simp only [digits, two, List.cons_append, List.nil_append, List.take_succ_cons, List.take_zero,
    List.length_cons, List.length_nil, List.all_cons, List.all_nil, isDigit_digit, Bool.and_self,
    and_self, if_true, value, List.foldl_cons, List.foldl_nil, toNat_digit, List.drop_succ_cons,
    List.drop_zero, Option.some.injEq, Prod.mk.injEq, and_true]
  omega

theorem digits_four {n : ℕ} (h : n < 10000) (rest : List Char) :
    digits 4 (four n ++ rest) = some (n, rest) := by
  simp only [digits, four, List.cons_append, List.nil_append, List.take_succ_cons, List.take_zero,
    List.length_cons, List.length_nil, List.all_cons, List.all_nil, isDigit_digit, Bool.and_self,
    and_self, if_true, value, List.foldl_cons, List.foldl_nil, toNat_digit, List.drop_succ_cons,
    List.drop_zero, Option.some.injEq, Prod.mk.injEq, and_true]
  omega

theorem parseFraction_print {microsecond : ℕ} (h : microsecond < second) :
    parseFraction (printFraction microsecond) = some microsecond := by
  unfold printFraction
  split_ifs with hzero
  · rw [hzero]
    rfl
  · simp only [parseFraction, six, List.all_cons, List.all_nil, isDigit_digit, Bool.and_self,
      true_or, ne_eq, reduceCtorEq, not_false_eq_true, and_self, if_true, List.cons_append,
      List.nil_append, List.take_succ_cons, List.take_zero, value, List.foldl_cons,
      List.foldl_nil, toNat_digit, Option.some.injEq]
    unfold second at h
    omega

theorem separator_cons (c : Char) (rest : List Char) :
    separator c true (c :: rest) = some rest := by
  simp [separator]

theorem parseClock_hoursMinutes {hour minute : ℕ} (hhour : hour < 100) (hminute : minute < 100) :
    parseClock (two hour ++ ':' :: two minute) = some ⟨hour, minute, 0, 0⟩ := by
  have hends := digits_two hminute []
  rw [List.append_nil] at hends
  simp only [parseClock, digits_two hhour, Option.bind_eq_bind, Option.bind_some, reduceCtorEq,
    if_false, List.head?_cons, decide_true, separator_cons, hends, if_true]

theorem parseClock_print {clock : Clock} (h : clock.IsTime) :
    parseClock (printClock clock) = some clock := by
  obtain ⟨hhour, hminute, hseconds, hmicrosecond⟩ := h
  simp only [parseClock, printClock, List.append_assoc, List.cons_append,
    digits_two (hhour.trans (by decide)), digits_two (hminute.trans (by decide)),
    digits_two (hseconds.trans (by decide)), Option.bind_eq_bind, Option.bind_some, reduceCtorEq,
    if_false, List.head?_cons, decide_true, separator_cons, parseFraction_print hmicrosecond]

theorem clockOf_isTime {micros : ℕ} (h : micros < dayLength) : (clockOf micros).IsTime := by
  unfold dayLength second at h
  simp only [Clock.IsTime, clockOf, second]
  omega

theorem micros_clockOf (micros : ℕ) : (clockOf micros).micros = micros := by
  simp only [Clock.micros, clockOf, second]
  omega

/-! ### Zones -/

theorem isZoneMark_digit (n : ℕ) : isZoneMark (digit n) = false := by
  simp [isZoneMark, digit_ne]

section Characters

variable {P : Char → Prop} (hdigit : ∀ n, P (digit n))

include hdigit

theorem forall_two (n : ℕ) : ∀ c ∈ two n, P c := by
  intro c hc
  simp only [two, List.mem_cons, List.not_mem_nil, or_false] at hc
  rcases hc with rfl | rfl <;> exact hdigit _

theorem forall_printFraction (hpoint : P '.') (microsecond : ℕ) :
    ∀ c ∈ printFraction microsecond, P c := by
  intro c hc
  unfold printFraction at hc
  split_ifs at hc with hzero
  · exact absurd hc List.not_mem_nil
  · simp only [six, List.mem_cons, List.not_mem_nil, or_false] at hc
    rcases hc with rfl | rfl | rfl | rfl | rfl | rfl | rfl
    · exact hpoint
    all_goals exact hdigit _

theorem forall_printClock (hpoint : P '.') (hcolon : P ':') (clock : Clock) :
    ∀ c ∈ printClock clock, P c := by
  intro c hc
  unfold printClock at hc
  rw [List.append_assoc, List.append_assoc, List.mem_append, List.cons_append, List.mem_cons,
    List.mem_append, List.cons_append, List.mem_cons, List.mem_append] at hc
  rcases hc with hhour | rfl | hminute | rfl | hseconds | hfraction
  · exact forall_two hdigit _ c hhour
  · exact hcolon
  · exact forall_two hdigit _ c hminute
  · exact hcolon
  · exact forall_two hdigit _ c hseconds
  · exact forall_printFraction hdigit hpoint _ c hfraction

/-- The characters of a printed reading are digits and marks. -/
theorem forall_print (hmarks : ∀ c ∈ ['-', '+', ':', '.', 'T'], P c) (reading : Reading) :
    ∀ c ∈ print reading, P c := by
  have hclock := forall_printClock hdigit (hmarks '.' (by decide)) (hmarks ':' (by decide))
  have htwo := forall_two hdigit
  have hdash := hmarks '-' (by decide)
  have hyear : ∀ n, ∀ c ∈ four n, P c := by
    intro n c hc
    simp only [four, List.mem_cons, List.not_mem_nil, or_false] at hc
    rcases hc with rfl | rfl | rfl | rfl <;> exact hdigit _
  have hoffset : ∀ c ∈ printOffset reading.offset, P c := by
    intro c hc
    cases hread : reading.offset with
    | none => exact absurd (hread ▸ hc) List.not_mem_nil
    | some offset =>
      rw [hread] at hc
      simp only [printOffset, List.mem_cons] at hc
      cases hc with
      | inl hsign =>
        rw [hsign]
        split_ifs
        · exact hdash
        · exact hmarks '+' (by decide)
      | inr htext =>
        split_ifs at htext with hwhole
        · rcases List.mem_append.mp htext with hhour | hminute
          · exact htwo _ c hhour
          · cases List.mem_cons.mp hminute with
            | inl hcolon => exact hcolon ▸ hmarks ':' (by decide)
            | inr hminute => exact htwo _ c hminute
        · exact hclock _ c htext
  intro c hc
  simp only [print, List.append_assoc, List.cons_append, List.mem_append, List.mem_cons] at hc
  rcases hc with h | rfl | h | rfl | h | rfl | h | h
  · exact hyear _ c h
  · exact hdash
  · exact htwo _ c h
  · exact hdash
  · exact htwo _ c h
  · exact hmarks 'T' (by decide)
  · exact hclock _ c h
  · exact hoffset c h

end Characters

/-- A text without a zone mark, before a text that is empty or starts with one. -/
theorem split_zone {text zone : List Char} (htext : ∀ c ∈ text, isZoneMark c = false)
    (hzone : ∀ c ∈ zone.head?, isZoneMark c = true) :
    (text ++ zone).takeWhile (fun c => !isZoneMark c) = text ∧
      (text ++ zone).dropWhile (fun c => !isZoneMark c) = zone := by
  induction text with
  | nil =>
    cases zone with
    | nil => exact ⟨rfl, rfl⟩
    | cons mark rest =>
      have hmark := hzone mark rfl
      simp [hmark]
  | cons c rest ih =>
    have hc := htext c List.mem_cons_self
    obtain ⟨htake, hdrop⟩ := ih fun c hmem => htext c (List.mem_cons_of_mem _ hmem)
    simp [hc, htake, hdrop]

theorem parseZone_print {offset : Option ℤ} (h : ∀ o ∈ offset, o.natAbs < dayLength) :
    parseZone (printOffset offset) = some offset := by
  cases offset with
  | none => rfl
  | some o =>
    have hlimit : o.natAbs < dayLength := h o rfl
    have htime := clockOf_isTime hlimit
    have hmicros := micros_clockOf o.natAbs
    have hparsed : parseClock (if (clockOf o.natAbs).seconds = 0 ∧
        (clockOf o.natAbs).microsecond = 0 then
          two (clockOf o.natAbs).hour ++ ':' :: two (clockOf o.natAbs).minute
        else printClock (clockOf o.natAbs)) = some (clockOf o.natAbs) := by
      split_ifs with hwhole
      · rw [parseClock_hoursMinutes (htime.1.trans (by decide)) (htime.2.1.trans (by decide))]
        cases hclock : clockOf o.natAbs with
        | mk hour minute seconds microsecond =>
          rw [hclock] at hwhole
          obtain ⟨rfl, rfl⟩ := hwhole
          rfl
      · exact parseClock_print htime
    have hmark : (if o < 0 then '-' else '+') ≠ 'Z' := by
      split_ifs <;> decide
    have hzone : parseZone (printOffset (some o)) = (do
        let clock ← some (clockOf o.natAbs)
        if clock.micros < dayLength then
          some (some (if (if o < 0 then '-' else '+') = '-' then -(clock.micros : ℤ)
            else clock.micros))
        else none) := by
      rw [printOffset, parseZone, if_neg hmark, hparsed]
    rw [hzone, Option.bind_eq_bind, Option.bind_some, hmicros, if_pos hlimit, Option.some.injEq,
      Option.some.injEq]
    by_cases hneg : o < 0
    · rw [if_pos hneg, if_pos rfl]
      omega
    · rw [if_neg hneg, if_neg (by decide)]
      omega

theorem printOffset_marked (offset : Option ℤ) :
    ∀ c ∈ (printOffset offset).head?, isZoneMark c = true := by
  intro c hc
  cases offset with
  | none => exact absurd hc (by simp [printOffset])
  | some o =>
    rw [← Option.some.inj hc]
    split_ifs <;> decide

theorem parseTime_print {micros : ℕ} (hmicros : micros < dayLength) {offset : Option ℤ}
    (hoffset : ∀ o ∈ offset, o.natAbs < dayLength) :
    parseTime (printClock (clockOf micros) ++ printOffset offset) = some (micros, offset) := by
  obtain ⟨htake, hdrop⟩ :=
    split_zone
      (forall_printClock isZoneMark_digit (by decide) (by decide) (clockOf micros))
      (printOffset_marked offset)
  have htime := clockOf_isTime hmicros
  simp only [parseTime, htake, hdrop, parseClock_print htime, parseZone_print hoffset,
    Option.bind_eq_bind, Option.bind_some, if_pos htime, micros_clockOf]

/-! ### Readings -/

/-- The wall clock is in the calendar and the offset shorter than a day. -/
structure Reading.IsValid (reading : Reading) : Prop where
  days : 1 ≤ reading.wall / dayLength ∧ reading.wall / dayLength ≤ lastOrdinal
  offset : ∀ o ∈ reading.offset, o.natAbs < dayLength

theorem parseDate_print {days : ℕ} (hfirst : 1 ≤ days) (hlast : days ≤ lastOrdinal) :
    parseDate (four (civil days).1 ++ '-' :: two (civil days).2.1 ++ '-' :: two (civil days).2.2) =
      some days := by
  obtain ⟨hdate, hordinal⟩ := ordinal_civil hfirst hlast
  have hyear : (civil days).1 < 10000 := by have := hdate.years; omega
  have hmonth : (civil days).2.1 < 100 := by have := hdate.months; omega
  have hday : (civil days).2.2 < 100 := by
    have := hdate.days
    have := monthLengths_le (civil days).1 ((civil days).2.1 - 1)
    omega
  have hends := digits_two hday []
  rw [List.append_nil] at hends
  have hdigit : ∀ rest, two (civil days).2.1 ++ rest =
      digit ((civil days).2.1 / 10) :: digit (civil days).2.1 :: rest := fun _ => rfl
  simp only [parseDate, List.append_assoc, List.cons_append, digits_four hyear,
    Option.bind_eq_bind, Option.bind_some, List.head?_cons, decide_true, separator_cons]
  rw [hdigit]
  split
  · rename_i rest heq
    exact absurd (List.cons.inj heq).1 (digit_ne (by decide))
  · rw [← hdigit, digits_two hmonth]
    simp only [Option.bind_some, separator_cons, hends, if_true, calendarDate, if_pos hdate,
      hordinal]

theorem separatorIndex_print (reading : Reading) : separatorIndex (print reading) = some 10 := by
  simp [separatorIndex, print, four, two, digit_ne]

theorem print_date (reading : Reading) :
    let date := civil (reading.wall / dayLength).toNat
    (print reading).take 10 =
        four date.1 ++ '-' :: two date.2.1 ++ '-' :: two date.2.2 ∧
      (print reading).drop 10 =
        'T' :: (printClock (clockOf (reading.wall % dayLength).toNat) ++
          printOffset reading.offset) :=
  ⟨rfl, rfl⟩

theorem parse_print {reading : Reading} (h : reading.IsValid) :
    parse (print reading) = some reading := by
  obtain ⟨hdate, htime⟩ := print_date reading
  have hlength : (0 : ℤ) < dayLength := by decide
  have hmicros : (reading.wall % dayLength).toNat < dayLength := by
    have hlast := Int.emod_lt_of_pos reading.wall hlength
    omega
  obtain ⟨hfirst, hlast⟩ := h.days
  have hdays := parseDate_print (show 1 ≤ (reading.wall / dayLength).toNat by omega)
    (show (reading.wall / dayLength).toNat ≤ lastOrdinal by omega)
  have hwall : (((reading.wall / dayLength).toNat : ℤ) * dayLength +
      ((reading.wall % dayLength).toNat : ℤ)) = reading.wall := by
    rw [Int.toNat_of_nonneg (by omega),
      Int.toNat_of_nonneg (Int.emod_nonneg _ hlength.ne')]
    have hparts := Int.mul_ediv_add_emod reading.wall dayLength
    rw [mul_comm] at hparts
    exact hparts
  simp only [parse, separatorIndex_print, Option.bind_eq_bind, Option.bind_some, hdate, htime,
    hdays, parseTime_print hmicros h.offset, hwall]

end IsoFormat
