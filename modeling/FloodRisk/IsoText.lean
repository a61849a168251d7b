import FloodRisk.Lib.IsoZulu
import FloodRisk.Values
import Mathlib.Data.List.DropRight
import Mathlib.Tactic.IntervalCases

/-!
# Timestamps as texts (adapters/_helpers.py)

`datetime.fromisoformat` and `datetime.isoformat` between texts and the
timestamps of `Values`.
-/

namespace FloodRisk
open IsoFormat

/-- The first of January 1970. -/
def unixEpoch : ℤ := 719163 * dayLength

def ofReading (reading : Reading) : Datetime :=
  match reading.offset with
  | some offset => .aware (reading.wall - offset - unixEpoch)
  | none => .naive (reading.wall - unixEpoch)

def fromisoformat (text : String) : Option Datetime :=
  (parse text.toList).map ofReading

def isoformat (reading : Reading) : String := String.ofList (print reading)

/-- `text.replace("Z", "+00:00")`. -/
def replaceZulu (text : String) : String := String.ofList (spelledOut text.toList)

/-- `parse_datetime` of a text. -/
def parseDatetimeText (text : String) : Option Datetime :=
  if strip text = "" then none else fromisoformat (replaceZulu (strip text))

/-- The years of `datetime`, in UTC. -/
def InCalendar (instant : ℤ) : Prop :=
  1 ≤ (instant + unixEpoch) / dayLength ∧
    (instant + unixEpoch) / dayLength ≤ Calendar.lastOrdinal

instance (instant : ℤ) : Decidable (InCalendar instant) := inferInstanceAs (Decidable (_ ∧ _))

def utcReading (instant : ℤ) : Reading := ⟨instant + unixEpoch, some 0⟩

/-! ### Stripped texts -/

theorem strip_eq_self {text : String} (h : ∀ c ∈ text.toList, isWhitespace c = false) :
    strip text = text := by
  have hfront : ∀ chars : List Char, (∀ c ∈ chars, isWhitespace c = false) →
      chars.dropWhile isWhitespace = chars := by
    intro chars hchars
    cases chars with
    | nil => rfl
    | cons c rest => rw [List.dropWhile_cons, hchars c List.mem_cons_self]; rfl
  unfold strip
  rw [hfront _ h, hfront _ fun c hc => h c (List.mem_reverse.mp hc), List.reverse_reverse,
    String.ofList_toList]

theorem strip_of_fullmatchDigits {n : ℕ} {text : String} (h : fullmatchDigits n text = true) :
    strip text = text := by
  apply strip_eq_self
  intro c hc
  rw [fullmatchDigits, Bool.and_eq_true] at h
  have hdigit := List.all_eq_true.mp h.2 c hc
  simp only [Bool.and_eq_true, decide_eq_true_eq, Char.le_def, UInt32.le_iff_toNat_le] at hdigit
  have hlow : 48 ≤ c.toNat := hdigit.1
  have hhigh : c.toNat ≤ 57 := hdigit.2
  simp only [isWhitespace, decide_eq_false_iff_not, List.mem_cons, List.not_mem_nil, or_false]
  omega

theorem dropWhile_of_prefix {p : Char → Bool} {front chars : List Char} (h : front <+: chars)
    (hchars : chars.dropWhile p = chars) : front.dropWhile p = front := by
  cases front with
  | nil => rfl
  | cons c rest =>
    obtain ⟨more, rfl⟩ := h
    have hfirst : p c = false := by
      by_contra hc
      rw [List.cons_append, List.dropWhile_cons, if_pos (by simpa using hc)] at hchars
      have hlength := (List.dropWhile_suffix p (l := rest ++ more)).length_le
      rw [hchars, List.length_cons] at hlength
      omega
    rw [List.dropWhile_cons, hfirst]
    rfl

theorem strip_strip (text : String) : strip (strip text) = strip text := by
  have hfront := List.dropWhile_idempotent isWhitespace text.toList
  have hback := List.dropWhile_idempotent isWhitespace
    (text.toList.dropWhile isWhitespace).reverse
  have hprefix := List.reverse_prefix.mpr (List.dropWhile_suffix isWhitespace
    (l := (text.toList.dropWhile isWhitespace).reverse))
  rw [List.reverse_reverse] at hprefix
  have hkept := dropWhile_of_prefix hprefix hfront
  unfold strip
  rw [String.toList_ofList, hkept, List.reverse_reverse, hback]

/-! ### Printed texts -/

theorem plain_digit (n : ℕ) : isWhitespace (digit n) = false ∧ digit n ≠ 'Z' := by
  have hall : ∀ k < 10, isWhitespace (Nat.digitChar k) = false ∧ Nat.digitChar k ≠ 'Z' := by
    intro k hk
    interval_cases k <;> exact ⟨by rfl, by decide⟩
  exact hall _ (Nat.mod_lt n (by decide))

theorem plain_print (reading : Reading) :
    ∀ c ∈ print reading, isWhitespace c = false ∧ c ≠ 'Z' := by
  have hmarks : ['-', '+', ':', '.', 'T'].all (fun c => isWhitespace c = false ∧ c ≠ 'Z') = true := by
    decide
  exact forall_print plain_digit
    (fun c hc => of_decide_eq_true (List.all_eq_true.mp hmarks c hc)) reading

theorem strip_isoformat (reading : Reading) : strip (isoformat reading) = isoformat reading := by
  apply strip_eq_self
  intro c hc
  rw [isoformat, String.toList_ofList] at hc
  exact (plain_print reading c hc).1

theorem fromisoformat_isoformat {reading : Reading} (h : reading.IsValid) :
    fromisoformat (isoformat reading) = some (ofReading reading) := by
  rw [fromisoformat, isoformat, String.toList_ofList, parse_print h]
  rfl

theorem ne_empty_of_fromisoformat {text : String} {stamp : Datetime}
    (h : fromisoformat text = some stamp) : text ≠ "" := by
  rintro rfl
  exact absurd h (by simp [fromisoformat, parse, separatorIndex])

/-- The reading of `parse_datetime`, for a text that `fromisoformat` reads. -/
theorem parseDatetimeText_of_fromisoformat {text : String} {stamp : Datetime}
    (h : fromisoformat (strip text) = some stamp) :
    parseDatetimeText text =
      if 'Z' ∈ (strip text).toList.dropLast then none else some stamp := by
  obtain ⟨reading, hreading, rfl⟩ := Option.map_eq_some_iff.mp h
  have hne := ne_empty_of_fromisoformat h
  rw [parseDatetimeText, if_neg hne, fromisoformat, replaceZulu, String.toList_ofList,
    parse_spelledOut hreading]
  split_ifs <;> rfl

theorem parseDatetimeText_isoformat {reading : Reading} (h : reading.IsValid) :
    parseDatetimeText (isoformat reading) = some (ofReading reading) := by
  have hparsed := fromisoformat_isoformat h
  rw [← strip_isoformat] at hparsed
  have hnotMem : 'Z' ∉ (print reading).dropLast := fun hmem =>
    (plain_print reading 'Z' (List.dropLast_subset _ hmem)).2 rfl
  rw [parseDatetimeText_of_fromisoformat hparsed, strip_isoformat, isoformat,
    String.toList_ofList, if_neg hnotMem]

theorem utcReading_isValid {instant : ℤ} (h : InCalendar instant) : (utcReading instant).IsValid :=
  ⟨h, by
    rintro offset ⟨⟩
    decide⟩

theorem ofReading_utcReading (instant : ℤ) : ofReading (utcReading instant) = .aware instant := by
  simp [ofReading, utcReading]

end FloodRisk
