import FloodRisk.Lib.IsoFormat

/-! # Spelling out the offset `Z`

Some readers replace every `Z` of a text by `+00:00` before they parse it.
That is the same reading unless `Z` is the character between date and time. -/

namespace IsoFormat

def spelledOut (text : List Char) : List Char :=
  text.flatMap fun c => if c = 'Z' then ['+', '0', '0', ':', '0', '0'] else [c]

theorem spelledOut_of_notMem {text : List Char} (h : 'Z' ∉ text) : spelledOut text = text := by
  induction text with
  | nil => rfl
  | cons c rest ih =>
    have hc : c ≠ 'Z' := fun heq => h (heq ▸ List.mem_cons_self)
    have hrest := ih fun hmem => h (List.mem_cons_of_mem _ hmem)
    unfold spelledOut at *
    rw [List.flatMap_cons, hrest, if_neg hc, List.singleton_append]

theorem spelledOut_split {before after : List Char} (h : 'Z' ∉ before) :
    spelledOut (before ++ 'Z' :: after) =
      before ++ ['+', '0', '0', ':', '0', '0'] ++ spelledOut after := by
  have hbefore := spelledOut_of_notMem h
  unfold spelledOut at *
  rw [List.flatMap_append, List.flatMap_cons, hbefore, if_pos rfl, List.append_assoc]

/-! ### Characters of what is read -/

theorem digits_spec {n v : ℕ} {text rest : List Char} (h : digits n text = some (v, rest)) :
    ∃ front, text = front ++ rest ∧ front.length = n ∧ ∀ c ∈ front, c.isDigit = true := by
  unfold digits at h
  split_ifs at h with hdigits
  cases h
  exact ⟨text.take n, (List.take_append_drop n text).symm, hdigits.1,
    List.all_eq_true.mp hdigits.2⟩

theorem mem_digits {n v : ℕ} {text rest : List Char} (h : digits n text = some (v, rest)) {c : Char}
    (hc : c ∈ text) (hdigit : c.isDigit = false) : c ∈ rest := by
  obtain ⟨front, rfl, -, hfront⟩ := digits_spec h
  cases List.mem_append.mp hc with
  | inl hmem => exact absurd ((hfront c hmem).symm.trans hdigit) (by decide)
  | inr hmem => exact hmem

theorem mem_separator {mark : Char} {used : Bool} {text rest : List Char}
    (h : separator mark used text = some rest) {c : Char} (hc : c ∈ text) (hne : c ≠ mark) :
    c ∈ rest := by
  unfold separator at h
  cases used with
  | false =>
    cases h
    exact hc
  | true =>
    cases text with
    | nil => exact absurd hc List.not_mem_nil
    | cons first others =>
      simp only [if_true] at h
      split_ifs at h with hfirst
      cases h
      cases List.mem_cons.mp hc with
      | inl heq => exact absurd (heq.trans hfirst) hne
      | inr hmem => exact hmem

theorem parseDate_notMem {text : List Char} {days : ℕ} (h : parseDate text = some days) :
    'Z' ∉ text := by
  intro hz
  simp only [parseDate, Option.bind_eq_bind, Option.bind_eq_some_iff] at h
  obtain ⟨⟨year, rest⟩, hyear, afterYear, hdash, h⟩ := h
  have hmem := mem_separator hdash (mem_digits hyear hz (by decide)) (by decide)
  split at h
  · rename_i week
    simp only [Option.bind_eq_some_iff] at h
    obtain ⟨⟨number, afterWeek⟩, hweek, h⟩ := h
    have hmem := mem_digits hweek ((List.mem_cons.mp hmem).resolve_left (by decide)) (by decide)
    split_ifs at h with hempty
    · exact List.ne_nil_of_mem hmem hempty
    · simp only [Option.bind_eq_some_iff] at h
      obtain ⟨beforeDay, hdash, ⟨day, afterDay⟩, hday, h⟩ := h
      have hmem := mem_digits hday (mem_separator hdash hmem (by decide)) (by decide)
      split_ifs at h with hempty
      exact List.ne_nil_of_mem hmem hempty
  · simp only [Option.bind_eq_some_iff] at h
    obtain ⟨⟨month, afterMonth⟩, hmonth, beforeDay, hdash, ⟨day, afterDay⟩, hday, h⟩ := h
    have hmem := mem_digits hmonth hmem (by decide)
    have hmem := mem_digits hday (mem_separator hdash hmem (by decide)) (by decide)
    split_ifs at h with hempty
    exact List.ne_nil_of_mem hmem hempty

theorem parseFraction_notMem {text : List Char} {micros : ℕ} (h : parseFraction text = some micros) :
    'Z' ∉ text := by
  intro hz
  cases text with
  | nil => exact List.not_mem_nil hz
  | cons mark rest =>
    simp only [parseFraction] at h
    split_ifs at h with hfraction
    obtain ⟨hmark, -, hdigits⟩ := hfraction
    cases List.mem_cons.mp hz with
    | inl heq =>
      subst heq
      exact absurd hmark (by decide)
    | inr hmem => exact absurd (List.all_eq_true.mp hdigits 'Z' hmem) (by decide)

theorem parseClock_notMem {text : List Char} {clock : Clock} (h : parseClock text = some clock) :
    'Z' ∉ text := by
  intro hz
  simp only [parseClock, Option.bind_eq_bind, Option.bind_eq_some_iff] at h
  obtain ⟨⟨hour, rest⟩, hhour, h⟩ := h
  have hmem := mem_digits hhour hz (by decide)
  split_ifs at h with hempty
  · exact List.ne_nil_of_mem hmem hempty
  · simp only [Option.bind_eq_some_iff] at h
    obtain ⟨beforeMinute, hcolon, ⟨minute, afterMinute⟩, hminute, h⟩ := h
    have hmem := mem_digits hminute (mem_separator hcolon hmem (by decide)) (by decide)
    split_ifs at h with hempty
    · exact List.ne_nil_of_mem hmem hempty
    · simp only [Option.bind_eq_some_iff] at h
      obtain ⟨beforeSeconds, hcolon, ⟨seconds, fraction⟩, hseconds, micros, hfraction, -⟩ := h
      have hmem := mem_digits hseconds (mem_separator hcolon hmem (by decide)) (by decide)
      exact parseFraction_notMem hfraction hmem

/-! ### Times -/

theorem parseTime_nil : parseTime [] = none := rfl

/-- A time with a `Z` ends with it, and reads the same with `+00:00`. -/
theorem parseTime_zulu {before after : List Char} {reading : ℕ × Option ℤ} (hbefore : 'Z' ∉ before)
    (h : parseTime (before ++ 'Z' :: after) = some reading) :
    after = [] ∧ parseTime (before ++ ['+', '0', '0', ':', '0', '0']) = some reading := by
  simp only [parseTime, Option.bind_eq_bind, Option.bind_eq_some_iff] at h
  obtain ⟨clock, hclock, offset, hzone, h⟩ := h
  cases hmark : before.find? isZoneMark with
  | none =>
    have hunmarked : ∀ c ∈ before, isZoneMark c = false := by
      intro c hc
      exact Bool.eq_false_iff.mpr (List.find?_eq_none.mp hmark c hc)
    obtain ⟨htake, hdrop⟩ := split_zone hunmarked
      (show ∀ c ∈ ('Z' :: after).head?, isZoneMark c = true by
        rintro c ⟨⟩
        rfl)
    rw [htake] at hclock
    rw [hdrop] at hzone
    simp only [parseZone, if_true] at hzone
    split_ifs at hzone with hend
    obtain ⟨htake, hdrop⟩ := split_zone hunmarked
      (show ∀ c ∈ ['+', '0', '0', ':', '0', '0'].head?, isZoneMark c = true by
        rintro c ⟨⟩
        rfl)
    have hutc : parseZone ['+', '0', '0', ':', '0', '0'] = some (some 0) := by decide
    refine ⟨hend, ?_⟩
    simp only [parseTime, htake, hdrop, hclock, hutc, hzone, Option.bind_eq_bind, Option.bind_some]
    exact h
  | some mark =>
    obtain ⟨hzonemark, front, rest, rfl, hfront⟩ := List.find?_eq_some_iff_append.mp hmark
    obtain ⟨-, hdrop⟩ := split_zone (fun c hc => by simpa using hfront c hc)
      (show ∀ c ∈ (mark :: (rest ++ 'Z' :: after)).head?, isZoneMark c = true by
        rintro c ⟨⟩
        exact hzonemark)
    have hne : mark ≠ 'Z' := by
      rintro rfl
      exact hbefore (List.mem_append_right _ List.mem_cons_self)
    rw [List.append_assoc, List.cons_append, hdrop] at hzone
    simp only [parseZone, if_neg hne, Option.bind_eq_bind, Option.bind_eq_some_iff] at hzone
    obtain ⟨offsetClock, hoffset, -⟩ := hzone
    exact absurd (List.mem_append_right _ List.mem_cons_self) (parseClock_notMem hoffset)

/-- An offset between date and time leaves no time. -/
theorem parseTime_offset {after : List Char} {reading : ℕ × Option ℤ}
    (h : parseTime after = some reading) :
    parseTime (['0', '0', ':', '0', '0'] ++ spelledOut after) = none := by
  simp only [parseTime, Option.bind_eq_bind, Option.bind_eq_some_iff] at h
  obtain ⟨clock, hclock, -⟩ := h
  obtain ⟨⟨hour, rest⟩, hhour, -⟩ := Option.bind_eq_some_iff.mp hclock
  obtain ⟨front, hfront, hlength, hdigits⟩ := digits_spec hhour
  cases after with
  | nil =>
    have hempty := congrArg List.length hfront
    simp only [List.takeWhile_nil, List.length_nil, List.length_append] at hempty
    omega
  | cons first others =>
    have hdigit : first.isDigit = true := by
      cases front with
      | nil => exact absurd hlength (by decide)
      | cons d ds =>
        have hfirst : first = d := by
          rw [List.takeWhile_cons] at hfront
          split_ifs at hfront
          · exact (List.cons.inj hfront).1
          · exact absurd hfront (by simp)
        rw [hfirst]
        exact hdigits d List.mem_cons_self
    have hne : ∀ c : Char, c.isDigit = false → first ≠ c := by
      rintro c hc rfl
      exact absurd (hc.symm.trans hdigit) (by decide)
    have hspelled : spelledOut (first :: others) = first :: spelledOut others := by
      unfold spelledOut
      rw [List.flatMap_cons, if_neg (hne 'Z' (by decide)), List.singleton_append]
    have hunmarked : isZoneMark first = false := by
      simp [isZoneMark, hne '+' (by decide), hne '-' (by decide), hne 'Z' (by decide)]
    have hclock : ∀ c ∈ ['0', '0', ':', '0', '0'], (!isZoneMark c) = true :=
      List.all_eq_true.mp (by decide)
    have htake : (['0', '0', ':', '0', '0'] ++ spelledOut (first :: others)).takeWhile
          (fun c => !isZoneMark c) =
        two 0 ++ ':' :: (two 0 ++
          first :: (spelledOut others).takeWhile fun c => !isZoneMark c) := by
      rw [hspelled, List.takeWhile_append_of_pos hclock, List.takeWhile_cons, hunmarked]
      rfl
    have hnone : parseClock (two 0 ++ ':' :: (two 0 ++
        first :: (spelledOut others).takeWhile fun c => !isZoneMark c)) = none := by
      simp [parseClock, digits_two, separator, hne ':' (by decide)]
    rw [parseTime, htake, hnone]
    rfl

/-! ### Dates with times -/

/-- The date ends where it did, whatever mark follows it and whatever follows the mark. -/
theorem separatorIndex_append {before after other : List Char} {mark first : Char} {ends : ℕ}
    (h : separatorIndex (before ++ mark :: after) = some ends)
    (hends : ends = before.length ∨ ends < before.length ∧ after = [])
    (hmark : mark.isDigit = false ∧ mark ≠ '-') (hfirst : first.isDigit = false ∧ first ≠ '-') :
    separatorIndex (before ++ first :: other) = some ends := by
  have hbound : 7 ≤ before.length := by
    simp only [separatorIndex, List.length_append, List.length_cons] at h
    split_ifs at h <;> cases h <;> omega
  have hfourth : ∀ tail, (before ++ tail)[4]? = before[4]? := fun tail =>
    List.getElem?_append_left (by omega)
  have hfifth : ∀ tail, (before ++ tail)[5]? = before[5]? := fun tail =>
    List.getElem?_append_left (by omega)
  have hshort : ∀ tail : List Char, ¬ before.length + (tail.length + 1) < 7 := fun tail => by omega
  have hseven : ∀ tail : List Char, before.length + (tail.length + 1) ≠ 7 := fun tail => by omega
  simp only [separatorIndex, hfourth, hfifth, List.length_append, List.length_cons,
    if_neg (hshort _), if_neg (hseven _)] at h ⊢
  by_cases hdash : before[4]? = some '-'
  · rw [if_pos hdash] at h ⊢
    by_cases hweek : before[5]? = some 'W'
    · rw [if_pos hweek] at h ⊢
      have height : 8 ≤ before.length := by
        split_ifs at h <;> cases h <;> omega
      have hsame : (before ++ first :: other)[8]? = some '-' ↔
          (before ++ mark :: after)[8]? = some '-' := by
        rcases height.eq_or_lt with heq | hlt
        · rw [List.getElem?_append_right heq.ge, List.getElem?_append_right heq.ge, ← heq]
          simp [hmark.2, hfirst.2]
        · rw [List.getElem?_append_left hlt, List.getElem?_append_left hlt]
      by_cases hsecond : (before ++ mark :: after)[8]? = some '-'
      · rw [if_pos hsecond] at h
        rw [if_pos (hsame.mpr hsecond)]
        have hnine : 9 ≤ before.length := by
          by_contra hless
          rw [List.getElem?_append_right (by omega), show 8 - before.length = 0 by omega,
            List.getElem?_cons_zero, Option.some.injEq] at hsecond
          exact hmark.2 hsecond
        rw [if_neg (by omega)] at h ⊢
        have hten : 10 ≤ before.length := by
          by_contra hless
          rcases hends with heq | ⟨hlt, rfl⟩
          · split_ifs at h <;> cases h <;> omega
          · rw [List.getElem?_eq_none (by rw [List.length_append, List.length_singleton]; omega)] at h
            cases h
            omega
        have hany : ((before ++ first :: other)[10]?).any Char.isDigit =
            ((before ++ mark :: after)[10]?).any Char.isDigit := by
          rcases hten.eq_or_lt with heq | hlt
          · rw [List.getElem?_append_right heq.ge, List.getElem?_append_right heq.ge, ← heq]
            simp [hmark.1, hfirst.1]
          · rw [List.getElem?_append_left hlt, List.getElem?_append_left hlt]
        rw [hany]
        exact h
      · rw [if_neg hsecond] at h
        rw [if_neg (mt hsame.mp hsecond)]
        exact h
    · rw [if_neg hweek] at h ⊢
      exact h
  · rw [if_neg hdash] at h ⊢
    by_cases hbasic : before[4]? = some 'W'
    · rw [if_pos hbasic] at h ⊢
      have hdigits : ((before ++ first :: other).drop 7).takeWhile Char.isDigit =
          ((before ++ mark :: after).drop 7).takeWhile Char.isDigit := by
        rw [List.drop_append_of_le_length hbound, List.drop_append_of_le_length hbound,
          List.takeWhile_append, List.takeWhile_append]
        simp [hmark.1, hfirst.1]
      rw [hdigits]
      exact h
    · rw [if_neg hbasic] at h ⊢
      exact h

theorem parse_spelledOut {text : List Char} {reading : Reading} (h : parse text = some reading) :
    parse (spelledOut text) = if 'Z' ∈ text.dropLast then none else some reading := by
  by_cases hz : 'Z' ∈ text
  · obtain ⟨before, after, rfl, hbefore⟩ := List.eq_append_cons_of_mem hz
    have hparts := h
    simp only [parse, Option.bind_eq_bind, Option.bind_eq_some_iff] at hparts
    obtain ⟨ends, hends, days, hdays, hrest⟩ := hparts
    have hle : ends ≤ before.length := by
      by_contra hless
      obtain ⟨more, hmore⟩ := Nat.exists_eq_add_of_lt (not_le.mp hless)
      rw [hmore, List.take_append, List.take_of_length_le (by omega),
        show before.length + more + 1 - before.length = more + 1 by omega,
        List.take_succ_cons] at hdays
      exact parseDate_notMem hdays (List.mem_append_right _ List.mem_cons_self)
    rw [spelledOut_split hbefore, List.append_assoc]
    rw [List.take_append_of_le_length hle] at hdays
    rw [List.drop_append_of_le_length hle] at hrest
    rcases hle.eq_or_lt with rfl | hlt
    · have hindex : separatorIndex (before ++
          '+' :: (['0', '0', ':', '0', '0'] ++ spelledOut after)) = some before.length :=
        separatorIndex_append hends (Or.inl rfl) (by decide) (by decide)
      rw [List.drop_length, List.nil_append] at hrest
      simp only [Option.bind_eq_some_iff] at hrest
      obtain ⟨time, htime, -⟩ := hrest
      have hlast : 'Z' ∈ (before ++ 'Z' :: after).dropLast := by
        cases after with
        | nil => exact absurd (parseTime_nil.symm.trans htime) (by simp)
        | cons c others =>
          rw [List.dropLast_append_cons, List.dropLast_cons_cons]
          exact List.mem_append_right _ List.mem_cons_self
      rw [if_pos hlast]
      show parse (before ++ '+' :: (['0', '0', ':', '0', '0'] ++ spelledOut after)) = none
      simp only [parse, hindex, Option.bind_eq_bind, Option.bind_some, List.take_left,
        List.drop_left, parseTime_offset htime, Option.bind_none, Option.bind_fun_none]
    · cases hdrop : before.drop ends with
      | nil => exact absurd (List.drop_eq_nil_iff.mp hdrop) (not_le.mpr hlt)
      | cons mark rest =>
        rw [hdrop, List.cons_append] at hrest
        simp only [Option.bind_eq_some_iff] at hrest
        obtain ⟨time, htime, hreading⟩ := hrest
        have hnotMem : 'Z' ∉ rest := fun hmem => hbefore
          (List.mem_of_mem_drop (hdrop ▸ List.mem_cons_of_mem _ hmem))
        obtain ⟨rfl, hspelled⟩ := parseTime_zulu hnotMem htime
        have hindex : separatorIndex (before ++ '+' :: ['0', '0', ':', '0', '0']) = some ends :=
          separatorIndex_append hends (Or.inr ⟨hlt, rfl⟩) (by decide) (by decide)
        rw [List.dropLast_concat, if_neg hbefore]
        show parse (before ++ '+' :: ['0', '0', ':', '0', '0']) = some reading
        simp only [parse, hindex, Option.bind_eq_bind, Option.bind_some,
          List.take_append_of_le_length hle, hdays, List.drop_append_of_le_length hle, hdrop,
          List.cons_append, hspelled]
        exact hreading
  · rw [spelledOut_of_notMem hz, if_neg fun hmem => hz (List.dropLast_subset text hmem), h]

end IsoFormat
