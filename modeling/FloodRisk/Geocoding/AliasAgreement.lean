import FloodRisk.Geocoding.AliasSets

/-!
# Aliases in common

Every step of the normalization depends on the spelling of its input only.
-/

namespace FloodRisk.Geocoding
open Relation Replace

variable {nfkc casefold f g : Text → Text} {value other s t : Text}

/-- A map of the letters that leaves those of a section, and turns separators into
separators. -/
structure Folding (f : Text → Text) : Prop where
  append : ∀ x y, f (x ++ y) = f x ++ f y
  plain : ∀ c ∈ plainLetters, f [c] = [c]
  separators : ∀ c, isSeparator c = true → ∀ a ∈ f [c], isSeparator a = true

/-- What is used of NFKC and of case folding. -/
structure Unicode (nfkc casefold : Text → Text) : Prop where
  folding_nfkc : Folding nfkc
  folding_casefold : Folding casefold
  nfkc_idempotent : ∀ x, nfkc (nfkc x) = nfkc x
  idempotent : ∀ x, casefold (nfkc (casefold (nfkc x))) = casefold (nfkc x)
  nfkc_mark : nfkc ['\ufeff'] = ['\ufeff']
  casefold_mark : casefold ['\ufeff'] = ['\ufeff']
  mark_of_casefold : ∀ x, '\ufeff' ∈ casefold x → '\ufeff' ∈ x

/-- The spelling of the result depends on the spelling of the argument only. -/
def Respects (f : Text → Text) : Prop :=
  ∀ s t, spelling isSeparator s = spelling isSeparator t →
    spelling isSeparator (f s) = spelling isSeparator (f t)

theorem not_separator_of_plain : ∀ c ∈ plainLetters, isSeparator c = false := by
  have hall : plainLetters.all (fun c => !isSeparator c) = true := by decide
  intro c hc
  simpa using List.all_eq_true.mp hall c hc

theorem Respects.comp (hf : Respects f) (hg : Respects g) : Respects fun x => f (g x) :=
  fun s t h => hf _ _ (hg s t h)

/-! ### The steps of the normalization -/

theorem Folding.nil (hf : Folding f) : f [] = [] := by
  have happend := congrArg List.length (hf.append [] [])
  rw [List.append_nil, List.length_append] at happend
  exact List.length_eq_zero_iff.mp (by omega)

theorem Folding.map_plain (hf : Folding f) {x : Text} (hx : ∀ c ∈ x, c ∈ plainLetters) :
    f x = x := by
  induction x with
  | nil => exact hf.nil
  | cons c x ih =>
    have happend := hf.append [c] x
    rw [hf.plain c (hx c List.mem_cons_self),
      ih fun a ha => hx a (List.mem_cons_of_mem _ ha)] at happend
    exact happend

theorem Folding.cons_plain (hf : Folding f) {c : Char} (hc : c ∈ plainLetters) (x : Text) :
    f (c :: x) = c :: f x := by
  have happend := hf.append [c] x
  rw [hf.plain c hc] at happend
  exact happend

/-- A numeral of a section and the digits it is spelled with. -/
theorem Folding.spelling_numeral (hf : Folding f) {entry : Char × Text} {after : Text}
    (hentry : entry ∈ sectionDigits) (hafter : after.head? = some '段')
    (h : spelling isSeparator (f after) = spelling isSeparator t) :
    spelling isSeparator (f (entry.2 ++ after)) = spelling isSeparator (entry.1 :: t) := by
  obtain ⟨rest, rfl⟩ := List.head?_eq_some_iff.mp hafter
  obtain ⟨hplain, -, htai, hdigits, -⟩ := sectionDigits_entry entry hentry
  have hmap : f entry.2 = entry.2 :=
    hf.map_plain fun a ha => (sectionDigits_digits entry hentry a ha).1
  have hsection : spelling isSeparator t = '段' :: spelling isSeparator (f rest) := by
    rw [← h, hf.cons_plain (by decide)]
    exact spelling_section not_separator_of_plain
  have hletter : letter entry.1 (spelling isSeparator t) = entry.2 := by
    unfold letter
    rw [hsection, htai, hdigits]
    rfl
  rw [hf.append, hmap, spelling_digits not_separator_of_plain hentry, h,
    spelling_cons_kept (not_separator_of_plain _ hplain), hletter]

/-- The spelling of a text in place of the text. -/
theorem Folding.spelling_spelling (hf : Folding f) (value : Text) :
    spelling isSeparator (f (spelling isSeparator value)) = spelling isSeparator (f value) := by
  induction value with
  | nil => rfl
  | cons c value ih =>
    have hsplit : f (c :: value) = f [c] ++ f value := hf.append [c] value
    cases hdrop : isSeparator c with
    | true =>
      rw [spelling_cons_dropped hdrop, hsplit, spelling_dropped_append (hf.separators c hdrop), ih]
    | false =>
      rw [spelling_cons_kept hdrop]
      by_cases hsection : (spelling isSeparator value).head? = some '段' ∧
          ∃ e, digitsOf (asTai c) = some e
      · obtain ⟨hhead, e, he⟩ := hsection
        have hentry : (asTai c, e) ∈ sectionDigits := mem_of_lookup he
        have hc : asTai c = c := by
          unfold asTai
          split_ifs with htai
          · have hnone : digitsOf '台' = none := by decide
            rw [asTai, if_pos htai, hnone] at he
            cases he
          · rfl
        have hletter : letter c (spelling isSeparator value) = e := by
          rw [letter, if_pos hhead, he]
          rfl
        rw [hc] at hentry
        rw [hletter, hf.cons_plain (sectionDigits_entry _ hentry).1]
        exact hf.spelling_numeral hentry hhead ih
      · rw [letter_eq_self hsection, hf.append, hsplit]
        refine (spelling_append_congr _ ih).trans ?_
        by_cases htai : c = '臺'
        · subst htai
          rw [hf.plain '臺' (by decide)]
          have hother : f [asTai '臺'] = ['台'] := hf.plain '台' (by decide)
          rw [hother]
          exact spelling_tai not_separator_of_plain
        · rw [asTai, if_neg htai]

theorem Folding.respects (hf : Folding f) : Respects f := by
  intro s t h
  rw [← hf.spelling_spelling s, h, hf.spelling_spelling t]

def withoutMark (text : Text) : Text := text.filter fun c => c ≠ '\ufeff'

theorem folding_withoutMark : Folding withoutMark where
  append := List.filter_append
  plain := by
    have hall : plainLetters.all (fun c => withoutMark [c] = [c]) = true := by decide
    intro c hc
    exact of_decide_eq_true (List.all_eq_true.mp hall c hc)
  separators := by
    intro c hc a ha
    rw [List.mem_singleton.mp (List.mem_of_mem_filter ha)]
    exact hc

theorem folding_id : Folding id where
  append := fun _ _ => rfl
  plain := fun _ _ => rfl
  separators := by
    intro c hc a ha
    rw [List.mem_singleton.mp ha]
    exact hc

theorem spelling_stripText (text : Text) :
    spelling isSeparator (stripText text) = spelling isSeparator text := by
  have hfilter : ∀ l : Text, (l.dropWhile isWhitespace).filter (fun c => !isSeparator c) =
      l.filter fun c => !isSeparator c := by
    intro l
    induction l with
    | nil => rfl
    | cons c l ih =>
      rw [List.dropWhile_cons]
      split_ifs with hc
      · rw [ih]
        simp [isSeparator, hc]
      · rfl
  unfold spelling stripText
  rw [List.filter_reverse, hfilter, List.filter_reverse, List.reverse_reverse, hfilter]

theorem spelling_kept (text : Text) :
    spelling isSeparator (text.filter fun c => !isSeparator c) = spelling isSeparator text := by
  unfold spelling
  rw [List.filter_filter]
  simp

/-- A byte order mark is dropped before a map or after it. -/
theorem Folding.withoutMark_comm (hf : Folding f) (hmark : f ['\ufeff'] = ['\ufeff']) (x : Text) :
    withoutMark (f (withoutMark x)) = withoutMark (f x) := by
  induction x with
  | nil => rfl
  | cons c x ih =>
    have hsplit : f (c :: x) = f [c] ++ f x := hf.append [c] x
    rw [hsplit, folding_withoutMark.append, ← ih]
    by_cases hc : c = '\ufeff'
    · subst hc
      rw [hmark]
      rfl
    · have hkept : withoutMark (c :: x) = [c] ++ withoutMark x := List.filter_cons_of_pos (by simpa)
      rw [hkept, hf.append, folding_withoutMark.append]

/-- What is left of the normalization when spelling is disregarded. -/
def folded (nfkc casefold : Text → Text) (value : Text) : Text :=
  casefold (withoutMark (nfkc value))

section Unicode

variable (unicode : Unicode nfkc casefold)
include unicode

theorem spelling_compact (value : Text) :
    spelling isSeparator (compactTaiwanQueryKey nfkc casefold value) =
      spelling isSeparator (folded nfkc casefold value) := by
  unfold compactTaiwanQueryKey normalizeTaiwanAddressText
  rw [spelling_kept, spelling_of_rewrite not_separator_of_plain (.toTai _)]
  exact unicode.folding_casefold.respects _ _ (spelling_stripText _)

theorem respects_folded : Respects (folded nfkc casefold) :=
  unicode.folding_casefold.respects.comp
    (folding_withoutMark.respects.comp unicode.folding_nfkc.respects)

theorem respects_compact : Respects (compactTaiwanQueryKey nfkc casefold) := by
  intro s t h
  rw [spelling_compact unicode, spelling_compact unicode]
  exact respects_folded unicode s t h

theorem folded_eq (value : Text) :
    folded nfkc casefold value = withoutMark (casefold (nfkc value)) := by
  rw [← unicode.folding_casefold.withoutMark_comm unicode.casefold_mark]
  symm
  apply List.filter_eq_self.mpr
  intro c hc
  have hne : c ≠ '\ufeff' := by
    rintro rfl
    have hmem := List.mem_filter.mp (unicode.mark_of_casefold _ hc)
    simp at hmem
  simpa using hne

theorem folded_folded (value : Text) :
    folded nfkc casefold (folded nfkc casefold value) = folded nfkc casefold value := by
  have hinner : withoutMark (nfkc (folded nfkc casefold value)) =
      withoutMark (nfkc (casefold (nfkc value))) := by
    rw [folded_eq unicode value]
    exact unicode.folding_nfkc.withoutMark_comm unicode.nfkc_mark _
  calc folded nfkc casefold (folded nfkc casefold value)
      = casefold (withoutMark (nfkc (casefold (nfkc value)))) := congrArg casefold hinner
    _ = withoutMark (casefold (nfkc (casefold (nfkc value)))) := folded_eq unicode _
    _ = withoutMark (casefold (nfkc value)) := by rw [unicode.idempotent]
    _ = folded nfkc casefold value := (folded_eq unicode value).symm

/-- The spelling of the compacted text. -/
theorem spelling_compact_text (value : Text) :
    spelling isSeparator (compactTaiwanQueryKey nfkc casefold (stripText (nfkc value))) =
      spelling isSeparator (compactTaiwanQueryKey nfkc casefold value) := by
  rw [respects_compact unicode _ _ (spelling_stripText (nfkc value)), spelling_compact unicode,
    spelling_compact unicode, folded, unicode.nfkc_idempotent, folded]

theorem spelling_compact_compact (value : Text) :
    spelling isSeparator (compactTaiwanQueryKey nfkc casefold
        (compactTaiwanQueryKey nfkc casefold value)) =
      spelling isSeparator (compactTaiwanQueryKey nfkc casefold value) := by
  rw [respects_compact unicode _ _ (spelling_compact unicode value), spelling_compact unicode,
    folded_folded unicode, spelling_compact unicode]

end Unicode

/-! ### The aliases -/

theorem spelling_of_compact (value : Text) :
    spelling isSeparator (compactTaiwanQueryKey nfkc casefold value) =
      toDigits digitsOf (compactTaiwanQueryKey nfkc casefold value) := by
  have htai : ∀ c ∈ compactTaiwanQueryKey nfkc casefold value, asTai c = c := by
    intro c hc
    have hmem := List.mem_of_mem_filter hc
    rw [normalizeTaiwanAddressText, replaceAll_singleton] at hmem
    obtain ⟨a, -, ha⟩ := List.mem_map.mp hmem
    unfold asTai
    split_ifs with hne
    · rw [hne] at ha
      split_ifs at ha with hold
      · exact absurd ha (by decide)
      · exact absurd ha hold
    · rfl
  have hkept : (compactTaiwanQueryKey nfkc casefold value).filter (fun c => !isSeparator c) =
      compactTaiwanQueryKey nfkc casefold value := by
    unfold compactTaiwanQueryKey
    rw [List.filter_filter]
    simp
  rw [spelling, hkept, List.map_congr_left htai, List.map_id']

theorem compact_eq_nil_iff (value : Text) :
    compactTaiwanQueryKey nfkc casefold value = [] ↔
      spelling isSeparator (compactTaiwanQueryKey nfkc casefold value) = [] := by
  constructor
  · intro h
    rw [h]
    rfl
  · intro h
    cases hcompact : compactTaiwanQueryKey nfkc casefold value with
    | nil => rfl
    | cons c rest =>
      have hkept : isSeparator c = false := by
        have hmem : c ∈ compactTaiwanQueryKey nfkc casefold value := hcompact ▸ List.mem_cons_self
        simpa using (List.mem_filter.mp hmem).2
      rw [hcompact, spelling_cons_kept hkept] at h
      exact absurd (List.append_eq_nil_iff.mp h).1 (letter_ne_nil _ _)

/-- Without truncation the aliases are the compacted candidates that are not empty. -/
theorem addAliases_untruncated (limit : ℕ) (candidates aliases : List Text)
    (hlimit : aliases.length + candidates.length < limit) :
    ∃ found, addAliases nfkc casefold limit aliases candidates = (found, false) ∧
      ∀ a, a ∈ found ↔ a ∈ aliases ∨
        a ≠ [] ∧ ∃ candidate ∈ candidates, compactTaiwanQueryKey nfkc casefold candidate = a := by
  induction candidates generalizing aliases with
  | nil => exact ⟨aliases, rfl, fun a => by simp⟩
  | cons candidate rest ih =>
    rw [List.length_cons] at hlimit
    unfold addAliases
    by_cases hnew : (!(compactTaiwanQueryKey nfkc casefold candidate).isEmpty &&
        decide (compactTaiwanQueryKey nfkc casefold candidate ∉ aliases)) = true
    · have hshort : ¬ limit ≤ aliases.length + 1 := by omega
      have hlength : (aliases ++ [compactTaiwanQueryKey nfkc casefold candidate]).length =
          aliases.length + 1 := by simp
      obtain ⟨found, hfound, hmem⟩ :=
        ih (aliases ++ [compactTaiwanQueryKey nfkc casefold candidate]) (by omega)
      refine ⟨found, by rw [if_pos hnew, if_neg hshort, hfound], fun a => ?_⟩
      have hne : compactTaiwanQueryKey nfkc casefold candidate ≠ [] := by
        rw [Bool.and_eq_true] at hnew
        simpa using hnew.1
      rw [hmem a, List.mem_append, List.mem_singleton]
      constructor
      · rintro ((h | rfl) | ⟨ha, other, hother, heq⟩)
        · exact Or.inl h
        · exact Or.inr ⟨hne, candidate, List.mem_cons_self, rfl⟩
        · exact Or.inr ⟨ha, other, List.mem_cons_of_mem _ hother, heq⟩
      · rintro (h | ⟨ha, other, hother, heq⟩)
        · exact Or.inl (Or.inl h)
        · rcases List.mem_cons.mp hother with rfl | hother
          · exact Or.inl (Or.inr heq.symm)
          · exact Or.inr ⟨ha, other, hother, heq⟩
    · obtain ⟨found, hfound, hmem⟩ := ih aliases (by omega)
      refine ⟨found, by rw [if_neg hnew, hfound], fun a => ?_⟩
      rw [hmem a]
      constructor
      · rintro (h | ⟨ha, other, hother, heq⟩)
        · exact Or.inl h
        · exact Or.inr ⟨ha, other, List.mem_cons_of_mem _ hother, heq⟩
      · rintro (h | ⟨ha, other, hother, heq⟩)
        · exact Or.inl h
        · rcases List.mem_cons.mp hother with rfl | hother
          · left
            subst heq
            by_contra hout
            exact hnew (by simp [ha, hout])
          · exact Or.inr ⟨ha, other, hother, heq⟩

/-- The aliases of one value where nothing is cut off. -/
theorem exists_normalizedAliases (nfkc casefold : Text → Text) (value : Text) :
    ∃ enough, ∀ turns limit, enough ≤ turns → enough ≤ limit →
      ∃ aliases, normalizedAliases nfkc casefold turns limit [] [value] = some aliases ∧
        ∀ a, a ∈ aliases ↔ a ≠ [] ∧ ∃ candidate, Closure (seeds nfkc casefold value) candidate ∧
          compactTaiwanQueryKey nfkc casefold candidate = a := by
  obtain ⟨variants, -, hvariants, enough, hrun⟩ := exists_addressVariants nfkc casefold value
  refine ⟨enough + variants.length + 1, fun turns limit hturns hlimit => ?_⟩
  obtain ⟨found, hfound, hmem⟩ := @addAliases_untruncated nfkc casefold limit variants []
    (by rw [List.length_nil]; omega)
  refine ⟨found, ?_, fun a => ?_⟩
  · simp only [normalizedAliases, hrun turns (by omega), hfound]
  · rw [hmem a]
    simp only [List.not_mem_nil, false_or, hvariants]

section Unicode

variable (unicode : Unicode nfkc casefold)
include unicode

/-- The form of the compacted text with 台 and with digits. -/
theorem closure_spelling
    (h : compactTaiwanQueryKey nfkc casefold (stripText (nfkc value)) ≠ []) :
    Closure (seeds nfkc casefold value)
      (spelling isSeparator (compactTaiwanQueryKey nfkc casefold (stripText (nfkc value)))) := by
  have htext : stripText (nfkc value) ≠ [] := by
    intro hnil
    have hempty : compactTaiwanQueryKey nfkc casefold [] = [] := by
      rw [compact_eq_nil_iff, spelling_compact unicode, folded, unicode.folding_nfkc.nil]
      exact congrArg (spelling isSeparator) unicode.folding_casefold.nil
    rw [hnil] at h
    exact h hempty
  refine ⟨compactTaiwanQueryKey nfkc casefold (stripText (nfkc value)), ?_, h, ?_⟩
  · simp [seeds, htext]
  · rw [spelling_of_compact]
    exact rewrites_to_digits _

theorem compact_text_eq_nil_iff (value : Text) :
    compactTaiwanQueryKey nfkc casefold (stripText (nfkc value)) = [] ↔
      compactTaiwanQueryKey nfkc casefold value = [] := by
  rw [compact_eq_nil_iff, spelling_compact_text unicode, ← compact_eq_nil_iff]

/-- Without a letter that is kept there is no alias. -/
theorem compact_candidate_eq_nil {candidate : Text}
    (h : compactTaiwanQueryKey nfkc casefold value = [])
    (hcandidate : Closure (seeds nfkc casefold value) candidate) :
    compactTaiwanQueryKey nfkc casefold candidate = [] := by
  have htext := (compact_text_eq_nil_iff unicode value).mpr h
  obtain ⟨seed, hseed, hne, hrewrites⟩ := hcandidate
  have hseedText : seed = stripText (nfkc value) := by
    simp only [seeds, htext] at hseed
    split_ifs at hseed
    · cases hseed
    · rcases List.mem_cons.mp hseed with heq | hlast
      · exact heq
      · exact absurd (List.mem_singleton.mp hlast) hne
  have hspelling := spelling_of_rewrites not_separator_of_plain hrewrites
  rw [compact_eq_nil_iff, respects_compact unicode _ _ hspelling, hseedText, htext]
  rfl

/-- For every value the variants are found, each once, and are the closure of the seeds that
are not empty; and two values of one spelling have an alias in common, exactly when anything
is left of them. -/
theorem spelling_does_not_decide :
    (∀ value, ∃ variants : List Text, variants.Nodup ∧
      (∀ t, t ∈ variants ↔ Closure (seeds nfkc casefold value) t) ∧
      ∃ enough, ∀ turns, enough ≤ turns →
        addressVariants nfkc casefold turns value = some variants) ∧
    ∀ value other, spelling isSeparator value = spelling isSeparator other →
      ∃ enough, ∀ turns limit, enough ≤ turns → enough ≤ limit → ∃ aliases others,
        normalizedAliases nfkc casefold turns limit [] [value] = some aliases ∧
        normalizedAliases nfkc casefold turns limit [] [other] = some others ∧
        ((∃ a ∈ aliases, a ∈ others) ↔ compactTaiwanQueryKey nfkc casefold value ≠ []) := by
  refine ⟨exists_addressVariants nfkc casefold, ?_⟩
  intro value other hspelling
  obtain ⟨enough, hrun⟩ := exists_normalizedAliases nfkc casefold value
  obtain ⟨enough', hrun'⟩ := exists_normalizedAliases nfkc casefold other
  refine ⟨max enough enough', fun turns limit hturns hlimit => ?_⟩
  obtain ⟨aliases, haliases, hmem⟩ := hrun turns limit (by omega) (by omega)
  obtain ⟨others, hothers, hmem'⟩ := hrun' turns limit (by omega) (by omega)
  refine ⟨aliases, others, haliases, hothers, ?_⟩
  constructor
  · rintro ⟨a, ha, -⟩ hnone
    obtain ⟨hne, candidate, hcandidate, heq⟩ := (hmem a).mp ha
    exact hne (heq ▸ compact_candidate_eq_nil unicode hnone hcandidate)
  · intro hsome
    have hcompact := respects_compact unicode _ _ hspelling
    have hother : compactTaiwanQueryKey nfkc casefold other ≠ [] := by
      intro hnone
      rw [compact_eq_nil_iff, ← hcompact, ← compact_eq_nil_iff] at hnone
      exact hsome hnone
    have hclosure := closure_spelling unicode ((compact_text_eq_nil_iff unicode value).not.mpr hsome)
    have hclosure' :=
      closure_spelling unicode ((compact_text_eq_nil_iff unicode other).not.mpr hother)
    rw [spelling_compact_text unicode] at hclosure hclosure'
    rw [← hcompact] at hclosure'
    have hne : compactTaiwanQueryKey nfkc casefold
        (spelling isSeparator (compactTaiwanQueryKey nfkc casefold value)) ≠ [] := by
      intro hnone
      have hfold : spelling isSeparator (spelling isSeparator
          (compactTaiwanQueryKey nfkc casefold value)) =
            spelling isSeparator (compactTaiwanQueryKey nfkc casefold value) :=
        folding_id.spelling_spelling _
      rw [compact_eq_nil_iff, respects_compact unicode _ _ hfold,
        spelling_compact_compact unicode, ← compact_eq_nil_iff] at hnone
      exact hsome hnone
    exact ⟨_, (hmem _).mpr ⟨hne, _, hclosure, rfl⟩, (hmem' _).mpr ⟨hne, _, hclosure', rfl⟩⟩

end Unicode

theorem unicode_id : Unicode id id where
  folding_nfkc := folding_id
  folding_casefold := folding_id
  nfkc_idempotent := fun _ => rfl
  idempotent := fun _ => rfl
  nfkc_mark := rfl
  casefold_mark := rfl
  mark_of_casefold := fun _ h => h

/-- An address with 臺 and 一段, and one with 台 and 1段. -/
theorem zhongshan_aliases : ∃ enough, ∀ turns limit, enough ≤ turns → enough ≤ limit →
    ∃ aliases others,
      normalizedAliases id id turns limit [] ["臺北市中山路 一段10號".toList] = some aliases ∧
      normalizedAliases id id turns limit [] ["台北市中山路1段10號".toList] = some others ∧
      ((∃ a ∈ aliases, a ∈ others) ↔
        compactTaiwanQueryKey id id "臺北市中山路 一段10號".toList ≠ []) :=
  (spelling_does_not_decide unicode_id).2 _ _ (by decide)

/-- Two values that are all separators: one spelling and no alias. -/
theorem separators_have_no_alias :
    spelling isSeparator "()".toList = spelling isSeparator "、".toList ∧
      normalizedAliases id id 4 16 [] ["()".toList] = some [] ∧
      normalizedAliases id id 4 16 [] ["、".toList] = some [] ∧
      compactTaiwanQueryKey id id "()".toList = [] ∧
      addressVariants id id 4 "()".toList = some ["()".toList] := by
  decide +kernel

end FloodRisk.Geocoding
