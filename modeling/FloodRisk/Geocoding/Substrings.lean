import FloodRisk.Geocoding.Chain
import FloodRisk.Geocoding.Normalization
import FloodRisk.Lib.OrderBy
import Mathlib.Data.Set.Card

/-!
# The alias lookup of the open data entries (domain/geocoding/providers.py)

`query_substring_aliases` lists the windows of the query, and
`fetch_postgis_open_data_candidates` compares them with the stored aliases.
-/

namespace FloodRisk.Geocoding

def substringMatchMinLength : ℕ := 4
def substringMatchMaxLength : ℕ := 40
def substringMatchMaxEntries : ℕ := 4096

/-- `query[start:stop]`. -/
def window (query : Text) (start stop : ℕ) : Text := (query.drop start).take (stop - start)

def insertWindow (seen : List Text) (entry : Text) : List Text :=
  if entry ∈ seen then seen else seen ++ [entry]

/-- The inner loop; `none` where there are too many entries. -/
def seeEnds (query : Text) (start : ℕ) : List Text → List ℕ → Option (List Text)
  | seen, [] => some seen
  | seen, stop :: rest =>
      if substringMatchMaxEntries < (insertWindow seen (window query start stop)).length then none
      else seeEnds query start (insertWindow seen (window query start stop)) rest

/-- The ends of the windows from a start. -/
def windowEnds (query : Text) (start : ℕ) : List ℕ :=
  List.range' (start + substringMatchMinLength)
    (min query.length (start + substringMatchMaxLength) + 1 - (start + substringMatchMinLength))

def seeStarts (query : Text) : List Text → List ℕ → Option (List Text)
  | seen, [] => some seen
  | seen, start :: rest =>
      match seeEnds query start seen (windowEnds query start) with
      | none => none
      | some seen => seeStarts query seen rest

def querySubstringAliases (normalizedQuery : Text) : List Text :=
  if normalizedQuery.length < substringMatchMinLength then []
  else
    (seeStarts normalizedQuery []
      (List.range (normalizedQuery.length - substringMatchMinLength + 1))).getD []

/-- A row of `geocoder_open_data_entries`. -/
structure OpenDataEntry where
  id : String
  name : String
  normalizedAliases : List Text
  precision : GeocodePrecision
  confidence : Option ℚ

/-- `a && b` of two arrays. -/
def overlaps (a b : List Text) : Bool := a.any fun place => place ∈ b

/-- `ORDER BY` of the query. -/
def entryBefore (queryAliases : List Text) (a b : OpenDataEntry) : Bool :=
  let direct := fun entry : OpenDataEntry =>
    if overlaps entry.normalizedAliases queryAliases then 0 else 1
  if direct a ≠ direct b then direct a < direct b
  else if precisionSortOrder a.precision ≠ precisionSortOrder b.precision then
    precisionSortOrder a.precision < precisionSortOrder b.precision
  else
    match a.confidence, b.confidence with
    | none, some _ => false
    | some _, none => true
    | none, none => a.name ≤ b.name
    | some x, some y => if x ≠ y then y < x else a.name ≤ b.name

def localOpenDataConfidence : GeocodePrecision → ℚ
  | .exactAddress => 91 / 100
  | .roadOrLane => 78 / 100
  | .poi => 84 / 100
  | .adminArea => 72 / 100
  | _ => 64 / 100

def openDataCandidate (entry : OpenDataEntry) : PlaceCandidate :=
  ⟨entry.id, entry.confidence.getD (localOpenDataConfidence entry.precision), entry.precision⟩

section Unicode

variable (nfkc casefold : Text → Text)

/-- `match_aliases`: `dict.fromkeys` keeps the first of each. -/
def matchAliases (request : GeocodeRequest) (queryAliases : List Text) : List Text :=
  (queryAliases ++ querySubstringAliases
    (compactTaiwanQueryKey nfkc casefold request.query.toList)).foldl insertWindow []

/-- The `WHERE` clause. -/
def matchesEntry (request : GeocodeRequest) (queryAliases : List Text) (entry : OpenDataEntry) :
    Bool :=
  overlaps entry.normalizedAliases (matchAliases nfkc casefold request queryAliases)

def fetchPostgisOpenDataCandidates (entries : List OpenDataEntry) (request : GeocodeRequest)
    (queryAliases : List Text) : List PlaceCandidate :=
  (limitBy (entryBefore queryAliases) (max 1 (min request.limit 20))
    (entries.filter (matchesEntry nfkc casefold request queryAliases))).map openDataCandidate

end Unicode

/-! ### The windows -/

variable {query place : Text} {seen windows : List Text}

/-- The substrings of the query that could be a stored alias. -/
def embedded (query : Text) : Set Text :=
  {s | s <:+: query ∧ substringMatchMinLength ≤ s.length ∧ s.length ≤ substringMatchMaxLength}

theorem mem_foldl_insertWindow : place ∈ windows.foldl insertWindow seen ↔
    place ∈ seen ∨ place ∈ windows := by
  induction windows generalizing seen with
  | nil => simp
  | cons first rest ih =>
    rw [List.foldl_cons, ih, insertWindow]
    split_ifs with hseen
    · constructor
      · rintro (h | h)
        · exact Or.inl h
        · exact Or.inr (List.mem_cons_of_mem _ h)
      · rintro (h | h)
        · exact Or.inl h
        · rcases List.mem_cons.mp h with rfl | h
          · exact Or.inl hseen
          · exact Or.inr h
    · simp only [List.mem_append, List.mem_cons, List.not_mem_nil, or_false, or_assoc]

theorem nodup_foldl_insertWindow (h : seen.Nodup) : (windows.foldl insertWindow seen).Nodup := by
  induction windows generalizing seen with
  | nil => exact h
  | cons first rest ih =>
    apply ih
    unfold insertWindow
    split_ifs with hseen
    · exact h
    · exact List.Nodup.append h (List.nodup_singleton _) (by simpa using hseen)

theorem length_le_foldl_insertWindow : seen.length ≤ (windows.foldl insertWindow seen).length := by
  induction windows generalizing seen with
  | nil => exact le_refl _
  | cons first rest ih =>
    have hone : seen.length ≤ (insertWindow seen first).length := by
      unfold insertWindow
      split_ifs
      · exact le_refl _
      · simp
    exact hone.trans ih

/-- The entries so far, unless they are too many. -/
def capped (seen : List Text) : Option (List Text) :=
  if substringMatchMaxEntries < seen.length then none else some seen

theorem seeEnds_eq (query : Text) (start : ℕ) (stops : List ℕ) (seen : List Text)
    (hseen : seen.length ≤ substringMatchMaxEntries) :
    seeEnds query start seen stops =
      capped ((stops.map (window query start)).foldl insertWindow seen) := by
  induction stops generalizing seen with
  | nil => exact (if_neg (by simpa using hseen)).symm
  | cons stop rest ih =>
    rw [seeEnds, List.map_cons, List.foldl_cons]
    by_cases hmany : substringMatchMaxEntries <
        (insertWindow seen (window query start stop)).length
    · have hle := @length_le_foldl_insertWindow (insertWindow seen (window query start stop))
        (rest.map (window query start))
      rw [if_pos hmany, capped, if_pos (by omega)]
    · rw [if_neg hmany]
      exact ih _ (by omega)

theorem seeStarts_eq (query : Text) (starts : List ℕ) (seen : List Text)
    (hseen : seen.length ≤ substringMatchMaxEntries) :
    seeStarts query seen starts = capped ((starts.flatMap fun start =>
      (windowEnds query start).map (window query start)).foldl insertWindow seen) := by
  induction starts generalizing seen with
  | nil => exact (if_neg (by simpa using hseen)).symm
  | cons start rest ih =>
    rw [seeStarts, seeEnds_eq query start _ seen hseen, List.flatMap_cons, List.foldl_append]
    by_cases hmany : substringMatchMaxEntries <
        (((windowEnds query start).map (window query start)).foldl insertWindow seen).length
    · have hle := @length_le_foldl_insertWindow
        (((windowEnds query start).map (window query start)).foldl insertWindow seen)
        (rest.flatMap fun start => (windowEnds query start).map (window query start))
      simp only [capped, hmany, if_true]
      rw [if_pos (by omega)]
    · simp only [capped, hmany, if_false]
      exact ih _ (by omega)

/-- The windows in the order of the loops. -/
def windowsOf (query : Text) : List Text :=
  (List.range (query.length - substringMatchMinLength + 1)).flatMap fun start =>
    (windowEnds query start).map (window query start)

/-- The windows are the substrings with a length between the bounds. -/
theorem mem_windows_iff (query : Text) (hlength : substringMatchMinLength ≤ query.length) :
    place ∈ windowsOf query ↔ place ∈ embedded query := by
  unfold windowsOf windowEnds substringMatchMinLength substringMatchMaxLength at *
  simp only [List.mem_flatMap, List.mem_range, List.mem_map, List.mem_range'_1]
  constructor
  · rintro ⟨start, hstart, stop, ⟨hle, hlt⟩, rfl⟩
    have hwindow : (window query start stop).length = stop - start := by
      rw [window, List.length_take, List.length_drop]
      omega
    refine ⟨?_, ?_, ?_⟩
    · exact (List.take_prefix _ _).isInfix.trans (List.drop_suffix start query).isInfix
    · unfold substringMatchMinLength
      omega
    · unfold substringMatchMaxLength
      omega
  · rintro ⟨⟨before, after, rfl⟩, hmin, hmax⟩
    unfold substringMatchMinLength at hmin
    unfold substringMatchMaxLength at hmax
    simp only [List.length_append] at *
    refine ⟨before.length, by omega, before.length + place.length, ⟨by omega, by omega⟩, ?_⟩
    have hlength : before.length + place.length - before.length = place.length := by omega
    rw [window, hlength, List.append_assoc, List.drop_left, List.take_left]

theorem capped_windows (hlength : substringMatchMinLength ≤ query.length) :
    ∃ distinct : List Text, distinct.Nodup ∧ (∀ s, s ∈ distinct ↔ s ∈ embedded query) ∧
      distinct.length = (embedded query).ncard ∧
      querySubstringAliases query = (capped distinct).getD [] := by
  have hnodup : ((windowsOf query).foldl insertWindow []).Nodup :=
    nodup_foldl_insertWindow List.nodup_nil
  have hmem : ∀ s, s ∈ (windowsOf query).foldl insertWindow [] ↔ s ∈ embedded query := by
    intro s
    rw [mem_foldl_insertWindow, mem_windows_iff query hlength]
    simp
  refine ⟨(windowsOf query).foldl insertWindow [], hnodup, hmem, ?_, ?_⟩
  · rw [← List.toFinset_card_of_nodup hnodup, ← Set.ncard_coe_finset]
    congr 1
    ext s
    rw [List.coe_toFinset]
    exact hmem s
  · rw [querySubstringAliases, if_neg (by omega), seeStarts_eq query _ [] (Nat.zero_le _)]
    rfl

/-- What is listed: all substrings that could be an alias, or none where there are too many. -/
theorem querySubstringAliases_spec (query : Text) :
    (querySubstringAliases query).Nodup ∧
      (∀ s ∈ querySubstringAliases query, s ∈ embedded query) ∧
      ((embedded query).ncard ≤ substringMatchMaxEntries →
        ∀ s ∈ embedded query, s ∈ querySubstringAliases query) ∧
      (substringMatchMaxEntries < (embedded query).ncard → querySubstringAliases query = []) := by
  by_cases hlength : substringMatchMinLength ≤ query.length
  · obtain ⟨distinct, hnodup, hmem, hcard, heq⟩ := capped_windows hlength
    rw [heq, ← hcard]
    unfold capped
    split_ifs with hmany
    · refine ⟨List.nodup_nil, fun s hs => absurd hs List.not_mem_nil, ?_, fun _ => rfl⟩
      intro hfew
      omega
    · refine ⟨hnodup, fun s hs => (hmem s).mp hs, fun _ s hs => (hmem s).mpr hs, ?_⟩
      intro hmany'
      omega
  · have hempty : querySubstringAliases query = [] := if_pos (by omega)
    rw [hempty]
    refine ⟨List.nodup_nil, fun s hs => absurd hs List.not_mem_nil, ?_, fun _ => rfl⟩
    rintro - s ⟨hoccurs, hmin, -⟩
    have hle := hoccurs.length_le
    omega

/-! ### The lookup -/

theorem matchesEntry_iff (nfkc casefold : Text → Text) (request : GeocodeRequest)
    (queryAliases : List Text) (entry : OpenDataEntry) :
    matchesEntry nfkc casefold request queryAliases entry = true ↔
      ∃ stored ∈ entry.normalizedAliases, stored ∈ queryAliases ∨ stored ∈ querySubstringAliases
        (compactTaiwanQueryKey nfkc casefold request.query.toList) := by
  unfold matchesEntry overlaps matchAliases
  rw [List.any_eq_true]
  apply exists_congr
  intro stored
  rw [decide_eq_true_eq, mem_foldl_insertWindow, List.mem_append]
  simp

theorem mem_fetch_of_short (nfkc casefold : Text → Text) (entries : List OpenDataEntry)
    (request : GeocodeRequest) (queryAliases : List Text) {entry : OpenDataEntry}
    (hshort : (fetchPostgisOpenDataCandidates nfkc casefold entries request queryAliases).length <
      max 1 (min request.limit 20))
    (hentry : entry ∈ entries) (h : matchesEntry nfkc casefold request queryAliases entry = true) :
    openDataCandidate entry ∈
      fetchPostgisOpenDataCandidates nfkc casefold entries request queryAliases := by
  unfold fetchPostgisOpenDataCandidates at hshort ⊢
  rw [List.length_map] at hshort
  exact List.mem_map_of_mem (mem_limitBy_of_short hshort (List.mem_filter.mpr ⟨hentry, h⟩))

theorem matching_of_mem_fetch (nfkc casefold : Text → Text) (entries : List OpenDataEntry)
    (request : GeocodeRequest) (queryAliases : List Text) {candidate : PlaceCandidate}
    (h : candidate ∈ fetchPostgisOpenDataCandidates nfkc casefold entries request queryAliases) :
    ∃ entry ∈ entries, openDataCandidate entry = candidate ∧
      matchesEntry nfkc casefold request queryAliases entry = true := by
  obtain ⟨entry, hentry, heq⟩ := List.mem_map.mp h
  obtain ⟨hmem, hmatches⟩ := List.mem_filter.mp (mem_of_limitBy hentry)
  exact ⟨entry, hmem, heq, hmatches⟩

/-- A stored alias equals a query alias or occurs in the query. -/
def Searched (query : Text) (queryAliases : List Text) (entry : OpenDataEntry) : Prop :=
  ∃ stored ∈ entry.normalizedAliases, stored ∈ queryAliases ∨ stored <:+: query

/-- The lookup by substrings finds what a search for the stored aliases in the query finds. -/
theorem substring_lookup_is_search (nfkc casefold : Text → Text) (query : Text) :
    (querySubstringAliases query).Nodup ∧
      (∀ s ∈ querySubstringAliases query, 4 ≤ s.length ∧ s.length ≤ 40) ∧
      ((embedded query).ncard ≤ 4096 → ∀ stored : Text, 4 ≤ stored.length → stored.length ≤ 40 →
        (overlaps [stored] (querySubstringAliases query) = true ↔ stored <:+: query)) ∧
      (4096 < (embedded query).ncard → querySubstringAliases query = []) ∧
      ∀ request queryAliases entries,
        compactTaiwanQueryKey nfkc casefold request.query.toList = query →
        (embedded query).ncard ≤ 4096 →
        (∀ entry ∈ entries, ∀ stored ∈ entry.normalizedAliases,
          4 ≤ stored.length ∧ stored.length ≤ 40) →
        let fetched := fetchPostgisOpenDataCandidates nfkc casefold entries request queryAliases
        (∀ entry ∈ entries, matchesEntry nfkc casefold request queryAliases entry = true ↔
          Searched query queryAliases entry) ∧
        (∀ candidate ∈ fetched, ∃ entry ∈ entries, openDataCandidate entry = candidate ∧
          Searched query queryAliases entry) ∧
        (fetched.length < max 1 (min request.limit 20) →
          ∀ entry ∈ entries, Searched query queryAliases entry →
            openDataCandidate entry ∈ fetched) := by
  obtain ⟨hnodup, hsound, hcomplete, hmany⟩ := querySubstringAliases_spec query
  have hfind : (embedded query).ncard ≤ 4096 → ∀ stored : Text, 4 ≤ stored.length →
      stored.length ≤ 40 → (stored ∈ querySubstringAliases query ↔ stored <:+: query) := by
    intro hfew stored hmin hmax
    constructor
    · exact fun h => (hsound stored h).1
    · exact fun h => hcomplete hfew stored ⟨h, hmin, hmax⟩
  refine ⟨hnodup, fun s hs => (hsound s hs).2, ?_, hmany, ?_⟩
  · intro hfew stored hmin hmax
    rw [← hfind hfew stored hmin hmax]
    simp [overlaps]
  · intro request queryAliases entries hquery hfew hbounds fetched
    have hmatches : ∀ entry ∈ entries,
        matchesEntry nfkc casefold request queryAliases entry = true ↔
          Searched query queryAliases entry := by
      intro entry hentry
      rw [matchesEntry_iff, hquery]
      apply exists_congr
      intro stored
      rw [and_congr_right_iff]
      intro hstored
      obtain ⟨hmin, hmax⟩ := hbounds entry hentry stored hstored
      rw [hfind hfew stored hmin hmax]
    refine ⟨hmatches, ?_, ?_⟩
    · intro candidate hcandidate
      obtain ⟨entry, hentry, heq, h⟩ :=
        matching_of_mem_fetch nfkc casefold entries request queryAliases hcandidate
      exact ⟨entry, hentry, heq, (hmatches entry hentry).mp h⟩
    · intro hshort entry hentry h
      exact mem_fetch_of_short nfkc casefold entries request queryAliases hshort hentry
        ((hmatches entry hentry).mpr h)

def cityHallRequest : GeocodeRequest := ⟨"台北市信義區市府路45號", 5, by decide⟩

def cityHallEntry : OpenDataEntry :=
  ⟨"1", "市府路", ["信義區市府路".toList], .roadOrLane, none⟩

/-- An entry with an alias inside the query. -/
theorem cityHall_found : (overlaps ["信義區市府路".toList]
      (querySubstringAliases cityHallRequest.query.toList) = true ↔
        "信義區市府路".toList <:+: cityHallRequest.query.toList) ∧
    (matchesEntry id id cityHallRequest [] cityHallEntry = true ↔
      Searched cityHallRequest.query.toList [] cityHallEntry) := by
  have hfew : (embedded cityHallRequest.query.toList).ncard ≤ 4096 := by
    by_contra hmany
    have hnone := (querySubstringAliases_spec cityHallRequest.query.toList).2.2.2 (by
      unfold substringMatchMaxEntries
      omega)
    revert hnone
    decide +kernel
  obtain ⟨-, -, hfind, -, hlookup⟩ :=
    substring_lookup_is_search id id cityHallRequest.query.toList
  have hbounds : ∀ entry ∈ [cityHallEntry], ∀ stored ∈ entry.normalizedAliases,
      4 ≤ stored.length ∧ stored.length ≤ 40 := by decide
  exact ⟨hfind hfew _ (by decide) (by decide),
    (hlookup cityHallRequest [] [cityHallEntry] (by decide +kernel) hfew hbounds).1 _
      List.mem_cons_self⟩

end FloodRisk.Geocoding
