import FloodRisk.Adapters.DryReadings
import FloodRisk.Adapters.RunResult
import FloodRisk.CivilIot.Pages

/-!
# What a walk over the pages has counted
-/

namespace FloodRisk.CivilIot
open Python Adapters

variable {runtime : StaRuntime} {collection : Collection} {sourceUrl : Text} {server : Server}
  {startUrl url link : Text} {walk walk' : PageWalk} {pages : List (Text × Page)} {page : Page}
  {payload : Value} {stationIds : List (Option Text)}

/-! ### The manifest -/

/-- What the loop over the ids of a page does to the walk. -/
structure Counted (stationIds : List (Option Text)) (walk walk' : PageWalk) : Prop where
  others : ∃ ids seen missing duplicates, walk' = { walk with
    stationIds := ids
    sourceItemsSeen := seen
    missingStationIdCount := missing
    duplicateStationIdCount := duplicates }
  seen : walk'.sourceItemsSeen = walk.sourceItemsSeen + stationIds.length
  missing : walk.missingStationIdCount ≤ walk'.missingStationIdCount
  duplicates : walk.duplicateStationIdCount ≤ walk'.duplicateStationIdCount
  manifest : walk'.missingStationIdCount = 0 → walk'.duplicateStationIdCount = 0 →
    walk'.stationIds.map some = walk.stationIds.map some ++ stationIds
  nodup : walk.stationIds.Nodup → walk'.stationIds.Nodup
  origin : ∀ stationId ∈ walk'.stationIds, stationId ∈ walk.stationIds ∨ some stationId ∈ stationIds

theorem counted_nil (walk : PageWalk) : Counted [] walk walk where
  others := ⟨_, _, _, _, rfl⟩
  seen := rfl
  missing := le_rfl
  duplicates := le_rfl
  manifest := fun _ _ => (List.append_nil _).symm
  nodup := id
  origin := fun _ h => Or.inl h

theorem countStation_none (walk : PageWalk) : countStation walk none = { walk with
    sourceItemsSeen := walk.sourceItemsSeen + 1
    missingStationIdCount := walk.missingStationIdCount + 1 } := rfl

theorem countStation_old {stationId : Text} (h : stationId ∈ walk.stationIds) :
    countStation walk (some stationId) = { walk with
      sourceItemsSeen := walk.sourceItemsSeen + 1
      duplicateStationIdCount := walk.duplicateStationIdCount + 1 } :=
  if_pos h

theorem countStation_new {stationId : Text} (h : stationId ∉ walk.stationIds) :
    countStation walk (some stationId) = { walk with
      sourceItemsSeen := walk.sourceItemsSeen + 1
      stationIds := walk.stationIds ++ [stationId] } :=
  if_neg h

theorem counted_fold (stationIds : List (Option Text)) (walk : PageWalk) :
    Counted stationIds walk (stationIds.foldl countStation walk) := by
  induction stationIds generalizing walk with
  | nil => exact counted_nil walk
  | cons stationId rest ih =>
    rw [List.foldl_cons]
    cases stationId with
    | none =>
      have h := ih (countStation walk none)
      rw [countStation_none] at h ⊢
      obtain ⟨ids, seen, missing, duplicates, hothers⟩ := h.others
      have hmissing := h.missing
      refine ⟨⟨ids, seen, missing, duplicates, hothers⟩, ?_, ?_, h.duplicates, ?_, h.nodup, ?_⟩
      · rw [h.seen, List.length_cons]
        dsimp only
        omega
      · dsimp only at hmissing
        omega
      · intro hnone
        dsimp only at hmissing
        omega
      · intro id hid
        exact (h.origin id hid).imp_right (List.mem_cons_of_mem _)
    | some stationId =>
      by_cases hold : stationId ∈ walk.stationIds
      · have h := ih (countStation walk (some stationId))
        rw [countStation_old hold] at h ⊢
        obtain ⟨ids, seen, missing, duplicates, hothers⟩ := h.others
        have hduplicates := h.duplicates
        refine ⟨⟨ids, seen, missing, duplicates, hothers⟩, ?_, h.missing, ?_, ?_, h.nodup, ?_⟩
        · rw [h.seen, List.length_cons]
          dsimp only
          omega
        · dsimp only at hduplicates
          omega
        · intro hnone htwice
          dsimp only at hduplicates
          omega
        · intro id hid
          exact (h.origin id hid).imp_right (List.mem_cons_of_mem _)
      · have h := ih (countStation walk (some stationId))
        rw [countStation_new hold] at h ⊢
        obtain ⟨ids, seen, missing, duplicates, hothers⟩ := h.others
        refine ⟨⟨ids, seen, missing, duplicates, hothers⟩, ?_, h.missing, h.duplicates, ?_, ?_, ?_⟩
        · rw [h.seen, List.length_cons]
          dsimp only
          omega
        · intro hnone htwice
          rw [h.manifest hnone htwice, List.map_append, List.append_assoc]
          rfl
        · intro hnodup
          apply h.nodup
          rw [List.nodup_append]
          refine ⟨hnodup, List.nodup_singleton _, ?_⟩
          intro id hid other hother heq
          rw [List.mem_singleton.mp hother] at heq
          exact hold (heq ▸ hid)
        · intro id hid
          rcases h.origin id hid with hmem | hmem
          · rcases List.mem_append.mp hmem with hmem | hmem
            · exact Or.inl hmem
            · rw [List.mem_singleton.mp hmem]
              exact Or.inr List.mem_cons_self
          · exact Or.inr (List.mem_cons_of_mem _ hmem)

/-! ### The totals -/

theorem countTotal_others (walk : PageWalk) (count : Option (Option ℕ)) :
    ∃ totals invalid, countTotal walk count = { walk with
      upstreamTotals := totals
      upstreamCountInvalid := invalid } := by
  cases count with
  | none => exact ⟨_, _, rfl⟩
  | some count =>
    cases count with
    | none => exact ⟨_, _, rfl⟩
    | some total => exact ⟨_, _, rfl⟩

/-- The totals of a walk that can be resolved are those of its pages. -/
structure Totals (pages : List (Text × Page)) (walk : PageWalk) : Prop where
  invalid : ∀ entry ∈ pages, entry.2.count = some none → walk.upstreamCountInvalid = true
  total : ∀ entry ∈ pages, ∀ total, entry.2.count = some (some total) →
    total ∈ walk.upstreamTotals

theorem Totals.countTotal (h : Totals pages walk) (url : Text) (page : Page) :
    Totals (pages ++ [(url, page)]) (CivilIot.countTotal walk page.count) := by
  constructor
  · intro entry hentry hcount
    rcases List.mem_append.mp hentry with hold | hnew
    · have hinvalid := h.invalid entry hold hcount
      cases hpage : page.count with
      | none => exact hinvalid
      | some count =>
        cases count with
        | none => rfl
        | some total => exact hinvalid
    · rw [List.mem_singleton.mp hnew] at hcount
      rw [hcount]
      rfl
  · intro entry hentry total hcount
    rcases List.mem_append.mp hentry with hold | hnew
    · have htotal := h.total entry hold total hcount
      cases hpage : page.count with
      | none => exact htotal
      | some count =>
        cases count with
        | none => exact htotal
        | some other =>
          show total ∈ if _ then _ else _
          split_ifs
          · exact htotal
          · exact List.mem_append_left _ htotal
    · rw [List.mem_singleton.mp hnew] at hcount
      rw [hcount]
      show total ∈ if _ then _ else _
      split_ifs with hmem
      · exact hmem
      · exact List.mem_append_right _ List.mem_cons_self

/-! ### The pages of a walk -/

variable (runtime collection sourceUrl server) in
/-- The pages that are read when next links are followed from a URL, and the link after them. -/
inductive Follows (url : Text) : List (Text × Page) → Option Text → Prop where
  | start : Follows url [] (some url)
  | page {pages : List (Text × Page)} {link : Text} {payload : Value} {page : Page} :
      Follows url pages (some link) → server link = some payload →
      readPage runtime collection sourceUrl payload = .ok page →
      Follows url (pages ++ [(link, page)]) page.nextLink

variable (runtime collection sourceUrl server) in
/-- The walk after the pages that it has read. -/
structure WalkInv (url : Text) (walk : PageWalk) (pages : List (Text × Page)) : Prop where
  follows : Follows runtime collection sourceUrl server url pages walk.nextUrl
  keys : List.Forall₂ (fun entry key => withCountQuery runtime entry.1 = .ok key) pages walk.seenUrls
  once : walk.seenUrls.Nodup
  fetched : walk.pagesFetched = pages.length
  records : walk.records = pages.flatMap fun entry => entry.2.records
  seen : walk.sourceItemsSeen = (pages.flatMap fun entry => entry.2.stationIds).length
  manifest : walk.missingStationIdCount = 0 → walk.duplicateStationIdCount = 0 →
    walk.stationIds.map some = pages.flatMap fun entry => entry.2.stationIds
  nodup : walk.stationIds.Nodup
  origin : ∀ stationId ∈ walk.stationIds, ∃ entry ∈ pages, some stationId ∈ entry.2.stationIds
  totals : Totals pages walk
  complete : walk.paginationComplete = true → walk.nextUrl = none ∧ pages ≠ []

theorem walkInv_start (url : Text) :
    WalkInv runtime collection sourceUrl server url (startWalk url) [] where
  follows := .start
  keys := .nil
  once := List.nodup_nil
  fetched := rfl
  records := rfl
  seen := rfl
  manifest := fun _ _ => rfl
  nodup := List.nodup_nil
  origin := fun _ h => absurd h List.not_mem_nil
  totals := ⟨fun _ h => absurd h List.not_mem_nil, fun _ h => absurd h List.not_mem_nil⟩
  complete := fun h => absurd h Bool.false_ne_true

/-- What a turn does: it reads the page of the link, under a key that is new. -/
theorem walkTurn_cases (hurl : walk.nextUrl = some link)
    (h : walkTurn runtime collection sourceUrl server walk = .ok walk') :
    ∃ key payload page, withCountQuery runtime link = .ok key ∧ key ∉ walk.seenUrls ∧
      server link = some payload ∧ readPage runtime collection sourceUrl payload = .ok page ∧
      walk' = takePage walk key page := by
  unfold walkTurn at h
  rw [hurl] at h
  dsimp only at h
  obtain ⟨key, hkey, h⟩ := Outcome.bind_eq_ok.mp h
  rw [mapError_eq_ok] at hkey
  split_ifs at h with hseen
  cases hpayload : server link with
  | none =>
    rw [hpayload] at h
    cases h
  | some payload =>
    rw [hpayload] at h
    obtain ⟨page, hpage, h⟩ := Outcome.bind_eq_ok.mp h
    cases h
    exact ⟨key, payload, page, hkey, hseen, rfl, hpage, rfl⟩

/-- The fields of a walk that has taken a page, before its link is followed. -/
theorem takePage_eq (walk : PageWalk) (key : Text) (page : Page) :
    ∃ counted, Counted page.stationIds (countTotal { walk with
        seenUrls := walk.seenUrls ++ [key]
        pagesFetched := walk.pagesFetched + 1 } page.count) counted ∧
      takePage walk key page = { counted with
        records := counted.records ++ page.records
        nextUrl := page.nextLink
        paginationComplete := counted.paginationComplete || page.nextLink.isNone } :=
  ⟨_, counted_fold _ _, rfl⟩

theorem WalkInv.take {key : Text}
    (h : WalkInv runtime collection sourceUrl server url walk pages) (hurl : walk.nextUrl = some link)
    (hkey : withCountQuery runtime link = .ok key) (hnew : key ∉ walk.seenUrls)
    (hpayload : server link = some payload)
    (hpage : readPage runtime collection sourceUrl payload = .ok page) :
    WalkInv runtime collection sourceUrl server url (takePage walk key page)
      (pages ++ [(link, page)]) := by
  obtain ⟨counted, hcounted, htake⟩ := takePage_eq walk key page
  obtain ⟨ids, seen, missing, duplicates, hids⟩ := hcounted.others
  obtain ⟨totals, invalid, htotals⟩ := countTotal_others { walk with
    seenUrls := walk.seenUrls ++ [key]
    pagesFetched := walk.pagesFetched + 1 } page.count
  have hgrown : Totals pages { walk with
      seenUrls := walk.seenUrls ++ [key]
      pagesFetched := walk.pagesFetched + 1 } := ⟨h.totals.invalid, h.totals.total⟩
  have hmore := hgrown.countTotal link page
  have hseen := hcounted.seen
  have hmissing := hcounted.missing
  have hduplicates := hcounted.duplicates
  have hmanifest := hcounted.manifest
  have hnodup := hcounted.nodup
  have horigin := hcounted.origin
  rw [htotals] at hids hmore hseen hmissing hduplicates hmanifest hnodup horigin
  subst hids
  dsimp only at hseen hmissing hduplicates hmanifest hnodup horigin
  rw [htake]
  constructor
  · exact .page (hurl ▸ h.follows) hpayload hpage
  · exact List.rel_append h.keys (.cons hkey .nil)
  · rw [List.nodup_append]
    refine ⟨h.once, List.nodup_singleton key, ?_⟩
    intro old hold other hother heq
    rw [List.mem_singleton.mp hother] at heq
    exact hnew (heq ▸ hold)
  · rw [List.length_append, ← h.fetched]
    rfl
  · rw [List.flatMap_append, ← h.records, List.flatMap_singleton]
  · rw [List.flatMap_append, List.length_append, ← h.seen, List.flatMap_singleton]
    exact hseen
  · intro hnone htwice
    dsimp only at hnone htwice
    have hold : walk.missingStationIdCount = 0 := by omega
    have hold' : walk.duplicateStationIdCount = 0 := by omega
    rw [List.flatMap_append, ← h.manifest hold hold', List.flatMap_singleton]
    exact hmanifest hnone htwice
  · exact hnodup h.nodup
  · intro stationId hid
    rcases horigin stationId hid with hold | hpageId
    · obtain ⟨entry, hentry, hmem⟩ := h.origin stationId hold
      exact ⟨entry, List.mem_append_left _ hentry, hmem⟩
    · exact ⟨(link, page), List.mem_append_right _ List.mem_cons_self, hpageId⟩
  · exact ⟨hmore.invalid, hmore.total⟩
  · intro hcomplete
    refine ⟨?_, by simp⟩
    rcases Bool.or_eq_true _ _ ▸ hcomplete with hold | hlast
    · have hended := (h.complete hold).1
      rw [hurl] at hended
      cases hended
    · exact Option.isNone_iff_eq_none.mp hlast

theorem walkInv_of_reaches (h : While.Reaches walkGuard (walkTurn runtime collection sourceUrl server)
    (startWalk url) walk) :
    ∃ pages, WalkInv runtime collection sourceUrl server url walk pages := by
  have hstep : ∀ s t, (∃ pages, WalkInv runtime collection sourceUrl server url s pages) →
      While.Turn walkGuard (walkTurn runtime collection sourceUrl server) s t →
        ∃ pages, WalkInv runtime collection sourceUrl server url t pages := by
    rintro s t ⟨pages, hs⟩ ⟨hguard, hturn⟩
    obtain ⟨link, hlink⟩ := Option.isSome_iff_exists.mp hguard
    obtain ⟨key, payload, page, hkey, hnew, hpayload, hpage, rfl⟩ := walkTurn_cases hlink hturn
    exact ⟨_, hs.take hlink hkey hnew hpayload hpage⟩
  exact @While.invariant_of_reaches _ _ _ _
    (fun walk => ∃ pages, WalkInv runtime collection sourceUrl server url walk pages) _ _ hstep
    ⟨[], walkInv_start url⟩ h

end FloodRisk.CivilIot
