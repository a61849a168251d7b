import FloodRisk.CivilIot.PageRuns
import FloodRisk.CivilIot.Readable
import Mathlib.Data.Set.Finite.Basic

/-!
# Complete inventories

What a proof says of the pages behind it, and when a walk answers at all.
-/

namespace FloodRisk.CivilIot
open Python Adapters

variable {runtime : StaRuntime} {collection : Collection} {sourceUrl : Text} {server : Server}
  {startUrl url link : Text} {walk : PageWalk} {pages : List (Text × Page)} {page : Page}
  {payload : Value} {result : ThingsFetchResult}

/-! ### One page -/

theorem readPage_spec (h : readPage runtime collection sourceUrl payload = .ok page) :
    pageItems collection payload = .ok page.items ∧
      page.items.mapM (itemStationId runtime (holdsThings collection page.items)) =
        .ok page.stationIds ∧
      pageRecords runtime collection sourceUrl page.items = .ok page.records := by
  unfold readPage at h
  obtain ⟨count, -, h⟩ := Outcome.bind_eq_ok.mp h
  obtain ⟨items, hitems, h⟩ := Outcome.bind_eq_ok.mp h
  obtain ⟨stationIds, hids, h⟩ := Outcome.bind_eq_ok.mp h
  obtain ⟨records, hrecords, h⟩ := Outcome.bind_eq_ok.mp h
  obtain ⟨nextLink, -, h⟩ := Outcome.bind_eq_ok.mp h
  cases h
  exact ⟨hitems, mapError_eq_ok.mp hids, mapError_eq_ok.mp hrecords⟩

theorem length_stationIds (h : readPage runtime collection sourceUrl payload = .ok page) :
    page.stationIds.length = page.items.length :=
  (Outcome.mapM_eq_ok.mp (readPage_spec h).2.1).length_eq.symm

/-- An id of the manifest, as `optional_str` leaves it. -/
theorem stripped_stationId (h : readPage runtime collection sourceUrl payload = .ok page)
    {stationId : Text} (hid : some stationId ∈ page.stationIds) :
    stripText stationId = stationId ∧ stationId ≠ [] := by
  obtain ⟨item, -, hitem⟩ := Outcome.exists_of_mem_mapM (readPage_spec h).2.1 hid
  have hthing : ∀ thing, thingStationId runtime.toRuntime thing = .ok (some stationId) →
      stripText stationId = stationId ∧ stationId ≠ [] := by
    intro thing hthing
    unfold thingStationId at hthing
    obtain ⟨own, hown, hthing⟩ := Outcome.bind_eq_ok.mp hthing
    cases own with
    | none => exact optionalStr_eq_some _ hthing
    | some own =>
      cases hthing
      exact optionalStr_eq_some _ hown
  unfold itemStationId at hitem
  split at hitem
  · split_ifs at hitem
    · exact hthing _ hitem
    · unfold datastreamStationId at hitem
      split at hitem
      · unfold recordStationId at hitem
        obtain ⟨own, hown, hitem⟩ := Outcome.bind_eq_ok.mp hitem
        cases own with
        | none => exact optionalStr_eq_some _ hitem
        | some own =>
          cases hitem
          exact hthing _ hown
      · cases hitem
  · cases hitem

theorem recordStationId_of_parse {nameTokens : List Text} {thing record : Members}
    (h : parseThing runtime.toRuntime sourceUrl nameTokens thing = .ok (some record)) :
    ∃ stationId, recordStationId runtime.toRuntime thing = .ok (some stationId) ∧
      record.lookup "station_id" = some (.text stationId) := by
  unfold parseThing at h
  obtain ⟨stationId, hid, h⟩ := Outcome.bind_eq_ok.mp h
  cases stationId with
  | none => cases h
  | some stationId =>
    obtain ⟨name, -, h⟩ := Outcome.bind_eq_ok.mp h
    obtain ⟨datastream, -, h⟩ := Outcome.bind_eq_ok.mp h
    cases datastream with
    | none => cases h
    | some datastream =>
      dsimp only at h
      cases hobservation : latestObservation datastream with
      | none =>
        rw [hobservation] at h
        cases h
      | some observation =>
        rw [hobservation] at h
        obtain ⟨observedAt, -, h⟩ := Outcome.bind_eq_ok.mp h
        obtain ⟨value, -, h⟩ := Outcome.bind_eq_ok.mp h
        cases observedAt with
        | none => cases h
        | some observedAt =>
          cases value with
          | none => cases h
          | some value =>
            obtain ⟨described, -, h⟩ := Outcome.bind_eq_ok.mp h
            cases h
            exact ⟨stationId, hid, rfl⟩

/-- The datastreams of a Thing say nothing of its id. -/
theorem recordStationId_setMember (thing : Members) (value : Value) :
    recordStationId runtime.toRuntime (setMember thing "Datastreams" value) =
      recordStationId runtime.toRuntime thing := by
  have hget : ∀ key, key ≠ "Datastreams" →
      get (setMember thing "Datastreams" value) key = get thing key := fun key hkey =>
    get_setMember_of_ne hkey
  unfold recordStationId thingStationId textOfFirst
  simp only [firstNotNone, hget "properties" (by decide), hget "@iot.id" (by decide),
    hget "name" (by decide)]

/-- On a page without a missing id every record has an id of the manifest. -/
theorem record_in_manifest (h : readPage runtime collection sourceUrl payload = .ok page)
    (hall : none ∉ page.stationIds) {record : Members} (hrecord : record ∈ page.records) :
    ∃ stationId, some stationId ∈ page.stationIds ∧
      record.lookup "station_id" = some (.text stationId) := by
  obtain ⟨-, hids, hrecords⟩ := readPage_spec h
  have hthings : holdsThings collection page.items = true → ∀ members,
      Value.object members ∈ page.items → ∀ nameTokens,
      parseThing runtime.toRuntime sourceUrl nameTokens members = .ok (some record) →
        ∃ stationId, some stationId ∈ page.stationIds ∧
          record.lookup "station_id" = some (.text stationId) := by
    intro hholds members hmem nameTokens hparse
    obtain ⟨stationId, hid, hlookup⟩ := recordStationId_of_parse hparse
    obtain ⟨found, hfound, hitem⟩ := Outcome.mapM_mem hids hmem
    unfold itemStationId at hitem
    rw [hholds] at hitem
    dsimp only at hitem
    rw [if_pos rfl] at hitem
    unfold recordStationId at hid
    rw [hitem] at hid
    cases found with
    | none => exact absurd hfound hall
    | some found =>
      cases hid
      exact ⟨stationId, hfound, hlookup⟩
  cases collection with
  | things nameTokens =>
    obtain ⟨members, hmem, hparse⟩ := parseItems_mem hrecords hrecord
    exact hthings rfl members hmem nameTokens hparse
  | datastreams =>
    have hread : datastreamRecords runtime.toRuntime sourceUrl page.items = .ok page.records :=
      hrecords
    unfold datastreamRecords at hread
    cases hlegacy : isLegacyPage page.items with
    | true =>
      rw [hlegacy, if_pos rfl] at hread
      obtain ⟨members, hmem, hparse⟩ := parseItems_mem hread hrecord
      exact hthings hlegacy members hmem [] hparse
    | false =>
      rw [hlegacy, if_neg Bool.false_ne_true] at hread
      obtain ⟨members, hmem, hparse⟩ := parseItems_mem hread hrecord
      obtain ⟨found, hfound, hitem⟩ := Outcome.mapM_mem hids hmem
      have hholds : holdsThings .datastreams page.items = false := hlegacy
      unfold itemStationId at hitem
      rw [hholds] at hitem
      dsimp only at hitem
      rw [if_neg Bool.false_ne_true] at hitem
      unfold parseDatastream at hparse
      unfold datastreamStationId at hitem
      cases hthing : get members "Thing" with
      | object thing =>
        rw [hthing] at hparse hitem
        obtain ⟨stationId, hid, hlookup⟩ := recordStationId_of_parse hparse
        rw [recordStationId_setMember] at hid
        cases Except.ok.inj (hitem.symm.trans hid)
        exact ⟨stationId, hfound, hlookup⟩
      | _ =>
        rw [hthing] at hparse
        cases hparse

/-! ### A complete proof -/

theorem Follows.read {next : Option Text}
    (h : Follows runtime collection sourceUrl server url pages next) : ∀ entry ∈ pages,
      ∃ payload, server entry.1 = some payload ∧
        readPage runtime collection sourceUrl payload = .ok entry.2 := by
  induction h with
  | start => exact fun _ hentry => absurd hentry List.not_mem_nil
  | page _ hpayload hpage ih =>
    intro entry hentry
    rcases List.mem_append.mp hentry with hold | hnew
    · exact ih entry hold
    · rw [List.mem_singleton.mp hnew]
      exact ⟨_, hpayload, hpage⟩

/-- What a complete inventory says of the pages from a URL on. -/
structure CompletePages (runtime : StaRuntime) (collection : Collection) (sourceUrl : Text)
    (server : Server) (url : Text) (pages : List (Text × Page)) (result : ThingsFetchResult) :
    Prop where
  follows : Follows runtime collection sourceUrl server url pages none
  once : (pages.map Prod.fst).Nodup
  counts : ∀ entry ∈ pages, ∀ count, entry.2.count = some count →
    count = some (pages.flatMap fun entry => entry.2.items).length
  manifest : ∃ stationIds : List Text,
    (pages.flatMap fun entry => entry.2.stationIds) = stationIds.map some ∧ stationIds.Nodup ∧
      result.proof.stationIds.Perm stationIds
  records : ∀ record ∈ result.records, ∃ stationId ∈ result.proof.stationIds,
    record.lookup "station_id" = some (.text stationId)

theorem length_items {next : Option Text}
    (h : Follows runtime collection sourceUrl server url pages next) :
    (pages.flatMap fun entry => entry.2.items).length =
      (pages.flatMap fun entry => entry.2.stationIds).length := by
  have hread := h.read
  clear h
  induction pages with
  | nil => rfl
  | cons entry rest ih =>
    obtain ⟨payload, -, hpage⟩ := hread entry List.mem_cons_self
    rw [List.flatMap_cons, List.flatMap_cons, List.length_append, List.length_append,
      ih fun other hother => hread other (List.mem_cons_of_mem entry hother),
      length_stationIds hpage]

theorem resolvedTotal_eq_some {total : ℕ} (h : resolvedTotal walk = some total) :
    walk.upstreamCountInvalid = false ∧ walk.upstreamTotals = [total] := by
  unfold resolvedTotal at h
  split at h
  · rename_i hinvalid htotals
    cases h
    exact ⟨hinvalid, htotals⟩
  · cases h

theorem fetchResult_eq_ok (h : fetchResult walk = .ok result) :
    result = ⟨walk.records, resolvedTotal walk, walk.pagesFetched, walk.paginationComplete,
      walk.sourceItemsSeen, walk.missingStationIdCount, walk.duplicateStationIdCount,
      sortTexts walk.stationIds⟩ := by
  unfold fetchResult InventoryProof.checked at h
  obtain ⟨proof, hproof, h⟩ := Outcome.bind_eq_ok.mp h
  rw [mapError_eq_ok] at hproof
  split_ifs at hproof
  cases hproof
  cases h
  rfl

theorem nodup_urls {keys : List Text}
    (hkeys : List.Forall₂ (fun entry key => withCountQuery runtime entry.1 = .ok key) pages keys)
    (honce : keys.Nodup) : (pages.map Prod.fst).Nodup := by
  induction hkeys with
  | nil => exact List.nodup_nil
  | @cons entry key pages keys hkey hrest ih =>
    rw [List.nodup_cons] at honce
    rw [List.map_cons, List.nodup_cons]
    refine ⟨?_, ih honce.2⟩
    intro hmem
    obtain ⟨other, hother, heq⟩ := List.mem_map.mp hmem
    obtain ⟨i, hi, hget⟩ := List.getElem_of_mem hother
    have hlength := hrest.length_eq
    have hpair := (List.forall₂_iff_get.mp hrest).2 i hi (hlength ▸ hi)
    rw [List.get_eq_getElem, hget, heq, hkey] at hpair
    apply honce.1
    rw [Except.ok.inj hpair]
    exact List.getElem_mem _

theorem completePages_of_complete
    (hinv : WalkInv runtime collection sourceUrl server url walk pages)
    (hended : walk.nextUrl = none) (hresult : fetchResult walk = .ok result)
    (hcomplete : result.proof.inventoryComplete = true) :
    CompletePages runtime collection sourceUrl server url pages result := by
  obtain rfl := fetchResult_eq_ok hresult
  have hperm : (sortTexts walk.stationIds).Perm walk.stationIds := sortTexts_perm _
  simp only [InventoryProof.inventoryComplete, Bool.and_eq_true, decide_eq_true_eq] at hcomplete
  obtain ⟨⟨⟨⟨⟨-, -⟩, hmissing⟩, hduplicates⟩, hseen⟩, htotal⟩ := hcomplete
  have hmanifest := hinv.manifest hmissing hduplicates
  obtain ⟨hvalid, htotals⟩ := resolvedTotal_eq_some htotal.symm
  have hfollows := hinv.follows
  rw [hended] at hfollows
  have hlength : (pages.flatMap fun entry => entry.2.items).length =
      (sortTexts walk.stationIds).length := by
    rw [length_items hfollows, ← hinv.seen]
    exact hseen
  constructor
  · exact hfollows
  · exact nodup_urls hinv.keys hinv.once
  · intro entry hentry count hcount
    cases count with
    | none =>
      rw [hinv.totals.invalid entry hentry hcount] at hvalid
      cases hvalid
    | some total =>
      have hmem := hinv.totals.total entry hentry total hcount
      rw [htotals] at hmem
      rw [List.mem_singleton.mp hmem, hlength]
  · exact ⟨walk.stationIds, hmanifest.symm, hinv.nodup, hperm⟩
  · intro record hrecord
    dsimp only at hrecord ⊢
    rw [hinv.records] at hrecord
    obtain ⟨entry, hentry, hmem⟩ := List.mem_flatMap.mp hrecord
    obtain ⟨payload, -, hpage⟩ := hfollows.read entry hentry
    have hids : ∀ found ∈ entry.2.stationIds, ∃ stationId ∈ walk.stationIds,
        some stationId = found := by
      intro found hfound
      have hall : found ∈ walk.stationIds.map some := by
        rw [hmanifest]
        exact List.mem_flatMap.mpr ⟨entry, hentry, hfound⟩
      exact List.mem_map.mp hall
    have hall : none ∉ entry.2.stationIds := by
      intro hnone
      obtain ⟨stationId, -, heq⟩ := hids none hnone
      cases heq
    obtain ⟨stationId, hid, hlookup⟩ := record_in_manifest hpage hall hmem
    obtain ⟨found, hfound, heq⟩ := hids _ hid
    cases heq
    exact ⟨stationId, hperm.mem_iff.mpr hfound, hlookup⟩

/-! ### Answers -/

/-- No error but those of the client. -/
def Answers {α : Type} (outcome : Except StaFailure α) : Prop :=
  ∀ cause, outcome ≠ .error (.raised cause)

theorem answers_mapError {α β : Type} {x : Except Raised α} {f : α → Except StaFailure β} :
    Answers (x.mapError .raised >>= f) ↔ ∃ a, x = .ok a ∧ Answers (f a) := by
  cases x with
  | error cause =>
    constructor
    · exact fun h => absurd rfl (h cause)
    · rintro ⟨a, ha, -⟩
      cases ha
  | ok a =>
    constructor
    · exact fun h => ⟨a, rfl, h⟩
    · rintro ⟨b, hb, h⟩
      cases hb
      exact h

theorem returns_mapM {α β : Type} {f : α → Except Raised β} {l : List α} :
    Outcome.Returns (l.mapM f) ↔ ∀ a ∈ l, Outcome.Returns (f a) := by
  constructor
  · rintro ⟨r, hr⟩ a ha
    obtain ⟨b, -, hb⟩ := Outcome.mapM_mem hr ha
    exact ⟨b, hb⟩
  · exact fun h => Outcome.exists_mapM h

/-- The ids and the records of all items. -/
theorem returns_items {items : List Value} :
    (∀ item ∈ items, Outcome.Returns (itemStationId runtime (holdsThings collection items) item)) ∧
        Outcome.Returns (pageRecords runtime collection sourceUrl items) ↔
      ∀ item, .object item ∈ items →
        ItemReads runtime.toRuntime collection (holdsThings collection items) item := by
  rw [returns_pageRecords]
  constructor
  · rintro ⟨hids, hrecords⟩ item hitem
    exact ⟨returns_itemStationId.mp (hids _ hitem) item rfl, hrecords item hitem⟩
  · intro h
    constructor
    · intro item hitem
      rw [returns_itemStationId]
      rintro members rfl
      exact (h members hitem).id
    · exact fun item hitem => (h item hitem).record

theorem answers_readPage : Answers (readPage runtime collection sourceUrl payload) ↔
    PageReads runtime collection payload := by
  unfold readPage
  rw [answers_mapError]
  cases hitems : pageItems collection payload with
  | error e =>
    have hpayload : e = .payload := by
      unfold pageItems at hitems
      split at hitems
      · cases hitems
      · split at hitems
        · cases hitems
        · cases hitems
          rfl
      · cases hitems
        rfl
    rw [hpayload]
    constructor
    · rintro ⟨count, hcount, -⟩
      exact ⟨returns_staUpstreamTotal.mp ⟨count, hcount⟩, fun _ h => (nomatch hitems.symm.trans h),
        fun _ h => (nomatch hitems.symm.trans h)⟩
    · intro h
      obtain ⟨count, hcount⟩ := returns_staUpstreamTotal.mpr h.count
      refine ⟨count, hcount, ?_⟩
      intro cause hcause
      cases hcause
  | ok items =>
    have hstep : ∀ count, Answers (do
        let items ← (Except.ok items : Except StaFailure (List Value))
        let things := holdsThings collection items
        let stationIds ← (items.mapM (itemStationId runtime things)).mapError .raised
        let records ← (pageRecords runtime collection sourceUrl items).mapError .raised
        let nextLink ← (staNextLink runtime payload).mapError .raised
        return (⟨count, items, stationIds, records, nextLink⟩ : Page)) ↔
        (∀ item, .object item ∈ items →
          ItemReads runtime.toRuntime collection (holdsThings collection items) item) ∧
            Prints runtime.toRuntime (get (membersOf payload) "@iot.nextLink") := by
      intro count
      show Answers ((items.mapM (itemStationId runtime (holdsThings collection items))).mapError
        .raised >>= _) ↔ _
      rw [answers_mapError, ← returns_items, ← returns_mapM, ← returns_staNextLink]
      constructor
      · rintro ⟨stationIds, hids, h⟩
        obtain ⟨records, hrecords, h⟩ := answers_mapError.mp h
        obtain ⟨nextLink, hlink, -⟩ := answers_mapError.mp h
        exact ⟨⟨⟨stationIds, hids⟩, ⟨records, hrecords⟩⟩, ⟨nextLink, hlink⟩⟩
      · rintro ⟨⟨⟨stationIds, hids⟩, ⟨records, hrecords⟩⟩, ⟨nextLink, hlink⟩⟩
        refine ⟨stationIds, hids, answers_mapError.mpr ⟨records, hrecords,
          answers_mapError.mpr ⟨nextLink, hlink, ?_⟩⟩⟩
        intro cause hcause
        cases hcause
    constructor
    · rintro ⟨count, hcount, h⟩
      obtain ⟨hread, hlink⟩ := (hstep count).mp h
      refine ⟨returns_staUpstreamTotal.mp ⟨count, hcount⟩, ?_, fun _ _ => hlink⟩
      intro found hfound
      cases hitems.symm.trans hfound
      exact hread
    · intro h
      obtain ⟨count, hcount⟩ := returns_staUpstreamTotal.mpr h.count
      exact ⟨count, hcount, (hstep count).mpr ⟨h.items items hitems, h.nextLink items hitems⟩⟩

end FloodRisk.CivilIot
